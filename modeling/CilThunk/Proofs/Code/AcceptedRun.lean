import CilThunk.Code.Verify
import Mathlib
/-!
# AcceptedRun — what an accepted body is

The verifier's run over a body, told without its order of checks: it accepts exactly the bodies that climb to their
one return within the limit, with at most one value there and every `tail.` in its place (`run_eq_ok_iff`).
-/
namespace CilThunk
namespace Verify

/-- What an instruction does to the height before the return.  A call has the effect of its site. -/
def effect? (sites : List CallSite) : Nat × Instruction → Option Int
  | (_, .ldarg _) => some 1
  | (_, .tail) => some 0
  | (offset, .calli token) => (siteOf? sites offset token).map (·.adjustment.toInt)
  | (_, .ret) => none

/-- Instructions with known effects that go from one height to another, within the limit on the way. -/
def Climbs (limit : UInt16) (sites : List CallSite) : Int → List (Nat × Instruction) → Int → Prop
  | bottom, [], top => bottom = top
  | bottom, x :: xs, top => ∃ d, effect? sites x = some d ∧ 0 ≤ bottom + d ∧ bottom + d ≤ limit.toNat ∧
      Climbs limit sites (bottom + d) xs top

/-- Every `tail.` is followed by a call and a return. -/
def TailsPlaced (is : List (Nat × Instruction)) : Prop :=
  ∀ pre offset post, is = pre ++ (offset, .tail) :: post → isTailCall post = true

/-- A place in a list with one more at its end is that end, or a place in the list. -/
theorem split_concat {α : Type} {body pre post : List α} {last x : α} (h : body ++ [last] = pre ++ x :: post) :
    (body = pre ∧ last = x ∧ post = []) ∨ ∃ post', body = pre ++ x :: post' ∧ post = post' ++ [last] := by
  obtain rfl | ⟨post', y, hpost⟩ := List.eq_nil_or_concat post
  · obtain ⟨hbody, hx⟩ := List.append_inj' h rfl
    exact .inl ⟨hbody, (List.cons.inj hx).1, rfl⟩
  · rw [List.concat_eq_append] at hpost
    rw [hpost, ← List.cons_append, ← List.append_assoc] at h
    obtain ⟨hbody, hlast⟩ := List.append_inj' h rfl
    exact .inr ⟨post', hbody, by rw [hpost, hlast]⟩

theorem tailsPlaced_nil : TailsPlaced [] := by
  intro pre offset post h
  cases pre <;> cases h

theorem tailsPlaced_cons (x : Nat × Instruction) (xs : List (Nat × Instruction)) :
    TailsPlaced (x :: xs) ↔ (x.2 = .tail → isTailCall xs = true) ∧ TailsPlaced xs := by
  constructor
  · intro h
    refine ⟨fun hx => h [] x.1 xs (by rw [← hx]; rfl), fun pre offset post hs => ?_⟩
    exact h (x :: pre) offset post (by rw [hs]; rfl)
  · rintro ⟨hx, hxs⟩ pre offset post hs
    obtain ⟨-, hs⟩ | ⟨pre', -, hs⟩ := List.cons_eq_append_iff.1 hs
    · cases hs
      exact hx rfl
    · exact hxs pre' offset post hs

/-- What a charge can come to. -/
theorem charge_cases (limit : UInt16) (offset : Nat) (height : Int) (delta : Int32) :
    (0 ≤ height + delta.toInt ∧ height + delta.toInt ≤ limit.toNat ∧
      charge limit offset height delta = .ok (height + delta.toInt)) ∨
    (height + delta.toInt < 0 ∧ FitsInt32 (-delta.toInt) ∧
      charge limit offset height delta = .error (.refused (.stackUnderflow offset (-delta.toInt) height))) ∨
    (limit.toNat < height + delta.toInt ∧ FitsInt32 (height + delta.toInt) ∧
      charge limit offset height delta = .error (.refused (.maxStackExceeded offset (height + delta.toInt) limit))) ∨
    ((height + delta.toInt < 0 ∨ limit.toNat < height + delta.toInt) ∧
      ∃ fault, ((fault = .addOverflow ∧ ¬ FitsInt32 (height + delta.toInt)) ∨
          (fault = .negateOverflow ∧ height + delta.toInt < 0 ∧ ¬ FitsInt32 (-delta.toInt))) ∧
        charge limit offset height delta = .error (.broken fault)) := by
  have hlimit := limit.toNat_lt
  unfold charge
  generalize height + delta.toInt = next
  simp only
  by_cases hnext : FitsInt32 next
  · rw [if_neg (not_not_intro hnext)]
    by_cases h0 : next < 0
    · rw [if_pos h0]
      by_cases hneg : FitsInt32 (-delta.toInt)
      · exact .inr (.inl ⟨h0, hneg, if_pos hneg⟩)
      · exact .inr (.inr (.inr ⟨.inl h0, _, .inr ⟨rfl, h0, hneg⟩, if_neg hneg⟩))
    · rw [if_neg h0]
      by_cases hl : limit.toNat < next
      · exact .inr (.inr (.inl ⟨hl, hnext, if_pos hl⟩))
      · exact .inl ⟨by omega, by omega, if_neg hl⟩
  · refine .inr (.inr (.inr ⟨?_, _, .inl ⟨rfl, hnext⟩, if_pos hnext⟩))
    unfold FitsInt32 at hnext
    omega

theorem charge_eq_ok_iff (limit : UInt16) (offset : Nat) (height : Int) (delta : Int32) (next : Int) :
    charge limit offset height delta = .ok next ↔
      next = height + delta.toInt ∧ 0 ≤ height + delta.toInt ∧ height + delta.toInt ≤ limit.toNat := by
  obtain ⟨h0, hl, hc⟩ | ⟨h0, -, hc⟩ | ⟨hl, -, hc⟩ | ⟨hout, fault, -, hc⟩ := charge_cases limit offset height delta
  · rw [hc, Except.ok.injEq]
    omega
  · rw [hc]
    exact iff_of_false (by simp) (by omega)
  · rw [hc]
    exact iff_of_false (by simp) (by omega)
  · rw [hc]
    exact iff_of_false (by simp) (by omega)

/-- A charge and what follows it are accepted if the next height is within the limit and the rest is accepted. -/
theorem charge_run_eq_ok_iff (limit : UInt16) (sites : List CallSite) (offset : Nat) (height : Int) (delta : Int32)
    (xs : List (Nat × Instruction)) :
    (charge limit offset height delta).bind (fun height => run limit sites height xs) = .ok () ↔
      0 ≤ height + delta.toInt ∧ height + delta.toInt ≤ limit.toNat ∧
        run limit sites (height + delta.toInt) xs = .ok () := by
  cases hc : charge limit offset height delta with
  | error halt =>
    simp only [Except.bind, reduceCtorEq, false_iff]
    rintro ⟨hlo, hhi, -⟩
    rw [(charge_eq_ok_iff limit offset height delta _).2 ⟨rfl, hlo, hhi⟩] at hc
    cases hc
  | ok next =>
    obtain ⟨rfl, hlo, hhi⟩ := (charge_eq_ok_iff limit offset height delta next).1 hc
    simp only [Except.bind, hlo, hhi, true_and]

theorem run_ldarg (limit : UInt16) (sites : List CallSite) (height : Int) (offset : Nat) (n : UInt16)
    (xs : List (Nat × Instruction)) :
    run limit sites height ((offset, .ldarg n) :: xs) =
      (charge limit offset height 1).bind (fun height => run limit sites height xs) := by
  rw [run]
  cases charge limit offset height 1 <;> rfl

theorem run_calli (limit : UInt16) (sites : List CallSite) (height : Int) (offset : Nat) (token : Token)
    (xs : List (Nat × Instruction)) {site : CallSite} (h : siteOf? sites offset token = some site) :
    run limit sites height ((offset, .calli token) :: xs) =
      (charge limit offset height site.adjustment).bind (fun height => run limit sites height xs) := by
  rw [run, h]
  simp only
  cases charge limit offset height site.adjustment <;> rfl

theorem run_ret_eq_ok_iff (limit : UInt16) (sites : List CallSite) (height : Int) (offset : Nat)
    (rest : List (Nat × Instruction)) :
    run limit sites height ((offset, .ret) :: rest) = .ok () ↔ height ≤ 1 ∧ rest = [] := by
  rw [run.eq_def]
  simp only
  split
  · simp only [reduceCtorEq, false_iff]
    omega
  · cases rest with
    | nil => simp only [true_iff, and_true]; omega
    | cons x xs => simp

/-- One step of an accepted run, at an instruction that is no return. -/
theorem run_cons_eq_ok_iff {limit : UInt16} {sites : List CallSite} {height : Int} {offset : Nat} {i : Instruction}
    (xs : List (Nat × Instruction)) (hi : i ≠ .ret) (h0 : 0 ≤ height) (hl : height ≤ limit.toNat) :
    run limit sites height ((offset, i) :: xs) = .ok () ↔
      ∃ d, effect? sites (offset, i) = some d ∧ 0 ≤ height + d ∧ height + d ≤ limit.toNat ∧
        (i = .tail → isTailCall xs = true) ∧ run limit sites (height + d) xs = .ok () := by
  cases i with
  | ret => exact absurd rfl hi
  | tail =>
    rw [run]
    cases isTailCall xs <;> simp [effect?, h0, hl]
  | ldarg n =>
    rw [run_ldarg, charge_run_eq_ok_iff]
    simp [effect?, show (1 : Int32).toInt = 1 from rfl]
  | calli token =>
    cases hs : siteOf? sites offset token with
    | none => simp [run, effect?, hs]
    | some site =>
      rw [run_calli limit sites height offset token xs hs, charge_run_eq_ok_iff]
      simp [effect?, hs]

/-- An instruction that stays within the limit is passed, unless it is a `tail.` out of its place. -/
theorem run_cons_of_effect {limit : UInt16} {sites : List CallSite} {height d : Int} {offset : Nat} {i : Instruction}
    (xs : List (Nat × Instruction)) (hd : effect? sites (offset, i) = some d) (h0 : 0 ≤ height + d)
    (hl : height + d ≤ limit.toNat) :
    run limit sites height ((offset, i) :: xs) =
      if i = .tail ∧ isTailCall xs = false then .error (.refused (.misplacedTailMark offset))
      else run limit sites (height + d) xs := by
  cases i with
  | ret => cases hd
  | tail =>
    cases hd
    rw [run]
    cases isTailCall xs <;> simp
  | ldarg n =>
    cases hd
    rw [run_ldarg, (charge_eq_ok_iff limit offset height 1 _).2 ⟨rfl, h0, hl⟩]
    simp [Except.bind, show (1 : Int32).toInt = 1 from rfl]
  | calli token =>
    cases hs : siteOf? sites offset token with
    | none => simp [effect?, hs] at hd
    | some site =>
      simp only [effect?, hs, Option.map_some, Option.some.injEq] at hd
      subst hd
      rw [run_calli limit sites height offset token xs hs, (charge_eq_ok_iff limit offset height _ _).2 ⟨rfl, h0, hl⟩]
      simp [Except.bind]

/-- **An accepted body is a climb to its one return.** -/
theorem run_eq_ok_iff {limit : UInt16} {sites : List CallSite} : ∀ (is : List (Nat × Instruction)) {height : Int},
    0 ≤ height → height ≤ limit.toNat →
    (run limit sites height is = .ok () ↔
      ∃ body offset top, is = body ++ [(offset, .ret)] ∧ Climbs limit sites height body top ∧ top ≤ 1 ∧
        TailsPlaced is)
  | [], height, _, _ => by simp [run]
  | (offset, i) :: xs, height, h0, hl => by
    by_cases hi : i = .ret
    · subst hi
      rw [run_ret_eq_ok_iff]
      constructor
      · rintro ⟨h1, rfl⟩
        refine ⟨[], offset, height, rfl, rfl, h1, ?_⟩
        rw [tailsPlaced_cons]
        exact ⟨fun h => absurd h (by simp), tailsPlaced_nil⟩
      · rintro ⟨body, offset', top, hs, hc, h1, -⟩
        cases body with
        | nil =>
          obtain rfl : height = top := hc
          simp only [List.nil_append, List.cons.injEq] at hs
          exact ⟨h1, hs.2⟩
        | cons y body =>
          simp only [List.cons_append, List.cons.injEq] at hs
          obtain ⟨d, hd, -⟩ := hc
          rw [← hs.1] at hd
          cases hd
    · rw [run_cons_eq_ok_iff xs hi h0 hl]
      constructor
      · rintro ⟨d, hd, hlo, hhi, ht, hrun⟩
        obtain ⟨body, offset', top, rfl, hc, h1, htp⟩ := (run_eq_ok_iff xs hlo hhi).1 hrun
        exact ⟨(offset, i) :: body, offset', top, rfl, ⟨d, hd, hlo, hhi, hc⟩, h1, (tailsPlaced_cons _ _).2 ⟨ht, htp⟩⟩
      · rintro ⟨body, offset', top, hs, hc, h1, htp⟩
        cases body with
        | nil =>
          simp only [List.nil_append, List.cons.injEq, Prod.mk.injEq] at hs
          exact absurd hs.1.2 hi
        | cons y body =>
          simp only [List.cons_append, List.cons.injEq] at hs
          obtain ⟨rfl, rfl⟩ := hs
          obtain ⟨d, hd, hlo, hhi, hc⟩ := hc
          obtain ⟨ht, htp⟩ := (tailsPlaced_cons _ _).1 htp
          exact ⟨d, hd, hlo, hhi, ht, (run_eq_ok_iff _ hlo hhi).2 ⟨body, offset', top, rfl, hc, h1, htp⟩⟩

theorem run_zero_eq_verify {code : List UInt8} {limit : UInt16} {sites : List CallSite} {is : List (Nat × Instruction)}
    (hd : Code.decode code = .ok is) (hne : is ≠ []) : verify code limit sites = run limit sites 0 is := by
  unfold verify
  rw [hd]
  cases is with
  | nil => exact absurd rfl hne
  | cons x is => rfl

theorem verify_eq_ok_iff_run (code : List UInt8) (maxStack : UInt16) (sites : List CallSite) :
    verify code maxStack sites = .ok () ↔ ∃ is, Code.decode code = .ok is ∧ run maxStack sites 0 is = .ok () := by
  unfold verify
  cases Code.decode code with
  | error e => simp
  | ok is => cases is <;> simp [run]

/-- **An accepted body, unpacked**, from its bytes on. -/
theorem verify_eq_ok_iff (code : List UInt8) (maxStack : UInt16) (sites : List CallSite) :
    verify code maxStack sites = .ok () ↔
      ∃ body offset top, Code.decode code = .ok (body ++ [(offset, .ret)]) ∧ Climbs maxStack sites 0 body top ∧
        top ≤ 1 ∧ TailsPlaced (body ++ [(offset, .ret)]) := by
  have hrun := fun is => @run_eq_ok_iff maxStack sites is 0 (Int.le_refl 0) (Int.natCast_nonneg _)
  rw [verify_eq_ok_iff_run]
  constructor
  · rintro ⟨is, hd, hr⟩
    obtain ⟨body, offset, top, rfl, h⟩ := (hrun is).1 hr
    exact ⟨body, offset, top, hd, h⟩
  · rintro ⟨body, offset, top, hd, h⟩
    exact ⟨_, hd, (hrun _).2 ⟨body, offset, top, rfl, h⟩⟩

end Verify
end CilThunk
