import CilThunk.Declaration
import CilThunk.Proofs.Code.AcceptedRun
/-!
# PopFirst — verified code on a machine that takes before it gives

The verifier knows the net effect of a call, the machine takes all arguments before it pushes a result.  On accepted
code the two come apart in one way (`traffic_cases`): a call that returns a value is let through with one argument
missing, since its result makes up for it.  No other instruction of accepted code wants more than there is.
-/
namespace CilThunk

/-- A call in the code and what its signature says of it. -/
structure SignedCall where
  offset : Nat
  token : Token
  arity : UInt16
  isVoid : Bool

namespace SignedCall

def site (c : SignedCall) : CallSite := ⟨c.offset, c.token, stackAdjustment c.arity c.isVoid⟩

/-- The first call of an offset and a token. -/
def at? (table : List SignedCall) (offset : Nat) (token : Token) : Option SignedCall :=
  table.find? (fun c => c.offset == offset && c.token == token)

end SignedCall

namespace PopFirst

/-- An instruction that wants more values than the stack holds. -/
structure Shortage where
  offset : Nat
  wanted : Nat
  held : Nat

/-- How many values an instruction takes from a stack, and how many it then puts there.  A return takes the value that
there is, if there is one. -/
def traffic (table : List SignedCall) (height : Nat) : Nat × Instruction → Nat × Nat
  | (_, .ldarg _) => (0, 1)
  | (_, .tail) => (0, 0)
  | (offset, .calli token) =>
    match SignedCall.at? table offset token with
    | some c => (c.arity.toNat, if c.isVoid then 0 else 1)
    | none => (0, 0)
  | (_, .ret) => (min 1 height, 0)

/-- The height of the stack behind some code, or the first instruction that wants more than there is. -/
def run (table : List SignedCall) (height : Nat) : List (Nat × Instruction) → Except Shortage Nat
  | [] => .ok height
  | x :: xs =>
    let (taken, given) := traffic table height x
    if height < taken then .error ⟨x.1, taken, height⟩ else run table (height - taken + given) xs

/-- The height behind some code as the verifier counts it. -/
def netHeight (table : List SignedCall) (is : List (Nat × Instruction)) : Int :=
  (is.map (fun x => (Verify.effect? (table.map SignedCall.site) x).getD 0)).sum

/-- A call that returns a value, with all but one of its arguments on the stack. -/
def LacksOne (table : List SignedCall) (height : Int) (x : Nat × Instruction) : Prop :=
  ∃ token c, x.2 = .calli token ∧ SignedCall.at? table x.1 token = some c ∧ c.isVoid = false ∧
    (c.arity.toNat : Int) = height + 1

open Verify

theorem siteOf?_map_site (table : List SignedCall) (offset : Nat) (token : Token) :
    siteOf? (table.map SignedCall.site) offset token = (SignedCall.at? table offset token).map SignedCall.site := by
  rw [siteOf?, List.find?_map]
  rfl

/-- The effect that the verifier knows of a call is that of its signature. -/
theorem effect?_calli {table : List SignedCall} {offset : Nat} {token : Token} {d : Int}
    (h : effect? (table.map SignedCall.site) (offset, .calli token) = some d) :
    ∃ c, SignedCall.at? table offset token = some c ∧ d = (if c.isVoid then 0 else 1) - (c.arity.toNat : Int) := by
  rw [effect?, siteOf?_map_site, Option.map_map, Option.map_eq_some_iff] at h
  obtain ⟨c, hc, rfl⟩ := h
  exact ⟨c, hc, toInt_stackAdjustment c.arity c.isVoid⟩

/-- **One step**: the machine goes where the verifier does, or it lacks one argument of a call with a result. -/
theorem traffic_cases {table : List SignedCall} {height : Nat} {x : Nat × Instruction} {d : Int}
    (hd : effect? (table.map SignedCall.site) x = some d) (h0 : 0 ≤ height + d) :
    (¬ height < (traffic table height x).1 ∧ ¬ LacksOne table height x ∧
      ((height - (traffic table height x).1 + (traffic table height x).2 : Nat) : Int) = height + d) ∨
    (height < (traffic table height x).1 ∧ LacksOne table height x ∧ (traffic table height x).1 = height + 1) := by
  obtain ⟨offset, i⟩ := x
  cases i with
  | ret => cases hd
  | ldarg n =>
    cases hd
    exact .inl ⟨Nat.not_lt_zero _, (fun ⟨_, _, h, _⟩ => by cases h), by simp [traffic]⟩
  | tail =>
    cases hd
    exact .inl ⟨Nat.not_lt_zero _, (fun ⟨_, _, h, _⟩ => by cases h), by simp [traffic]⟩
  | calli token =>
    obtain ⟨c, hc, rfl⟩ := effect?_calli hd
    have ht : traffic table height (offset, .calli token) = (c.arity.toNat, if c.isVoid then 0 else 1) := by
      simp only [traffic, hc]
    have hl : LacksOne table height (offset, .calli token) ↔ c.isVoid = false ∧ c.arity.toNat = height + 1 := by
      constructor
      · rintro ⟨token', c', htok, hc', hv, ha⟩
        cases htok
        rw [hc] at hc'
        cases hc'
        exact ⟨hv, by omega⟩
      · rintro ⟨hv, ha⟩
        exact ⟨token, c, rfl, hc, hv, by omega⟩
    rw [ht, hl]
    cases hv : c.isVoid <;>
      simp only [hv, if_true, if_false, Bool.false_eq_true, Bool.true_eq_false, true_and, false_and,
        not_false_eq_true] at h0 ⊢ <;> omega

theorem netHeight_cons (table : List SignedCall) {x : Nat × Instruction} {d : Int} (xs : List (Nat × Instruction))
    (hd : effect? (table.map SignedCall.site) x = some d) : netHeight table (x :: xs) = d + netHeight table xs := by
  simp [netHeight, hd]

/-- **A climb on the machine**: it reaches the top at the verifier's height, or stops at a call that lacks one
argument. -/
theorem run_of_climbs {table : List SignedCall} {limit : UInt16} {top : Int} (rest : List (Nat × Instruction)) :
    ∀ (xs : List (Nat × Instruction)) (height : Nat), Climbs limit (table.map SignedCall.site) height xs top →
      ((∀ pre x post, xs = pre ++ x :: post → ¬ LacksOne table (height + netHeight table pre) x) ∧
        run table height (xs ++ rest) = run table top.toNat rest) ∨
      ∃ pre x post s, xs = pre ++ x :: post ∧ LacksOne table (height + netHeight table pre) x ∧
        run table height (xs ++ rest) = .error s ∧ s.offset = x.1 ∧ (s.held : Int) = height + netHeight table pre ∧
        s.wanted = s.held + 1
  | [], height, hc => by
    cases hc
    refine .inl ⟨fun pre x post h => ?_, rfl⟩
    cases pre <;> cases h
  | x :: xs, height, hc => by
    obtain ⟨d, hd, h0, -, hc⟩ := hc
    rw [List.cons_append, run]
    obtain ⟨hen, hno, hnext⟩ | ⟨hshort, hlack, hone⟩ := traffic_cases hd h0
    · rw [← hnext] at hc
      simp only [if_neg hen]
      obtain ⟨hall, hrun⟩ | ⟨pre, y, post, s, rfl, hlack, hrun, hoff, hheld, hwant⟩ := run_of_climbs rest xs _ hc
      · refine .inl ⟨fun pre y post hs => ?_, hrun⟩
        obtain ⟨rfl, heq⟩ | ⟨pre', rfl, hs'⟩ := List.cons_eq_append_iff.1 hs
        · cases heq
          simpa [netHeight] using hno
        · rw [netHeight_cons table pre' hd, ← Int.add_assoc, ← hnext]
          exact hall pre' y post hs'
      · rw [hnext, Int.add_assoc, ← netHeight_cons table pre hd] at hlack hheld
        exact .inr ⟨x :: pre, y, post, s, rfl, hlack, hrun, hoff, hheld, hwant⟩
    · simp only [if_pos hshort]
      exact .inr ⟨[], x, xs, _, rfl, by simpa [netHeight] using hlack, rfl, rfl, by simp [netHeight], hone⟩

theorem climbs_at {limit : UInt16} {table : List SignedCall} {x : Nat × Instruction} {post : List (Nat × Instruction)}
    {top : Int} : ∀ (pre : List (Nat × Instruction)) {bottom : Int},
      Climbs limit (table.map SignedCall.site) bottom (pre ++ x :: post) top →
      ∃ d, effect? (table.map SignedCall.site) x = some d ∧ 0 ≤ bottom + netHeight table pre + d
  | [], bottom, hc => by
    obtain ⟨d, hd, h0, -⟩ := hc
    exact ⟨d, hd, by simpa [netHeight] using h0⟩
  | y :: pre, bottom, hc => by
    obtain ⟨e, he, -, -, hc⟩ := hc
    obtain ⟨d, hd, h0⟩ := climbs_at pre hc
    exact ⟨d, hd, by rw [netHeight_cons table pre he]; omega⟩

theorem calli_before_return {body pre post : List (Nat × Instruction)} {last offset : Nat} {token : Token}
    (h : body ++ [(last, .ret)] = pre ++ (offset, .calli token) :: post) :
    ∃ post', body = pre ++ (offset, .calli token) :: post' := by
  obtain ⟨-, hx, -⟩ | ⟨post', hbody, -⟩ := split_concat h
  · cases hx
  · exact ⟨post', hbody⟩

/-- A climb from the empty stack and the return behind it. -/
theorem run_accepted {table : List SignedCall} {limit : UInt16} {body : List (Nat × Instruction)} {top : Int}
    (last : Nat) (hc : Climbs limit (table.map SignedCall.site) 0 body top) :
    ((∀ pre x post, body = pre ++ x :: post → ¬ LacksOne table (netHeight table pre) x) ∧
      ∃ height, run table 0 (body ++ [(last, .ret)]) = .ok height) ∨
    ∃ pre x post s, body = pre ++ x :: post ∧ LacksOne table (netHeight table pre) x ∧
      run table 0 (body ++ [(last, .ret)]) = .error s ∧ s.offset = x.1 ∧ (s.held : Int) = netHeight table pre ∧
      s.wanted = s.held + 1 := by
  have hrun := run_of_climbs [(last, .ret)] body 0 hc
  simp only [Int.natCast_zero, Int.zero_add] at hrun
  have hend : run table top.toNat [(last, .ret)] = .ok (top.toNat - min 1 top.toNat + 0) :=
    if_neg (Nat.not_lt.2 (Nat.min_le_right 1 _))
  obtain ⟨hall, hok⟩ | herr := hrun
  · exact .inl ⟨hall, _, hok.trans hend⟩
  · exact .inr herr

/-- **The one shortage of accepted code.** -/
theorem shortage_of_verified (code : List UInt8) (limit : UInt16) (table : List SignedCall)
    (h : verify code limit (table.map SignedCall.site) = .ok ()) :
    ∃ is, Code.decode code = .ok is ∧
      (∀ pre offset token post, is = pre ++ (offset, .calli token) :: post →
        ∃ c, SignedCall.at? table offset token = some c ∧
          (c.arity.toNat : Int) ≤ netHeight table pre + if c.isVoid then 0 else 1) ∧
      (∀ s, run table 0 is = .error s →
        ∃ token c, (s.offset, .calli token) ∈ is ∧ SignedCall.at? table s.offset token = some c ∧ c.isVoid = false ∧
          s.wanted = c.arity.toNat ∧ s.wanted = s.held + 1) ∧
      ((∃ height, run table 0 is = .ok height) ↔
        ∀ pre offset token post c, is = pre ++ (offset, .calli token) :: post →
          SignedCall.at? table offset token = some c → c.isVoid = false →
            (c.arity.toNat : Int) ≠ netHeight table pre + 1) := by
  obtain ⟨body, last, top, hdecode, hc, -, -⟩ := (verify_eq_ok_iff _ _ _).1 h
  refine ⟨_, hdecode, ?_, ?_, ?_⟩
  · intro pre offset token post hs
    obtain ⟨post', rfl⟩ := calli_before_return hs
    obtain ⟨d, hd, h0⟩ := climbs_at pre hc
    obtain ⟨c, hat, rfl⟩ := effect?_calli hd
    exact ⟨c, hat, by omega⟩
  · intro s hs
    obtain ⟨-, height, hok⟩ | ⟨pre, x, post, s', rfl, ⟨token, c, htok, hat, hv, ha⟩, herr, hoff, hheld, hwant⟩ :=
      run_accepted last hc
    · rw [hok] at hs
      cases hs
    · rw [herr] at hs
      cases hs
      rw [← hoff] at hat
      refine ⟨token, c, ?_, hat, hv, by omega, hwant⟩
      rw [hoff, ← htok]
      simp
  · obtain ⟨hall, hok⟩ | ⟨pre, x, post, s, rfl, ⟨token, c, htok, hat, hv, ha⟩, herr, -⟩ := run_accepted last hc
    · refine iff_of_true hok (fun pre offset token post c hs hat hv ha => ?_)
      obtain ⟨post', hbody⟩ := calli_before_return hs
      exact hall pre _ post' hbody ⟨token, c, rfl, hat, hv, ha⟩
    · refine iff_of_false (fun ⟨height, hok⟩ => ?_) (fun hall => ?_)
      · rw [herr] at hok
        cases hok
      · refine hall pre x.1 token (post ++ [(last, .ret)]) c ?_ hat hv ha
        rw [← htok]
        simp

/-- A call that returns a value is accepted without its argument. -/
theorem accepted_call_short_of_argument :
    ¬ ∀ (code : List UInt8) (limit : UInt16) (table : List SignedCall),
      verify code limit (table.map SignedCall.site) = .ok () →
        ∃ is height, Code.decode code = .ok is ∧ run table 0 is = .ok height := by
  intro h
  obtain ⟨is, height, hd, hr⟩ := h [0x29, 1, 0, 0, 0x11, 0x2A] 0 [⟨0, ⟨0x11000001⟩, 1, false⟩] (by cbv)
  have hdecode : Code.decode [0x29, 1, 0, 0, 0x11, 0x2A] = .ok [(0, .calli ⟨0x11000001⟩), (5, .ret)] := by cbv
  rw [hdecode] at hd
  cases hd
  cases hr

theorem shortage_of_verified_one_missing :
    verify [0x02, 0x29, 1, 0, 0, 0x11, 0x2A] 1 ([⟨1, ⟨0x11000001⟩, 2, false⟩].map SignedCall.site) = .ok () ∧
      ∃ is s, Code.decode [0x02, 0x29, 1, 0, 0, 0x11, 0x2A] = .ok is ∧
        run [⟨1, ⟨0x11000001⟩, 2, false⟩] 0 is = .error s ∧ s.wanted = s.held + 1 := by
  have h : verify [0x02, 0x29, 1, 0, 0, 0x11, 0x2A] 1 ([⟨1, ⟨0x11000001⟩, 2, false⟩].map SignedCall.site) = .ok () := by
    cbv
  have hdecode : Code.decode [0x02, 0x29, 1, 0, 0, 0x11, 0x2A] =
      .ok [(0, .ldarg 0), (1, .calli ⟨0x11000001⟩), (6, .ret)] := by cbv
  have hrun : run [⟨1, ⟨0x11000001⟩, 2, false⟩] 0 [(0, .ldarg 0), (1, .calli ⟨0x11000001⟩), (6, .ret)] =
      .error ⟨1, 2, 1⟩ := rfl
  obtain ⟨is, hd, -, hshort, -⟩ := shortage_of_verified _ _ _ h
  rw [hdecode] at hd
  cases hd
  obtain ⟨_, _, _, _, _, _, hone⟩ := hshort _ hrun
  exact ⟨h, _, _, hdecode, hrun, hone⟩

end PopFirst
end CilThunk
