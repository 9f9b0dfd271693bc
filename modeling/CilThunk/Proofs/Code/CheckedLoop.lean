import CilThunk.Proofs.Code.AcceptedRun
/-!
# CheckedLoop — where the verifier's arithmetic gives out

`Verify.run` leaves out what cannot happen.  Here is the same loop with every turn in full: the negation of the height
at a return is checked like the other operations on 32-bit numbers, and the turn behind a return is a turn like any
other.  It is the verifier's run (`run_eq_loop`).  Its heights stay within the limit (`Reaches.height_bounds`), and from
that follows which operations can leave the 32 bits, and where (`turn_broken_iff`).
-/
namespace CilThunk
namespace Verify

/-- The verifier between two instructions. -/
structure Position where
  height : Int
  returned : Bool

/-- What an instruction is charged, if it stands where it may.  A return is charged all that is there. -/
def change (sites : List CallSite) (height : Int) (offset : Nat) (i : Instruction) (post : List (Nat × Instruction)) :
    Except (Halt VerifyError) Int32 :=
  match i with
  | .ldarg _ => .ok 1
  | .tail => if isTailCall post then .ok 0 else .error (.refused (.misplacedTailMark offset))
  | .calli token =>
    match siteOf? sites offset token with
    | some site => .ok site.adjustment
    | none => .error (.refused (.unknownCallSite offset token))
  | .ret =>
    if 1 < height then .error (.refused (.unbalancedReturn offset height))
    else if FitsInt32 (-height) then .ok (Int32.ofInt (-height))
    else .error (.broken .negateOverflow)

/-- One turn of the loop, at an instruction with `post` behind it. -/
def turn (limit : UInt16) (sites : List CallSite) (p : Position) (offset : Nat) (i : Instruction)
    (post : List (Nat × Instruction)) : Except (Halt VerifyError) Position :=
  if p.returned then .error (.refused (.codeAfterReturn offset))
  else
    match change sites p.height offset i post with
    | .error halt => .error halt
    | .ok delta => (charge limit offset p.height delta).map fun next => ⟨next, i = .ret⟩

def loop (limit : UInt16) (sites : List CallSite) (p : Position) :
    List (Nat × Instruction) → Except (Halt VerifyError) Unit
  | [] => if p.returned then .ok () else .error (.refused .missingReturn)
  | (offset, i) :: post =>
    match turn limit sites p offset i post with
    | .error halt => .error halt
    | .ok p => loop limit sites p post

/-- The loop over a body gets to `p` with `post` ahead: everything before it has passed every check. -/
inductive Reaches (limit : UInt16) (sites : List CallSite) (is : List (Nat × Instruction)) :
    Position → List (Nat × Instruction) → Prop
  | start : Reaches limit sites is ⟨0, false⟩ is
  | turn {p q : Position} {offset : Nat} {i : Instruction} {post : List (Nat × Instruction)}
    (h : Reaches limit sites is p ((offset, i) :: post)) (hturn : turn limit sites p offset i post = .ok q) :
    Reaches limit sites is q post

/-- The fault of charging an effect to a height: the effect has no negation, or the sum is too large. -/
def GivesOut (height : Int) (delta : Int32) (fault : Fault) : Prop :=
  (fault = .negateOverflow ∧ delta = Int32.minValue) ∨ (fault = .addOverflow ∧ 2147483647 < height + delta.toInt)

section
variable {limit : UInt16} {sites : List CallSite} {is post : List (Nat × Instruction)} {p q : Position}
  {offset : Nat} {i : Instruction} {height : Int} {delta : Int32} {token : Token} {halt : Halt VerifyError}
  {fault : Fault}

/-! ## What is charged -/

theorem change_of_isTailCall (h : isTailCall post = true) : change sites height offset .tail post = .ok 0 := if_pos h

theorem change_of_not_isTailCall (h : ¬ isTailCall post = true) :
    change sites height offset .tail post = .error (.refused (.misplacedTailMark offset)) := if_neg h

theorem change_of_site {site : CallSite} (h : siteOf? sites offset token = some site) :
    change sites height offset (.calli token) post = .ok site.adjustment := by
  simp only [change, h]

theorem change_of_no_site (h : siteOf? sites offset token = none) :
    change sites height offset (.calli token) post = .error (.refused (.unknownCallSite offset token)) := by
  simp only [change, h]

theorem change_of_leftover (h : 1 < height) :
    change sites height offset .ret post = .error (.refused (.unbalancedReturn offset height)) := if_pos h

theorem change_of_balanced (sites : List CallSite) (offset : Nat) (post : List (Nat × Instruction)) (h0 : 0 ≤ height)
    (h : ¬ 1 < height) : ∃ delta : Int32, delta.toInt = -height ∧ change sites height offset .ret post = .ok delta := by
  have hneg : FitsInt32 (-height) := And.intro (by omega) (by omega)
  exact ⟨_, Int32.toInt_ofInt_of_le (by omega) (by omega), (if_neg h).trans (if_pos hneg)⟩

/-- **What an instruction can be charged**: nothing, if it stands where it may not; at most one value either way; or, if
it is a call, what its site says. -/
theorem change_cases (sites : List CallSite) (offset : Nat) (i : Instruction) (post : List (Nat × Instruction))
    (h0 : 0 ≤ height) :
    ((∃ e, change sites height offset i post = .error (.refused e)) ∧
      ∀ token site, i = .calli token → siteOf? sites offset token ≠ some site) ∨
    ((∃ delta : Int32, -1 ≤ delta.toInt ∧ delta.toInt ≤ 1 ∧ change sites height offset i post = .ok delta) ∧
      ∀ token, i ≠ .calli token) ∨
    ∃ token site, i = .calli token ∧ siteOf? sites offset token = some site ∧
      change sites height offset i post = .ok site.adjustment := by
  cases i with
  | ldarg n => exact .inr (.inl ⟨⟨1, by decide, by decide, rfl⟩, by simp⟩)
  | tail =>
    by_cases ht : isTailCall post = true
    · exact .inr (.inl ⟨⟨0, by decide, by decide, change_of_isTailCall ht⟩, by simp⟩)
    · exact .inl ⟨⟨_, change_of_not_isTailCall ht⟩, by simp⟩
  | ret =>
    by_cases h1 : 1 < height
    · exact .inl ⟨⟨_, change_of_leftover h1⟩, by simp⟩
    · obtain ⟨delta, hdelta, hd⟩ := change_of_balanced sites offset post h0 h1
      exact .inr (.inl ⟨⟨delta, by omega, by omega, hd⟩, by simp⟩)
  | calli token =>
    cases hs : siteOf? sites offset token with
    | none => exact .inl ⟨⟨_, change_of_no_site hs⟩, by rintro _ site ⟨⟩; simp [hs]⟩
    | some site => exact .inr (.inr ⟨token, site, rfl, hs, change_of_site hs⟩)

theorem toInt_eq_min_iff (n : Int32) : n.toInt = -2147483648 ↔ n = Int32.minValue := by
  rw [← Int32.toInt_inj]
  rfl

/-- **A charge leaves the 32 bits in two ways**: the height rises too far, or it falls below zero by a number that has no
negation. -/
theorem charge_broken_iff (h0 : 0 ≤ height) (hl : height ≤ limit.toNat) :
    charge limit offset height delta = .error (.broken fault) ↔ GivesOut height delta fault := by
  have hlimit := limit.toNat_lt
  have hlo := delta.le_toInt
  have hhi := delta.toInt_lt
  unfold GivesOut
  rw [← toInt_eq_min_iff]
  have hcases := charge_cases limit offset height delta
  unfold FitsInt32 at hcases
  obtain ⟨h0', hl', hc⟩ | ⟨hbelow, hneg, hc⟩ | ⟨habove, hsum, hc⟩ | ⟨-, fault', hfault, hc⟩ := hcases
  · rw [hc]
    exact iff_of_false (by simp) (by omega)
  · rw [hc]
    exact iff_of_false (by simp) (by omega)
  · rw [hc]
    exact iff_of_false (by simp) (by omega)
  · rw [hc, Except.error.injEq, Halt.broken.injEq]
    obtain ⟨rfl, hsum⟩ | ⟨rfl, hbelow, hneg⟩ := hfault
    · have hhigh : 2147483647 < height + delta.toInt := by omega
      constructor
      · rintro rfl
        exact .inr ⟨rfl, hhigh⟩
      · rintro (⟨-, hmin⟩ | ⟨rfl, -⟩)
        · omega
        · rfl
    · have hmin : delta.toInt = -2147483648 := by omega
      constructor
      · rintro rfl
        exact .inl ⟨rfl, hmin⟩
      · rintro (⟨rfl, -⟩ | ⟨-, hhigh⟩)
        · rfl
        · omega

/-! ## One turn -/

theorem turn_of_change_error (hp : p.returned = false) (h : change sites p.height offset i post = .error halt) :
    turn limit sites p offset i post = .error halt := by
  simp only [turn, hp, Bool.false_eq_true, if_false, h]

theorem turn_of_change (hp : p.returned = false) (h : change sites p.height offset i post = .ok delta) :
    turn limit sites p offset i post = (charge limit offset p.height delta).map fun next => ⟨next, i = .ret⟩ := by
  simp only [turn, hp, Bool.false_eq_true, if_false, h]

theorem turn_broken_iff_of_change (hp : p.returned = false) (h0 : 0 ≤ p.height) (hl : p.height ≤ limit.toNat)
    (h : change sites p.height offset i post = .ok delta) :
    turn limit sites p offset i post = .error (.broken fault) ↔ GivesOut p.height delta fault := by
  rw [← charge_broken_iff h0 hl, turn_of_change hp h]
  cases charge limit offset p.height delta <;> simp [Except.map]

/-- **A turn of the loop gives out at a call only**, and there for its effect: it has no negation, or it lifts the height
out of the 32 bits. -/
theorem turn_broken_iff (h0 : 0 ≤ p.height) (hl : p.height ≤ limit.toNat) :
    turn limit sites p offset i post = .error (.broken fault) ↔
      p.returned = false ∧ ∃ token site, i = .calli token ∧ siteOf? sites offset token = some site ∧
        GivesOut p.height site.adjustment fault := by
  have hlimit := limit.toNat_lt
  cases hp : p.returned with
  | true => simp [turn, hp]
  | false =>
    obtain ⟨⟨e, he⟩, hsite⟩ | ⟨⟨delta, hlo, hhi, hd⟩, hcall⟩ | ⟨token, site, rfl, hs, hd⟩ :=
      change_cases sites offset i post h0
    · rw [turn_of_change_error hp he]
      refine iff_of_false (by simp) ?_
      rintro ⟨-, token, site, hi, hs, -⟩
      exact hsite token site hi hs
    · rw [turn_broken_iff_of_change hp h0 hl hd]
      refine iff_of_false ?_ ?_
      · unfold GivesOut
        rw [← toInt_eq_min_iff]
        omega
      · rintro ⟨-, token, site, hi, -⟩
        exact hcall token hi
    · rw [turn_broken_iff_of_change hp h0 hl hd]
      simp [hs]

theorem bounds_of_turn (h : turn limit sites p offset i post = .ok q) : 0 ≤ q.height ∧ q.height ≤ limit.toNat := by
  unfold turn at h
  split at h
  · cases h
  split at h
  · cases h
  rename_i delta hd
  cases hc : charge limit offset p.height delta with
  | error halt =>
    rw [hc] at h
    cases h
  | ok next =>
    rw [hc] at h
    cases h
    obtain ⟨rfl, hbounds⟩ := (charge_eq_ok_iff ..).1 hc
    exact hbounds

/-! ## The loop -/

theorem Reaches.height_bounds (h : Reaches limit sites is p post) : 0 ≤ p.height ∧ p.height ≤ limit.toNat := by
  cases h with
  | start => exact ⟨Int.le_refl 0, Int.natCast_nonneg _⟩
  | turn _ hturn => exact bounds_of_turn hturn

theorem Reaches.suffix (h : Reaches limit sites is p post) : post <:+ is := by
  induction h with
  | start => exact List.suffix_refl is
  | turn _ _ ih => exact (List.suffix_cons _ _).trans ih

/-- What is left of the loop decides it. -/
theorem Reaches.loop_eq (h : Reaches limit sites is p post) :
    loop limit sites ⟨0, false⟩ is = loop limit sites p post := by
  induction h with
  | start => rfl
  | turn _ hturn ih => rw [ih, loop, hturn]

/-- A fault of the loop is the fault of a turn that it reaches. -/
theorem exists_turn_of_loop : ∀ {post : List (Nat × Instruction)} {p : Position},
    Reaches limit sites is p post → loop limit sites p post = .error (.broken fault) →
      ∃ p offset i post, Reaches limit sites is p ((offset, i) :: post) ∧
        turn limit sites p offset i post = .error (.broken fault)
  | [], p, _, h => by
    rw [loop] at h
    split at h <;> cases h
  | (offset, i) :: post, p, hreach, h => by
    rw [loop] at h
    split at h
    · rename_i halt hturn
      cases h
      exact ⟨p, offset, i, post, hreach, hturn⟩
    · rename_i q hturn
      exact exists_turn_of_loop (hreach.turn hturn) h

theorem loop_of_change_error (h : change sites height offset i post = .error halt) :
    loop limit sites ⟨height, false⟩ ((offset, i) :: post) = .error halt := by
  rw [loop, turn_of_change_error rfl h]

theorem loop_of_change (h : change sites height offset i post = .ok delta) :
    loop limit sites ⟨height, false⟩ ((offset, i) :: post) =
      (charge limit offset height delta).bind fun next => loop limit sites ⟨next, i = .ret⟩ post := by
  rw [loop, turn_of_change rfl h]
  cases charge limit offset height delta <;> rfl

theorem loop_returned (limit : UInt16) (sites : List CallSite) (height : Int) (post : List (Nat × Instruction)) :
    loop limit sites ⟨height, true⟩ post =
      match post with
      | [] => .ok ()
      | (next, _) :: _ => .error (.refused (.codeAfterReturn next)) := by
  cases post <;> rfl

/-- **The verifier's run is the loop.** -/
theorem run_eq_loop : ∀ (is : List (Nat × Instruction)) {height : Int}, 0 ≤ height → height ≤ limit.toNat →
    run limit sites height is = loop limit sites ⟨height, false⟩ is
  | [], _, _, _ => rfl
  | (offset, i) :: post, height, h0, hl => by
    have hcharge : ∀ delta, (charge limit offset height delta).bind (fun next => run limit sites next post) =
        (charge limit offset height delta).bind (fun next => loop limit sites ⟨next, false⟩ post) := by
      intro delta
      cases hc : charge limit offset height delta with
      | error halt => rfl
      | ok next =>
        obtain ⟨rfl, hlo, hhi⟩ := (charge_eq_ok_iff ..).1 hc
        exact run_eq_loop post hlo hhi
    cases i with
    | ldarg n =>
      rw [run_ldarg, loop_of_change rfl]
      exact hcharge 1
    | tail =>
      by_cases ht : isTailCall post = true
      · have hstay : charge limit offset height 0 = .ok height := by
          rw [charge_eq_ok_iff, Int32.toInt_zero]
          omega
        rw [run, if_pos ht, loop_of_change (change_of_isTailCall ht), hstay]
        exact run_eq_loop post h0 hl
      · rw [run, if_neg ht, loop_of_change_error (change_of_not_isTailCall ht)]
    | calli token =>
      cases hs : siteOf? sites offset token with
      | none => rw [run, hs, loop_of_change_error (change_of_no_site hs)]
      | some site =>
        rw [run_calli _ _ _ _ _ _ hs, loop_of_change (change_of_site hs)]
        exact hcharge _
    | ret =>
      rw [run.eq_def]
      by_cases h1 : 1 < height
      · rw [loop_of_change_error (change_of_leftover h1)]
        exact if_pos h1
      · obtain ⟨delta, hdelta, hd⟩ := change_of_balanced sites offset post h0 h1
        have hempty : charge limit offset height delta = .ok 0 := by
          rw [charge_eq_ok_iff, hdelta]
          omega
        rw [loop_of_change hd, hempty]
        exact (if_neg h1).trans (loop_returned limit sites 0 post).symm

theorem verify_eq_loop {code : List UInt8} (hd : Code.decode code = .ok is) (hne : is ≠ []) :
    CilThunk.verify code limit sites = loop limit sites ⟨0, false⟩ is :=
  (run_zero_eq_verify hd hne).trans (run_eq_loop is (Int.le_refl 0) (Int.natCast_nonneg _))

theorem verify_broken_iff (code : List UInt8) (limit : UInt16) (sites : List CallSite) (fault : Fault) :
    CilThunk.verify code limit sites = .error (.broken fault) ↔
      ∃ is height offset token post site, Code.decode code = .ok is ∧
        Reaches limit sites is ⟨height, false⟩ ((offset, .calli token) :: post) ∧
        siteOf? sites offset token = some site ∧ GivesOut height site.adjustment fault := by
  constructor
  · intro h
    cases hd : Code.decode code with
    | error e => simp [CilThunk.verify, hd] at h
    | ok is =>
      have hne : is ≠ [] := by
        rintro rfl
        simp [CilThunk.verify, hd] at h
      rw [verify_eq_loop hd hne] at h
      obtain ⟨⟨height, returned⟩, offset, i, post, hreach, hturn⟩ := exists_turn_of_loop .start h
      obtain ⟨h0, hl⟩ := hreach.height_bounds
      obtain ⟨rfl, token, site, rfl, hs, hout⟩ := (turn_broken_iff h0 hl).1 hturn
      exact ⟨is, height, offset, token, post, site, rfl, hreach, hs, hout⟩
  · rintro ⟨is, height, offset, token, post, site, hd, hreach, hs, hout⟩
    obtain ⟨h0, hl⟩ := hreach.height_bounds
    have hne : is ≠ [] := by
      rintro rfl
      cases List.suffix_nil.1 hreach.suffix
    have hturn : turn limit sites ⟨height, false⟩ offset (.calli token) post = .error (.broken fault) :=
      (turn_broken_iff h0 hl).2 ⟨rfl, token, site, rfl, hs, hout⟩
    rw [verify_eq_loop hd hne, hreach.loop_eq, loop, hturn]

/-- **Where the verifier's arithmetic gives out**: at a call that the loop reaches, all before it in order, if its effect
is the least of all or lifts the height out of the 32 bits.  Effects that are greater than the least and leave room for
the limit never do that.  On the way the heights are within the limit, and the loop is all that the verifier does. -/
theorem overflow_of_code (code : List UInt8) (limit : UInt16) (sites : List CallSite) :
    (∀ fault, CilThunk.verify code limit sites = .error (.broken fault) ↔
      ∃ is height offset token post site, Code.decode code = .ok is ∧
        Reaches limit sites is ⟨height, false⟩ ((offset, .calli token) :: post) ∧
        siteOf? sites offset token = some site ∧ GivesOut height site.adjustment fault) ∧
    ((∀ site ∈ sites, -2147483648 < site.adjustment.toInt ∧ site.adjustment.toInt ≤ 2147483647 - limit.toNat) →
      ∀ fault, CilThunk.verify code limit sites ≠ .error (.broken fault)) ∧
    ∀ is, Code.decode code = .ok is →
      (is ≠ [] → CilThunk.verify code limit sites = loop limit sites ⟨0, false⟩ is) ∧
      ∀ p post, Reaches limit sites is p post → 0 ≤ p.height ∧ p.height ≤ limit.toNat := by
  refine ⟨verify_broken_iff code limit sites, fun hsites fault h => ?_,
    fun is hd => ⟨verify_eq_loop hd, fun p post hreach => hreach.height_bounds⟩⟩
  obtain ⟨is, height, offset, token, post, site, -, hreach, hs, hout⟩ := (verify_broken_iff ..).1 h
  obtain ⟨hlo, hhi⟩ := hsites site (List.mem_of_find?_eq_some hs)
  have hl : height ≤ limit.toNat := hreach.height_bounds.2
  obtain ⟨-, hmin⟩ | ⟨-, hlt⟩ := hout
  · rw [(toInt_eq_min_iff _).2 hmin] at hlo
    exact absurd hlo (by decide)
  · omega

theorem overflow_of_code_least_effect :
    CilThunk.verify [0x02, 0x29, 1, 0, 0, 0x11, 0x2A] 1 [⟨1, ⟨0x11000001⟩, Int32.minValue⟩] =
        .error (.broken .negateOverflow) ∧
      CilThunk.verify [0x02, 0x29, 1, 0, 0, 0x11, 0x2A] 1 [⟨1, ⟨0x11000001⟩, 2147483647⟩] =
        .error (.broken .addOverflow) ∧
      ∀ fault, CilThunk.verify [0x02, 0x29, 1, 0, 0, 0x11, 0x2A] 1 [⟨1, ⟨0x11000001⟩, 2147483646⟩] ≠
        .error (.broken fault) := by
  have hd : Code.decode [0x02, 0x29, 1, 0, 0, 0x11, 0x2A] =
      .ok [(0, .ldarg 0), (1, .calli ⟨0x11000001⟩), (6, .ret)] := by cbv
  refine ⟨?_, ?_, (overflow_of_code _ _ _).2.1 (by decide)⟩
  · exact ((overflow_of_code _ _ _).1 _).2 ⟨_, 1, 1, ⟨0x11000001⟩, [(6, .ret)], ⟨1, ⟨0x11000001⟩, Int32.minValue⟩, hd,
      .turn .start rfl, rfl, .inl ⟨rfl, rfl⟩⟩
  · exact ((overflow_of_code _ _ _).1 _).2 ⟨_, 1, 1, ⟨0x11000001⟩, [(6, .ret)], ⟨1, ⟨0x11000001⟩, 2147483647⟩, hd,
      .turn .start rfl, rfl, .inr ⟨rfl, by decide⟩⟩

end

end Verify
end CilThunk
