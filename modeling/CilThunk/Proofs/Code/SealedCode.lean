import CilThunk.Proofs.Code.BuiltCode
/-!
# SealedCode — what the verifier says of frozen code

Code that a buffer built without a fault and froze is never refused for its stack: only for where its returns and its
tail marks stand, or for more than one value before the return.  Its bound is the least that is enough.  An accepted
body leaves the buffer's stack empty, except that a void return may leave one value behind: the verifier does not know
which return is void.
-/
namespace CilThunk

open Operation Verify

/-- Errors about where instructions stand and what is left at the return, as opposed to the code and its heights. -/
def VerifyError.BlamesShape : VerifyError → Prop
  | .emptyBody | .misplacedTailMark _ | .unbalancedReturn _ _ | .codeAfterReturn _ | .missingReturn => True
  | .undecodable _ | .stackUnderflow _ _ _ | .maxStackExceeded _ _ _ | .unknownCallSite _ _ => False

namespace Operation

/-- Within its limit, a run over built code stops for the shape of the code only. -/
theorem run_placed_error {limit : UInt16} {table : List CallSite} {halt : Halt VerifyError} :
    ∀ (ops : List Operation) {offset : Nat} {height : Int}, Resolved table offset ops →
      (∀ d ∈ depths height ops, 0 ≤ d ∧ d ≤ limit.toNat) → run limit table height (placed offset ops) = .error halt →
      ∃ e, halt = .refused e ∧ e.BlamesShape
  | [], _, _, _, _, h => by
    cases h
    exact ⟨_, rfl, trivial⟩
  | op :: ops, offset, height, hr, hd, h => by
    obtain ⟨hop, hr⟩ := hr
    change run limit table height ((offset, op.instruction) :: placed (offset + op.instruction.size) ops) = _ at h
    by_cases hret : op.instruction = .ret
    · rw [hret, run.eq_def] at h
      simp only at h
      split at h
      · cases h
        exact ⟨_, rfl, trivial⟩
      · split at h
        · cases h
        · cases h
          exact ⟨_, rfl, trivial⟩
    · obtain ⟨h0, hl⟩ := hd (height + op.delta.toInt) List.mem_cons_self
      rw [run_cons_of_effect _ (hop hret) h0 hl] at h
      split at h
      · cases h
        exact ⟨_, rfl, trivial⟩
      · exact run_placed_error ops hr (fun d hm => hd d (List.mem_cons_of_mem _ hm)) h

theorem verify_encode_error {ops : List Operation} {limit : UInt16} {halt : Halt VerifyError}
    (hd : ∀ d ∈ depths 0 ops, 0 ≤ d ∧ d ≤ limit.toNat) (h : verify (encode ops) limit (sites 0 ops) = .error halt) :
    ∃ e, halt = .refused e ∧ e.BlamesShape := by
  unfold verify at h
  rw [decode_encode] at h
  split at h
  · contradiction
  · cases h
    exact ⟨_, rfl, trivial⟩
  · rename_i is _ heq
    cases heq
    exact run_placed_error ops (resolved_sites ops []) hd h

theorem peak_leave_le_iff (lead : List Operation) (isVoid : Bool) (limit : Int) :
    (depths 0 (lead ++ [.leave isVoid])).foldl max 0 ≤ limit ↔ 0 ≤ limit ∧ ∀ d ∈ depths 0 lead, d ≤ limit := by
  rw [Buffer.foldl_max_le_iff, depths_append]
  simp only [List.forall_mem_append]
  refine and_congr_right (fun h0 => ⟨fun h => h.1, fun h => ⟨h, ?_⟩⟩)
  have hlead : total lead ≤ limit := by
    by_cases hnil : lead = []
    · rw [hnil]; exact h0
    · have := total_mem_depths 0 lead hnil
      rw [Int.zero_add] at this
      exact h _ this
  have hdelta : (Operation.leave isVoid).delta.toInt ≤ 0 := by cases isVoid <;> decide
  simp only [depths, List.mem_singleton, forall_eq]
  omega

end Operation

namespace SealedCode

/-- **Frozen code, unpacked**: its parts are those of its operations, and all depths are within its bound. -/
theorem frozen_parts {o : Optimization} {ops : List Operation} {b : Buffer} {c : SealedCode}
    (hrun : ({ optimization := o } : Buffer).emitAll ops = (b, none)) (hfreeze : b.freeze = .ok c) :
    c.bytes = encode ops ∧ c.callSites = sites 0 ops ∧ (c.maxStack.toNat : Int) = (depths 0 ops).foldl max 0 ∧
      (∀ d ∈ depths 0 ops, 0 ≤ d ∧ d ≤ c.maxStack.toNat) ∧ b.depth = total ops := by
  obtain ⟨rfl, hin⟩ := Buffer.emitAll_ok hrun
  obtain ⟨hbytes, hsites, hmax⟩ := Buffer.freeze_after_ok hfreeze
  refine ⟨hbytes, hsites, hmax, fun d hd => ⟨(hin d hd).1, ?_⟩, by simp [Buffer.after]⟩
  rw [hmax]
  exact ((Buffer.foldl_max_le_iff _ _ _).1 (Int.le_refl _)).2 d hd

/-- A part of a run from a fresh buffer that got to its end gets to its own, at the depth its operations add up to. -/
theorem emitAll_lead {o : Optimization} {lead rest : List Operation} {b : Buffer}
    (hrun : ({ optimization := o } : Buffer).emitAll (lead ++ rest) = (b, none)) :
    ∃ before, ({ optimization := o } : Buffer).emitAll lead = (before, none) ∧ before.depth = total lead := by
  obtain ⟨-, hin⟩ := Buffer.emitAll_ok hrun
  rw [depths_append] at hin
  exact ⟨_, Buffer.emitAll_of_inRange lead _ (fun d hd => hin d (List.mem_append_left _ hd)), by simp [Buffer.after]⟩

/-- **Buffer and verifier agree on every frozen buffer.** -/
theorem verify_of_frozen (o : Optimization) (ops : List Operation) (b : Buffer) (c : SealedCode)
    (hrun : ({ optimization := o } : Buffer).emitAll ops = (b, none)) (hfreeze : b.freeze = .ok c) :
    (∀ halt, c.verify = .error halt → ∃ e, halt = .refused e ∧ e.BlamesShape) ∧
    (c.verify = .ok () ↔
      ∃ lead isVoid before, ops = lead ++ [.leave isVoid] ∧ (∀ op ∈ lead, op.instruction ≠ .ret) ∧
        TailMarksPlaced ops ∧ ({ optimization := o } : Buffer).emitAll lead = (before, none) ∧ before.depth ≤ 1) ∧
    (c.verify = .ok () → ∀ limit, CilThunk.verify c.bytes limit c.callSites = .ok () ↔ c.maxStack ≤ limit) := by
  obtain ⟨hbytes, hsites, hmax, hin, -⟩ := frozen_parts hrun hfreeze
  unfold SealedCode.verify
  rw [hbytes, hsites]
  refine ⟨fun halt => verify_encode_error hin, ?_, ?_⟩
  · rw [verify_encode_eq_ok_iff]
    constructor
    · rintro ⟨lead, isVoid, rfl, hne, ht, h1, -⟩
      obtain ⟨before, hlead, hdepth⟩ := emitAll_lead hrun
      exact ⟨lead, isVoid, before, rfl, hne, ht, hlead, by rw [hdepth]; exact h1⟩
    · rintro ⟨lead, isVoid, before, rfl, hne, ht, hlead, h1⟩
      obtain ⟨rfl, -⟩ := Buffer.emitAll_ok hlead
      rw [depths_append] at hin
      exact ⟨lead, isVoid, rfl, hne, ht, by simpa [Buffer.after] using h1,
        fun d hd => hin d (List.mem_append_left _ hd)⟩
  · intro hok limit
    obtain ⟨lead, isVoid, rfl, hne, ht, h1, h0⟩ := (verify_encode_eq_ok_iff _ _).1 hok
    have hpeak : c.maxStack ≤ limit ↔ ∀ d ∈ depths 0 lead, d ≤ limit.toNat := by
      rw [UInt16.le_iff_toNat_le, ← Int.ofNat_le, hmax, peak_leave_le_iff]
      exact and_iff_right (Int.natCast_nonneg _)
    rw [verify_encode_eq_ok_iff, hpeak]
    constructor
    · rintro ⟨lead', isVoid', hops, -, -, -, hl⟩
      obtain ⟨rfl, -⟩ := List.append_inj' hops rfl
      exact fun d hd => (hl d hd).2
    · exact fun hl => ⟨lead, isVoid, rfl, hne, ht, h1, fun d hd => ⟨(h0 d hd).1, hl d hd⟩⟩

theorem verify_of_frozen_tail_call :
    ∃ b, ({ optimization := .debug } : Buffer).emitAll
        [.loadArgument 0, .loadArgument 300, .tailMark, .call (-1) ⟨0x11000003⟩, .leave false] = (b, none) ∧
      b.freeze = .ok ⟨[0x02, 0xFE, 0x09, 0x2C, 0x01, 0xFE, 0x14, 0x29, 0x03, 0, 0, 0x11, 0x2A], 2,
        [⟨7, ⟨0x11000003⟩, -1⟩]⟩ ∧
      ∀ limit, CilThunk.verify [0x02, 0xFE, 0x09, 0x2C, 0x01, 0xFE, 0x14, 0x29, 0x03, 0, 0, 0x11, 0x2A] limit
        [⟨7, ⟨0x11000003⟩, -1⟩] = .ok () ↔ 2 ≤ limit := by
  refine ⟨_, rfl, rfl, (verify_of_frozen .debug
    [.loadArgument 0, .loadArgument 300, .tailMark, .call (-1) ⟨0x11000003⟩, .leave false] _ _ rfl rfl).2.2 ?_⟩
  cbv

/-! ## What an accepted body leaves behind -/

/-- **An accepted body empties the stack, except that a void return may leave one value.** -/
theorem depth_of_verified (o : Optimization) (ops : List Operation) (b : Buffer) (c : SealedCode)
    (hrun : ({ optimization := o } : Buffer).emitAll ops = (b, none)) (hfreeze : b.freeze = .ok c)
    (hverify : c.verify = .ok ()) :
    ∃ lead isVoid before, ops = lead ++ [.leave isVoid] ∧
      ({ optimization := o } : Buffer).emitAll lead = (before, none) ∧
      (b.depth = 0 ↔ (isVoid = true → before.depth = 0)) ∧
      (b.depth ≠ 0 → isVoid = true ∧ before.depth = 1 ∧ b.depth = 1) := by
  obtain ⟨hbytes, hsites, -, hin, hdepth⟩ := frozen_parts hrun hfreeze
  unfold SealedCode.verify at hverify
  rw [hbytes, hsites, verify_encode_eq_ok_iff] at hverify
  obtain ⟨lead, isVoid, rfl, -, -, h1, -⟩ := hverify
  obtain ⟨before, hlead, hbefore⟩ := emitAll_lead hrun
  have h0 : 0 ≤ total (lead ++ [.leave isVoid]) := by
    have := (hin _ (total_mem_depths 0 _ (by simp))).1
    omega
  refine ⟨lead, isVoid, before, rfl, hlead, ?_⟩
  rw [hdepth, hbefore]
  cases isVoid with
  | false =>
    have htotal : total (lead ++ [.leave false]) = total lead - 1 := total_append lead _
    rw [htotal] at h0 ⊢
    exact ⟨⟨fun _ h => absurd h (by decide), fun _ => by omega⟩, fun hne => absurd hne (by omega)⟩
  | true =>
    have htotal : total (lead ++ [.leave true]) = total lead := (total_append lead _).trans (Int.add_zero _)
    rw [htotal] at h0 ⊢
    exact ⟨⟨fun h _ => h, fun h => h rfl⟩, fun _ => ⟨rfl, by omega, by omega⟩⟩

/-- A void return with a value on the stack is accepted, and the value stays. -/
theorem void_return_leaves_value :
    ¬ ∀ (o : Optimization) (ops : List Operation) (b : Buffer) (c : SealedCode),
      ({ optimization := o } : Buffer).emitAll ops = (b, none) → b.freeze = .ok c → c.verify = .ok () →
        b.depth = 0 := by
  intro h
  have hok : (⟨[0x02, 0x2A], 1, []⟩ : SealedCode).verify = .ok () := by cbv
  exact absurd (h .release [.loadArgument 0, .leave true] _ ⟨[0x02, 0x2A], 1, []⟩ rfl rfl hok) (by decide)

theorem depth_of_verified_value_return :
    ∃ b c, ({ optimization := .release } : Buffer).emitAll
        [.loadArgument 0, .call 0 ⟨0x11000001⟩, .leave false] = (b, none) ∧ b.freeze = .ok c ∧ c.verify = .ok () ∧
      b.depth = 0 := by
  have hok : (⟨[0x02, 0x29, 1, 0, 0, 0x11, 0x2A], 1, [⟨1, ⟨0x11000001⟩, 0⟩]⟩ : SealedCode).verify = .ok () := by cbv
  obtain ⟨lead, isVoid, before, hops, -, hiff, -⟩ := depth_of_verified .release
    [.loadArgument 0, .call 0 ⟨0x11000001⟩, .leave false] _ _ rfl rfl hok
  obtain ⟨-, hlast⟩ := List.append_inj'
    (show [Operation.loadArgument 0, .call 0 ⟨0x11000001⟩] ++ [.leave false] = _ from hops) rfl
  cases hlast
  exact ⟨_, _, rfl, rfl, hok, hiff.2 (fun h => by cases h)⟩

end SealedCode
end CilThunk
