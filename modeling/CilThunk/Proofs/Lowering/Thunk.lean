import CilThunk.Lowering
import CilThunk.Proofs.Code.BuiltCode
import CilThunk.Proofs.Module.Rows
/-!
# Thunk — what lowering one declaration does

A thunk's loads raise the stack one by one, its call and return bring it back, so nothing on the way can fault and the
verifier has nothing to say (`verify_thunkCode`).  What is left to go wrong is the table of rows: a lowering skips what
is no intrinsic, is refused for want of a row, or stores a body and records its row, and there is no fourth outcome
(`lower_cases`).  The settings have no part in it.
-/
namespace CilThunk

open Operation

namespace Declaration

/-- How many values a thunk leaves to be returned. -/
def yield (d : Declaration) : Nat := if d.isVoid then 0 else 1

/-- The greatest depth of a thunk's stack: all arguments, or the result if there are none. -/
def peak (d : Declaration) : Nat := max d.arity.toNat d.yield

theorem yield_le_one (d : Declaration) : d.yield ≤ 1 := by
  unfold yield
  split <;> decide

theorem peak_lt (d : Declaration) : d.peak < 65536 := by
  have := d.arity.toNat_lt
  have := d.yield_le_one
  unfold peak
  omega

theorem toInt_stackAdjustment (d : Declaration) :
    (stackAdjustment d.arity d.isVoid).toInt = (d.yield : Int) - d.arity.toNat := by
  rw [CilThunk.toInt_stackAdjustment]
  unfold yield
  cases d.isVoid <;> rfl

theorem toInt_delta_leave (d : Declaration) : (leave d.isVoid).delta.toInt = -(d.yield : Int) := by
  unfold yield
  cases d.isVoid <;> rfl

end Declaration

namespace Operation

/-! ## Loads -/

theorem depths_loadArguments : ∀ (is : List UInt16) (depth : Int),
    depths depth (is.map .loadArgument) = (List.range is.length).map (fun i => depth + (i + 1 : Nat))
  | [], _ => rfl
  | i :: is, depth => by
    have h1 : (loadArgument i).delta.toInt = 1 := rfl
    rw [List.map_cons, depths, h1, depths_loadArguments is, List.length_cons, List.range_succ_eq_map, List.map_cons,
      List.map_map]
    refine List.cons_eq_cons.2 ⟨rfl, List.map_congr_left (fun i _ => ?_)⟩
    simp only [Function.comp_apply]
    omega

theorem total_loadArguments (is : List UInt16) : total (is.map .loadArgument) = is.length := by
  induction is with
  | nil => rfl
  | cons i is ih =>
    rw [List.map_cons, total_cons, ih, show (loadArgument i).delta.toInt = 1 from rfl, List.length_cons]
    omega

theorem tailMarksPlaced_loadArguments (is : List UInt16) (ops : List Operation) :
    TailMarksPlaced (is.map .loadArgument ++ ops) ↔ TailMarksPlaced ops := by
  induction is with
  | nil => rfl
  | cons i is ih =>
    rw [List.map_cons, List.cons_append, tailMarksPlaced_cons, ih]
    exact and_iff_right (fun h => by cases h)

end Operation

namespace Lowering

def loaded (arity : UInt16) : List UInt16 := (List.range arity.toNat).map UInt16.ofNat

theorem loads_eq (arity : UInt16) : loads arity = (loaded arity).map .loadArgument := by
  rw [loads, loaded, List.map_map]
  rfl

theorem length_loaded (arity : UInt16) : (loaded arity).length = arity.toNat := by
  rw [loaded, List.length_map, List.length_range]

theorem total_lead (d : Declaration) (isTail : Bool) : total (lead d isTail) = d.arity.toNat := by
  rw [lead, total_append, loads_eq, total_loadArguments, length_loaded]
  cases isTail <;> simp [total, delta]

theorem instruction_ne_ret_of_mem_lead {d : Declaration} {isTail : Bool} {op : Operation} (h : op ∈ lead d isTail) :
    op.instruction ≠ .ret := by
  rw [lead, loads_eq] at h
  rcases List.mem_append.1 h with h | h
  · obtain ⟨i, -, rfl⟩ := List.mem_map.1 h
    exact fun h => by cases h
  · cases isTail
    · cases h
    · cases List.mem_singleton.1 h
      exact fun h => by cases h

theorem depths_lead_bounded {d : Declaration} {isTail : Bool} {depth x : Int} (h : x ∈ depths depth (lead d isTail)) :
    depth ≤ x ∧ x ≤ depth + d.arity.toNat := by
  rw [lead, loads_eq, depths_append, depths_loadArguments, total_loadArguments, length_loaded] at h
  rcases List.mem_append.1 h with h | h
  · obtain ⟨i, hi, rfl⟩ := List.mem_map.1 h
    have := List.mem_range.1 hi
    omega
  · cases isTail
    · cases h
    · have hx : x = depth + d.arity.toNat + (0 : Int32).toInt := List.mem_singleton.1 h
      rw [show (0 : Int32).toInt = 0 from rfl] at hx
      omega

/-- A limit on the depths of a lead is one on its end. -/
theorem arity_le_of_depths_lead {d : Declaration} {isTail : Bool} {depth limit : Int} (h0 : depth ≤ limit)
    (h : ∀ x ∈ depths depth (lead d isTail), x ≤ limit) : depth + d.arity.toNat ≤ limit := by
  by_cases hnil : lead d isTail = []
  · have := total_lead d isTail
    rw [hnil, show total [] = 0 from rfl] at this
    omega
  · rw [← total_lead d isTail]
    exact h _ (total_mem_depths depth _ hnil)

/-! ## A thunk's operations -/

def operations (d : Declaration) (isTail : Bool) (token : Token) : List Operation :=
  lead d isTail ++ callAndLeave d token

theorem depths_callAndLeave (d : Declaration) (token : Token) (depth : Int) :
    depths (depth + d.arity.toNat) (callAndLeave d token) = [depth + d.yield, depth] := by
  have hcall : depth + d.arity.toNat + (stackAdjustment d.arity d.isVoid).toInt = depth + d.yield := by
    rw [d.toInt_stackAdjustment]
    omega
  have hleave : depth + d.yield + (leave d.isVoid).delta.toInt = depth := by
    rw [d.toInt_delta_leave]
    omega
  rw [callAndLeave, depths, delta, hcall, depths, hleave, depths]

theorem depths_operations (d : Declaration) (isTail : Bool) (token : Token) (depth : Int) :
    depths depth (operations d isTail token) = depths depth (lead d isTail) ++ [depth + d.yield, depth] := by
  rw [operations, depths_append, total_lead, depths_callAndLeave]

theorem depths_operations_bounded {d : Declaration} {isTail : Bool} {token : Token} {depth x : Int}
    (h : x ∈ depths depth (operations d isTail token)) : depth ≤ x ∧ x ≤ depth + d.peak := by
  rw [depths_operations] at h
  unfold Declaration.peak
  rcases List.mem_append.1 h with h | h
  · have := depths_lead_bounded h
    omega
  · simp only [List.mem_cons, List.not_mem_nil, or_false] at h
    omega

/-- **A thunk leaves the depth as it was.** -/
theorem total_operations (d : Declaration) (isTail : Bool) (token : Token) : total (operations d isTail token) = 0 := by
  rw [operations, total_append, total_lead, callAndLeave, total_cons, total_cons, delta, d.toInt_stackAdjustment,
    d.toInt_delta_leave, show total [] = 0 from rfl]
  omega

/-- **The peak of a thunk**: on top of any depth and any bound. -/
theorem foldl_max_operations (d : Declaration) (isTail : Bool) (token : Token) (depth bound : Int) :
    (depths depth (operations d isTail token)).foldl max bound = max bound (depth + d.peak) := by
  have hle : ∀ limit, (depths depth (operations d isTail token)).foldl max bound ≤ limit ↔
      max bound (depth + d.peak) ≤ limit := by
    intro limit
    rw [Buffer.foldl_max_le_iff]
    constructor
    · rw [depths_operations]
      simp only [List.forall_mem_append, List.forall_mem_cons, List.not_mem_nil, false_implies, implies_true, and_true]
      rintro ⟨hbound, hlead, hyield, hend⟩
      have harity := arity_le_of_depths_lead (by omega) hlead
      unfold Declaration.peak
      omega
    · intro h
      refine ⟨by omega, fun x hx => ?_⟩
      have := depths_operations_bounded hx
      omega
  exact Int.le_antisymm ((hle _).2 (Int.le_refl _)) ((hle _).1 (Int.le_refl _))

theorem tailMarksPlaced_operations (d : Declaration) (isTail : Bool) (token : Token) :
    TailMarksPlaced (operations d isTail token) := by
  have hrest : TailMarksPlaced (callAndLeave d token) := by
    rw [callAndLeave, tailMarksPlaced_cons, tailMarksPlaced_cons]
    exact ⟨(fun h => by cases h), (fun h => by cases h), tailMarksPlaced_nil⟩
  rw [operations, lead, loads_eq, List.append_assoc, tailMarksPlaced_loadArguments]
  cases isTail
  · exact hrest
  · rw [if_pos rfl, List.singleton_append, tailMarksPlaced_cons]
    exact ⟨fun _ => ⟨_, _, _, _, rfl⟩, hrest⟩

def thunkCode (d : Declaration) (token : Token) : SealedCode where
  bytes := encode (operations d d.kind.isTail token)
  maxStack := UInt16.ofNat d.peak
  callSites := sites 0 (operations d d.kind.isTail token)

theorem toNat_maxStack_thunkCode (d : Declaration) (token : Token) : (thunkCode d token).maxStack.toNat = d.peak :=
  UInt16.toNat_ofNat_of_lt' d.peak_lt

/-- **The verifier accepts every thunk.** -/
theorem verify_thunkCode (d : Declaration) (token : Token) : (thunkCode d token).verify = .ok () := by
  have hsplit : operations d d.kind.isTail token =
      (lead d d.kind.isTail ++ [.call (stackAdjustment d.arity d.isVoid) token]) ++ [.leave d.isVoid] := by
    rw [operations, callAndLeave, List.append_assoc]
    rfl
  refine (verify_encode_eq_ok_iff _ _).2 ⟨_, _, hsplit, ?_, tailMarksPlaced_operations d _ token, ?_, ?_⟩
  · intro op hop
    rcases List.mem_append.1 hop with hop | hop
    · exact instruction_ne_ret_of_mem_lead hop
    · cases List.mem_singleton.1 hop
      exact fun h => by cases h
  · rw [total_append, total_lead, total_cons, delta, d.toInt_stackAdjustment, show total [] = 0 from rfl]
    have := d.yield_le_one
    omega
  · intro x hx
    have hx : x ∈ depths 0 (operations d d.kind.isTail token) := by
      rw [hsplit, depths_append]
      exact List.mem_append_left _ hx
    have := depths_operations_bounded hx
    rw [toNat_maxStack_thunkCode]
    omega

/-! ## Appending and finishing a thunk -/

theorem operations_inRange {d : Declaration} {isTail : Bool} {token : Token} {depth : Int} (h0 : 0 ≤ depth)
    (hfit : depth + d.peak ≤ 2147483647) : ∀ x ∈ depths depth (operations d isTail token), Buffer.InRange x := by
  intro x hx
  have := depths_operations_bounded hx
  exact ⟨by omega, by omega⟩

/-- **A thunk goes onto any buffer with room for its peak**; without a row only its loads and its mark do. -/
theorem emitThunk_eq {b : Buffer} {m : Module} (d : Declaration) (isTail : Bool) (h0 : 0 ≤ b.depth)
    (hfit : b.depth + d.peak ≤ 2147483647) (hm : m.nextRow ≠ 0) :
    emitThunk b m d isTail =
      if m.nextRow ≤ maxRow then
        ⟨b.after (operations d isTail (.ofRow m.nextRow)), { m with nextRow := m.nextRow + 1 },
          .ok (⟨m.nextRow, hm⟩, d.convention)⟩
      else ⟨b.after (lead d isTail), m, .error (.refused .signatureTableExhausted)⟩ := by
  have hin := @operations_inRange d isTail (.ofRow m.nextRow) b.depth h0 hfit
  rw [operations, depths_append] at hin
  have hlead := Buffer.emitAll_of_inRange (lead d isTail) b (fun x hx => hin x (List.mem_append_left _ hx))
  unfold emitThunk
  rw [hlead]
  simp only
  rw [Module.allocate_eq hm]
  by_cases hrow : m.nextRow ≤ maxRow
  · have hcall := Buffer.emitAll_of_inRange (callAndLeave d (.ofRow m.nextRow)) (b.after (lead d isTail))
      (fun x hx => hin x (List.mem_append_right _ hx))
    rw [if_pos hrow, if_pos hrow]
    simp only
    rw [Slot.token_eq hrow]
    simp only
    rw [hcall, ← Buffer.after_append]
    rfl
  · rw [if_neg hrow, if_neg hrow]

theorem freeze_operations (o : Optimization) (d : Declaration) (token : Token) :
    (({ optimization := o } : Buffer).after (operations d d.kind.isTail token)).freeze = .ok (thunkCode d token) := by
  have hmax : (({ optimization := o } : Buffer).after (operations d d.kind.isTail token)).maxDepth = d.peak := by
    change (depths 0 (operations d d.kind.isTail token)).foldl max 0 = d.peak
    rw [foldl_max_operations]
    omega
  have hpeak := d.peak_lt
  rw [Buffer.freeze_eq_ok_iff, hmax]
  exact ⟨by omega, by simp [thunkCode, Buffer.after, Buffer.offset]⟩

/-- The body of a declaration, with the row that its call refers to. -/
def thunk (d : Declaration) (generation : UInt32) (slot : Slot) : MethodBody :=
  .thunk (thunkCode d (.ofRow slot.row)) d.owner generation slot d.convention

def signature (d : Declaration) (slot : Slot) : CallSignature := ⟨slot, d.convention, d.arity, d.isVoid⟩

/-- A module after a declaration was lowered at the next row. -/
def lowered (m : Module) (d : Declaration) (slot : Slot) : Module :=
  { m with
    nextRow := m.nextRow + 1
    recorded := m.recorded.push (signature d slot)
    bodies := m.bodies.insert d.owner (thunk d m.generation slot) }

/-- **What assembling an intrinsic leaves**: its thunk in the module, or nothing for want of a row. -/
theorem assemble_eq {m : Module} (s : Settings) {d : Declaration} (hd : d.kind.isIntrinsic = true)
    (hm : m.nextRow ≠ 0) :
    ((assemble m s d).module, (assemble m s d).result) =
      if m.nextRow ≤ maxRow then (lowered m d ⟨m.nextRow, hm⟩, .ok (thunk d m.generation ⟨m.nextRow, hm⟩))
      else (m, .error (.refused .signatureTableExhausted)) := by
  have hpeak := d.peak_lt
  have he := @emitThunk_eq { optimization := .release } m d d.kind.isTail (Int.le_refl 0) (by simp; omega) hm
  by_cases hrow : m.nextRow ≤ maxRow
  · rw [if_pos hrow] at he ⊢
    unfold assemble
    rw [if_pos hd, he]
    simp only [finish, freeze_operations, verify_thunkCode, ite_self, Module.store, Module.record]
    rfl
  · rw [if_neg hrow] at he ⊢
    unfold assemble
    rw [if_pos hd, he]

/-- **All that lowering can do**: skip, be refused a row, or store a thunk and record its row. -/
theorem lower_cases (m : Module) (s : Settings) (d : Declaration) (hm : m.nextRow ≠ 0) :
    (d.kind.isIntrinsic = false ∧ (lower m s d).module = m ∧ (lower m s d).result = .ok none) ∨
    (d.kind.isIntrinsic = true ∧ ¬ m.nextRow ≤ maxRow ∧ (lower m s d).module = m ∧
      (lower m s d).result = .error (.refused .signatureTableExhausted)) ∨
    (d.kind.isIntrinsic = true ∧ m.nextRow ≤ maxRow ∧ (lower m s d).module = lowered m d ⟨m.nextRow, hm⟩ ∧
      (lower m s d).result = .ok (some (thunk d m.generation ⟨m.nextRow, hm⟩))) := by
  unfold lower
  cases hd : d.kind.isIntrinsic with
  | false => exact .inl ⟨rfl, rfl, rfl⟩
  | true =>
    have ha := assemble_eq s hd hm
    rw [if_pos rfl]
    by_cases hrow : m.nextRow ≤ maxRow
    · rw [if_pos hrow, Prod.mk.injEq] at ha
      exact .inr (.inr ⟨rfl, hrow, ha.1, congrArg (Except.map some) ha.2⟩)
    · rw [if_neg hrow, Prod.mk.injEq] at ha
      exact .inr (.inl ⟨rfl, hrow, ha.1, congrArg (Except.map some) ha.2⟩)

end Lowering
end CilThunk
