import CilThunk.Proofs.Lowering.Outcomes
import CilThunk.Proofs.Lowering.SignatureTable
import CilThunk.Proofs.Lowering.ThunkRun
/-!
# Independence — what a run of lowerings does not depend on

Two runs over the same declarations, each under settings of its own, go alike to the last bit
(`Lowering.lowerEach_of_any_settings`): the verifier has nothing against a thunk, so it makes no difference whether it is
asked.  Two runs over the same declarations in two orders differ in rows only (`Lowering.lowerEach_of_any_order`): the
code of a thunk has its row in one place, the operand of its call.
-/
namespace CilThunk

/-- Two bodies that differ in the row that they call by, and in their code only in the operand of the one call. -/
structure MethodBody.Renumbered (body body' : MethodBody) (slot slot' : Slot) : Prop where
  slot? : body.slot? = some slot ∧ body'.slot? = some slot'
  others : { body with code := [], slot? := none } = { body' with code := [], slot? := none }
  calls : ∃ before after lead rest,
    body.code = before ++ 0x29 :: (LittleEndian.bytes32 (0x11000000 ||| slot.row) ++ after) ∧
    body'.code = before ++ 0x29 :: (LittleEndian.bytes32 (0x11000000 ||| slot'.row) ++ after) ∧
    Code.decode body.code = .ok (lead ++ (before.length, .calli ⟨0x11000000 ||| slot.row⟩) :: rest) ∧
    Code.decode body'.code = .ok (lead ++ (before.length, .calli ⟨0x11000000 ||| slot'.row⟩) :: rest) ∧
    (lead ++ rest).filterMap (·.2.callToken?) = []

namespace Lowering

/-! ## The settings -/

/-- What a lowering leaves, as a function of the module and the declaration. -/
theorem lower_eq {m : Module} (s : Settings) (d : Declaration) (hm : m.nextRow ≠ 0) :
    ((lower m s d).module, (lower m s d).result) =
      if d.kind.isIntrinsic then
        if m.nextRow ≤ maxRow then (lowered m d ⟨m.nextRow, hm⟩, .ok (some (thunk d m.generation ⟨m.nextRow, hm⟩)))
        else (m, .error (.refused .signatureTableExhausted))
      else (m, .ok none) := by
  obtain ⟨hd, hmod, hres⟩ | ⟨hd, hrow, hmod, hres⟩ | ⟨hd, hrow, hmod, hres⟩ := lower_cases m s d hm
  · rw [hmod, hres, hd, if_neg Bool.false_ne_true]
  · rw [hmod, hres, if_pos hd, if_neg hrow]
  · rw [hmod, hres, if_pos hd, if_pos hrow]

theorem lower_of_any_settings {m : Module} (s s' : Settings) (d : Declaration) (hm : m.nextRow ≠ 0) :
    (lower m s d).module = (lower m s' d).module ∧ (lower m s d).result = (lower m s' d).result :=
  Prod.mk.inj ((lower_eq s d hm).trans (lower_eq s' d hm).symm)

theorem lowerEach_eq_of_declarations : ∀ (steps steps' : List (Settings × Declaration)) {m : Module}, m.nextRow ≠ 0 →
    steps.map (·.2) = steps'.map (·.2) → lowerEach m steps = lowerEach m steps'
  | [], [], _, _, _ => rfl
  | (s, d) :: steps, (s', d') :: steps', m, hm, h => by
    obtain ⟨hd, hrest⟩ := List.cons_eq_cons.1 h
    cases hd
    obtain ⟨hmod, hres⟩ := lower_of_any_settings s s' d hm
    have hnext : (lower m s' d).module.nextRow ≠ 0 := Request.nextRow_perform_ne_zero (.lower s' d) hm
    rw [lowerEach, lowerEach, hmod, hres, lowerEach_eq_of_declarations steps steps' hnext hrest]
  | [], _ :: _, _, _, h => by cases h
  | _ :: _, [], _, _, h => by cases h

theorem halt_of_lowerEach {d : Declaration} {halt : Halt LowerError} : ∀ (steps : List (Settings × Declaration))
    {m : Module}, m.nextRow ≠ 0 → (d, .error halt) ∈ (lowerEach m steps).2 → halt = .refused .signatureTableExhausted
  | [], _, _, h => by cases h
  | (s, d') :: steps, m, hm, h => by
    rcases List.mem_cons.1 h with heq | h
    · obtain ⟨rfl, hres⟩ := Prod.mk.inj heq
      exact (lower_of_error hm hres.symm).1
    · exact halt_of_lowerEach steps (Request.nextRow_perform_ne_zero (.lower s d') hm) h

/-- **The settings have no part in what is lowered.**  From any state that requests lead to, two runs over the same
declarations give the same results and leave the same module, whatever the settings of each call; and no verifier
turns a body away in either. -/
theorem lowerEach_of_any_settings (generation firstRow : UInt32) (start : Module)
    (hstart : Module.new generation firstRow = .ok start) (requests : List Request)
    (steps steps' : List (Settings × Declaration)) (hsame : steps.map (·.2) = steps'.map (·.2)) :
    let m := start.after requests
    (lowerEach m steps).2 = (lowerEach m steps').2 ∧
    (lowerEach m steps).1 = (lowerEach m steps').1 ∧
    ∀ d halt, (d, .error halt) ∈ (lowerEach m steps).2 → halt = .refused .signatureTableExhausted := by
  obtain ⟨hnext, -⟩ := Module.new_eq_ok hstart
  intro m
  have hm : m.nextRow ≠ 0 := Module.nextRow_after_ne_zero requests hnext
  have heq := lowerEach_eq_of_declarations steps steps' hm hsame
  exact ⟨congrArg (·.2) heq, congrArg (·.1) heq, fun d halt => halt_of_lowerEach steps hm⟩

/-- With one row left, whether bodies are verified decides neither the one that is lowered nor the one that is not. -/
theorem lowerEach_of_any_settings_last_row :
    let first : Declaration := ⟨1, none, "TailCallIndirectStdCall", 300, false⟩
    let second : Declaration := ⟨2, some 1, "CallIndirect", 0, true⟩
    let steps : List (Settings × Declaration) := [({}, first), ({ verify := false }, second)]
    let steps' : List (Settings × Declaration) :=
      [({ optimization := .debug, verify := false }, first), ({ trace := true, format := .json }, second)]
    ∃ start, Module.new 3 0xFFFFFE = .ok start ∧ steps.map (·.2) = steps'.map (·.2) ∧
      lowerEach (start.after [.allocate]) steps = lowerEach (start.after [.allocate]) steps' := by
  intro first second steps steps'
  obtain ⟨hresults, hmodule, -⟩ := lowerEach_of_any_settings 3 0xFFFFFE _ rfl [.allocate] steps steps' rfl
  exact ⟨_, rfl, rfl, Prod.ext hmodule hresults⟩

/-! ## The order -/

/-- The instructions before the call of a thunk. -/
def leading (d : Declaration) : List (Nat × Instruction) := Operation.placed 0 (lead d d.kind.isTail)

/-- The offset of the call. -/
def callOffset (d : Declaration) : Nat := (Operation.encode (lead d d.kind.isTail)).length

/-- The return behind the call. -/
def leaving (d : Declaration) : List (Nat × Instruction) := Operation.placed (callOffset d + 5) [.leave d.isVoid]

theorem code_thunk (d : Declaration) (generation : UInt32) {slot : Slot} (hrow : slot.row ≤ maxRow) :
    (thunk d generation slot).code =
      Operation.encode (lead d d.kind.isTail) ++
        0x29 :: (LittleEndian.bytes32 (0x11000000 ||| slot.row) ++ Operation.encode [.leave d.isVoid]) := by
  rw [thunk, Token.ofRow_eq_or hrow, MethodBody.thunk, thunkCode, operations, Operation.encode_append]
  rfl

theorem decode_thunk (d : Declaration) (generation : UInt32) {slot : Slot} (hrow : slot.row ≤ maxRow) :
    Code.decode (thunk d generation slot).code =
      .ok (leading d ++ (callOffset d, .calli ⟨0x11000000 ||| slot.row⟩) :: leaving d) := by
  rw [thunk, Token.ofRow_eq_or hrow, MethodBody.thunk, thunkCode, Operation.decode_encode, operations,
    Operation.placed_append, Nat.zero_add]
  rfl

theorem callTokens_around (d : Declaration) : (leading d ++ leaving d).filterMap (·.2.callToken?) = [] := by
  -- any row will do, for the instructions around the call do not depend on it
  have hrow : (⟨1, nofun⟩ : Slot).row ≤ maxRow := by decide
  obtain ⟨is, hdecode, htokens⟩ := callTokens_thunk d 0 ⟨1, nofun⟩
  rw [decode_thunk d 0 hrow] at hdecode
  cases hdecode
  rw [List.filterMap_append] at htokens ⊢
  obtain ⟨hlead, -⟩ | ⟨-, hcall⟩ := List.append_eq_singleton_iff.1 htokens
  · rw [hlead]
    rfl
  · cases hcall

/-- **The row of a thunk is in the operand of its call, and nowhere else in its code.** -/
theorem renumbered_thunk (d : Declaration) (generation : UInt32) {slot slot' : Slot} (hrow : slot.row ≤ maxRow)
    (hrow' : slot'.row ≤ maxRow) : (thunk d generation slot).Renumbered (thunk d generation slot') slot slot' where
  slot? := ⟨rfl, rfl⟩
  others := rfl
  calls := ⟨_, _, leading d, leaving d, code_thunk d generation hrow, code_thunk d generation hrow',
    decode_thunk d generation hrow, decode_thunk d generation hrow', callTokens_around d⟩

theorem intrinsics_eq_self {ds : List Declaration} (h : ∀ d ∈ ds, Kind.ofName d.name ≠ .ordinary) :
    intrinsics ds = ds :=
  List.filter_eq_self.2 (fun d hd => d.isIntrinsic_kind_iff.2 (h d hd))

variable {generation firstRow : UInt32} {start : Module} {steps : List (Settings × Declaration)}
  {ds : List Declaration}

/-- A run over intrinsics with an owner and a row for each. -/
structure FullRun (generation firstRow : UInt32) (start : Module) (steps : List (Settings × Declaration))
    (ds : List Declaration) : Prop where
  fresh : Module.new generation firstRow = .ok start
  declared : steps.map (·.2) = ds
  intrinsic : ∀ d ∈ ds, Kind.ofName d.name ≠ .ordinary
  owners : (ds.map (·.owner)).Nodup
  rows : ds.length ≤ 0x1000000 - firstRow.toNat

theorem FullRun.exists_slots (h : FullRun generation firstRow start steps ds) :
    ∃ slots : List Slot, slots.map (·.row.toNat) = List.range' firstRow.toNat ds.length ∧
      (∀ slot ∈ slots, slot.row ≤ maxRow) ∧ LeftBy generation (ds.zip slots) (lowerEach start steps).1 ∧
      ∀ r ∈ (lowerEach start steps).2, ∃ body, r.2 = .ok (some body) := by
  have hds : intrinsics (steps.map (·.2)) = ds := by rw [h.declared, intrinsics_eq_self h.intrinsic]
  obtain ⟨slots, hslots, hle, hleft, hresults⟩ := leftBy_lowerEach h.fresh steps (by rw [hds]; exact h.owners)
    (by rw [hds]; exact h.rows)
  rw [hds] at hslots hleft
  refine ⟨slots, hslots, hle, hleft, fun r hr => ?_⟩
  have hmem : r.1 ∈ ds := by
    rw [← h.declared, ← map_fst_lowerEach steps start]
    exact List.mem_map_of_mem hr
  obtain ⟨body?, hbody, hsome⟩ := hresults r hr
  rw [(r.1.isIntrinsic_kind_iff).2 (h.intrinsic _ hmem)] at hsome
  obtain ⟨body, rfl⟩ := Option.isSome_iff_exists.1 hsome
  exact ⟨body, hbody⟩

/-- A declaration of the run has the row of its place, with its body and its signature. -/
theorem LeftBy.nth {slots : List Slot} {m : Module} (h : LeftBy generation (ds.zip slots) m) {first : Nat}
    (hslots : slots.map (·.row.toNat) = List.range' first ds.length) {i : Nat} (hi : i < ds.length) :
    ∃ slot ∈ slots, slot.row.toNat = first + i ∧
      m.bodies.get? ds[i].owner = some (thunk ds[i] generation slot) ∧
      m.signatures[i]? = some (signature ds[i] slot) := by
  have hlen := length_slots hslots
  have his : i < slots.length := Nat.lt_of_lt_of_eq hi hlen.symm
  have hzip : (ds.zip slots)[i]? = some (ds[i], slots[i]) := by
    rw [List.getElem?_zip_eq_some]
    exact ⟨List.getElem?_eq_getElem hi, List.getElem?_eq_getElem his⟩
  refine ⟨slots[i], List.getElem_mem his, ?_, h.get?_owner (List.mem_of_getElem? hzip), ?_⟩
  · have hrow := congrArg (·[i]?) hslots
    simp only [List.getElem?_map, List.getElem?_eq_getElem his, Option.map_some, List.getElem?_range' hi,
      Nat.one_mul] at hrow
    exact Option.some.inj hrow
  · rw [h.signatures, List.getElem?_map, hzip]
    rfl

theorem parents_eq {ts ts' : List (Declaration × Slot)} {m m' : Module} (h : LeftBy generation ts m)
    (h' : LeftBy generation ts' m') (hperm : (ts.map (·.1.owner)).Perm (ts'.map (·.1.owner))) :
    m.bodies.bodies.map (·.parent) = m'.bodies.bodies.map (·.parent) := by
  obtain ⟨hsorted, hall⟩ := h.parents
  obtain ⟨hsorted', hall'⟩ := h'.parents
  exact BodyStore.eq_of_perm_of_increasing id hsorted hsorted' (hall.trans (hperm.trans hall'.symm))

/-- **The order of a run decides its rows and nothing else.**  Intrinsics with an owner for each, lowered into a fresh
module with rows for all of them, in two orders and under any settings. -/
theorem lowerEach_of_any_order (generation firstRow : UInt32) (start : Module)
    (hstart : Module.new generation firstRow = .ok start) (ds : List Declaration) (σ : Equiv.Perm (Fin ds.length))
    (steps steps' : List (Settings × Declaration)) (hsteps : steps.map (·.2) = ds)
    (hsteps' : steps'.map (·.2) = List.ofFn (fun j => ds[σ j]))
    (hintrinsic : ∀ d ∈ ds, Kind.ofName d.name ≠ .ordinary) (howners : (ds.map (·.owner)).Nodup)
    (hrows : ds.length ≤ 0x1000000 - firstRow.toNat) :
    let first := (lowerEach start steps).1
    let second := (lowerEach start steps').1
    (∀ r ∈ (lowerEach start steps).2, ∃ body, r.2 = .ok (some body)) ∧
    (∀ r ∈ (lowerEach start steps').2, ∃ body, r.2 = .ok (some body)) ∧
    first.bodies.bodies.map (·.parent) = second.bodies.bodies.map (·.parent) ∧
    (first.bodies.bodies.map (·.parent)).Perm (ds.map (·.owner)) ∧
    first.signatures.length = ds.length ∧ second.signatures.length = ds.length ∧
    ∀ j : Fin ds.length,
      -- the declaration at `j` of the second run is at `σ j` of the first
      let i := σ j
      ∃ slot slot' body body' row,
        slot.row.toNat = firstRow.toNat + i ∧ slot'.row.toNat = firstRow.toNat + j ∧
        first.bodies.get? ds[i].owner = some body ∧ second.bodies.get? ds[i].owner = some body' ∧
        body.Renumbered body' slot slot' ∧
        row.slot = slot ∧ first.signatures[i.val]? = some row ∧
        second.signatures[j.val]? = some { row with slot := slot' } := by
  intro first second
  have hperm : (List.ofFn (fun j => ds[σ j])).Perm ds := by
    have hall := Equiv.Perm.ofFn_comp_perm σ (fun i => ds[i])
    rw [show List.ofFn (fun i : Fin ds.length => ds[i]) = ds from List.ofFn_getElem] at hall
    exact hall
  have hrun : FullRun generation firstRow start steps ds := ⟨hstart, hsteps, hintrinsic, howners, hrows⟩
  -- what one run takes for granted of its declarations does not depend on their order
  have hrun' : FullRun generation firstRow start steps' (List.ofFn (fun j => ds[σ j])) :=
    ⟨hstart, hsteps', fun d hd => hintrinsic d (hperm.mem_iff.1 hd), (hperm.map _).nodup_iff.2 howners,
      by rw [hperm.length_eq]; exact hrows⟩
  obtain ⟨slots, hslots, hle, hleft, hresults⟩ := hrun.exists_slots
  obtain ⟨slots', hslots', hle', hleft', hresults'⟩ := hrun'.exists_slots
  have hparents : first.bodies.bodies.map (·.parent) = second.bodies.bodies.map (·.parent) := by
    refine parents_eq hleft hleft' ?_
    rw [map_owner_zip hslots, map_owner_zip hslots']
    exact (hperm.map _).symm
  refine ⟨hresults, hresults', hparents, ?_, ?_, ?_, ?_⟩
  · rw [← map_owner_zip hslots]
    exact hleft.parents.2
  · rw [hleft.signatures, List.length_map, List.length_zip, length_slots hslots, Nat.min_self]
  · rw [hleft'.signatures, List.length_map, List.length_zip, length_slots hslots', Nat.min_self, hperm.length_eq]
  · intro j i
    have hj : j.val < (List.ofFn (fun j => ds[σ j])).length := by
      rw [List.length_ofFn]
      exact j.isLt
    have hnth : (List.ofFn (fun j => ds[σ j]))[j.val] = ds[i] := List.getElem_ofFn hj
    obtain ⟨slot, hmem, hrow, hbody, hsig⟩ := hleft.nth hslots i.isLt
    obtain ⟨slot', hmem', hrow', hbody', hsig'⟩ := hleft'.nth hslots' hj
    rw [hnth] at hbody' hsig'
    exact ⟨slot, slot', _, _, _, hrow, hrow', hbody, hbody', renumbered_thunk _ generation (hle _ hmem) (hle' _ hmem'),
      rfl, hsig, hsig'⟩

/-- A direct call and a tail call, lowered one before the other and the other way round, trade their rows. -/
theorem lowerEach_of_any_order_of_two :
    let direct : Declaration := ⟨9, none, "CallIndirectCDecl", 2, false⟩
    let tail : Declaration := ⟨4, some 3, "TailCallIndirect", 260, true⟩
    let steps : List (Settings × Declaration) := [({}, direct), ({}, tail)]
    let steps' : List (Settings × Declaration) := [({ verify := false }, tail), ({}, direct)]
    ∃ start, Module.new 1 0xFFFFFE = .ok start ∧
      (lowerEach start steps).1.bodies.bodies.map (·.parent) =
        (lowerEach start steps').1.bodies.bodies.map (·.parent) ∧
      ∃ slot slot' body body', slot.row.toNat = 0xFFFFFF ∧ slot'.row.toNat = 0xFFFFFE ∧
        (lowerEach start steps).1.bodies.get? 3 = some body ∧
        (lowerEach start steps').1.bodies.get? 3 = some body' ∧ body.Renumbered body' slot slot' := by
  intro direct tail steps steps'
  let swap : Equiv.Perm (Fin [direct, tail].length) := ⟨Fin.rev, Fin.rev, Fin.rev_rev, Fin.rev_rev⟩
  obtain ⟨-, -, hparents, -, -, -, hall⟩ := lowerEach_of_any_order 1 0xFFFFFE _ rfl [direct, tail] swap steps steps'
    rfl rfl (by decide) (by decide) (by decide)
  obtain ⟨slot, slot', body, body', -, hrow, hrow', hbody, hbody', hrenumbered, -⟩ := hall 0
  exact ⟨_, rfl, hparents, slot, slot', body, body', hrow, hrow', hbody, hbody', hrenumbered⟩

end Lowering
end CilThunk
