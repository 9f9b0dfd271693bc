import CilThunk.Proofs.Code.BufferRun
import CilThunk.Proofs.Lowering.RowCounter
/-!
# ThunkOnBuffer — a thunk behind other code

A thunk goes behind whatever a run of operations left in a buffer, and the depth there is the same in front of it and
behind it.  Without a row its loads and its mark stay, and its arguments on the stack with them.  Loads take one, two or
four bytes each (`size_loads`), and only the call adds a site (`sites_operations`).
-/
namespace CilThunk

open Operation

namespace Lowering

/-- The loads and the mark of a thunk, as instructions. -/
def leadInstructions (arity : UInt16) (isTail : Bool) : List Instruction :=
  (List.range arity.toNat).map (fun i => .ldarg (UInt16.ofNat i)) ++ if isTail then [.tail] else []

/-- How many bytes they take: arguments below 4 one each, then those below 256 two, the others four. -/
def leadSize (arity : UInt16) (isTail : Bool) : Nat :=
  let n := arity.toNat
  min n 4 + 2 * (min n 256 - min n 4) + 4 * (n - min n 256) + if isTail then 2 else 0

theorem size_ldarg_ofNat {i : Nat} (h : i < 65536) :
    (Instruction.ldarg (UInt16.ofNat i)).size = if i < 4 then 1 else if i < 256 then 2 else 4 := by
  have hi : (UInt16.ofNat i).toNat = i := UInt16.toNat_ofNat_of_lt' h
  have h3 : UInt16.ofNat i ≤ 3 ↔ i < 4 := by
    rw [UInt16.le_iff_toNat_le, hi]
    exact Nat.lt_succ_iff.symm
  have h255 : UInt16.ofNat i ≤ 255 ↔ i < 256 := by
    rw [UInt16.le_iff_toNat_le, hi]
    exact Nat.lt_succ_iff.symm
  simp only [Instruction.size, h3, h255]

theorem size_loads : ∀ n : Nat, n ≤ 65536 →
    ((List.range n).map (fun i => (Instruction.ldarg (UInt16.ofNat i)).size)).sum =
      min n 4 + 2 * (min n 256 - min n 4) + 4 * (n - min n 256)
  | 0, _ => rfl
  | n + 1, h => by
    have hlast := size_ldarg_ofNat (i := n) h
    rw [List.range_succ, List.map_append, List.sum_append, size_loads n (Nat.le_of_succ_le h), List.map_singleton,
      List.sum_singleton, hlast]
    split
    · omega
    · split <;> omega

theorem map_instruction_lead (d : Declaration) (isTail : Bool) :
    (lead d isTail).map instruction = leadInstructions d.arity isTail := by
  rw [lead, loads, leadInstructions, List.map_append, List.map_map]
  cases isTail <;> rfl

theorem sum_size_lead (d : Declaration) (isTail : Bool) :
    ((lead d isTail).map (·.instruction.size)).sum = leadSize d.arity isTail := by
  rw [lead, loads, List.map_append, List.map_map, List.sum_append, leadSize,
    ← size_loads d.arity.toNat (Nat.le_of_lt d.arity.toNat_lt)]
  cases isTail <;> rfl

theorem sites_loadArguments : ∀ (is : List UInt16) (offset : Nat), sites offset (is.map .loadArgument) = []
  | [], _ => rfl
  | i :: is, offset => by
    rw [List.map_cons, sites, sites_loadArguments is]
    rfl

theorem sites_lead (d : Declaration) (isTail : Bool) (offset : Nat) : sites offset (lead d isTail) = [] := by
  rw [lead, sites_append, loads_eq, sites_loadArguments]
  cases isTail <;> rfl

/-- The one site of a thunk, behind its lead. -/
theorem sites_operations (d : Declaration) (isTail : Bool) (token : Token) (offset : Nat) :
    sites offset (operations d isTail token) =
      [⟨offset + leadSize d.arity isTail, token, stackAdjustment d.arity d.isVoid⟩] := by
  rw [operations, sites_append, sites_lead, length_encode, sum_size_lead]
  rfl

/-- **The greatest depth of a lead**: all arguments on top of what is there. -/
theorem foldl_max_lead (d : Declaration) (isTail : Bool) {depth bound : Int} (h : depth ≤ bound) :
    (depths depth (lead d isTail)).foldl max bound = max bound (depth + d.arity.toNat) := by
  have hle : ∀ limit, (depths depth (lead d isTail)).foldl max bound ≤ limit ↔
      max bound (depth + d.arity.toNat) ≤ limit := by
    intro limit
    rw [Buffer.foldl_max_le_iff]
    constructor
    · rintro ⟨hbound, hlead⟩
      have harity := arity_le_of_depths_lead (by omega) hlead
      omega
    · intro hmax
      refine ⟨by omega, fun x hx => ?_⟩
      have := depths_lead_bounded hx
      omega
  exact Int.le_antisymm ((hle _).2 (Int.le_refl _)) ((hle _).1 (Int.le_refl _))

/-- **A thunk on any buffer leaves the depth as it was**, and without a row it stops in front of its call. -/
theorem emitThunk_of_run (generation firstRow : UInt32) (start : Module)
    (hstart : Module.new generation firstRow = .ok start) (requests : List Request) (o : Optimization)
    (before : List Operation) (b : Buffer) (hbefore : ({ optimization := o } : Buffer).emitAll before = (b, none))
    (d : Declaration) (isTail : Bool) (hfit : FitsInt32 (b.depth + max (d.arity.toNat : Int) 1)) :
    let m := start.after requests
    let e := emitThunk b m d isTail
    -- with a row
    (m.nextRow.toNat ≤ 0xFFFFFF → ∃ slot token, slot.row = m.nextRow ∧ slot.token = .ok token ∧
      e.result = .ok (slot, d.convention) ∧ e.module = { m with nextRow := m.nextRow + 1 } ∧
      e.buffer.instructions = b.instructions ++ leadInstructions d.arity isTail ++ [.calli token, .ret] ∧
      e.buffer.offset = b.offset + leadSize d.arity isTail + 6 ∧
      e.buffer.callSites.toList =
        b.callSites.toList ++
          [⟨b.offset + leadSize d.arity isTail, token, stackAdjustment d.arity d.isVoid⟩] ∧
      e.buffer.depth = b.depth ∧
      e.buffer.maxDepth =
        max b.maxDepth (max (b.depth + d.arity.toNat) (b.depth + if d.isVoid then 0 else 1))) ∧
    -- without
    (0xFFFFFF < m.nextRow.toNat →
      e.result = .error (.refused .signatureTableExhausted) ∧ e.module = m ∧
      e.buffer.instructions = b.instructions ++ leadInstructions d.arity isTail ∧
      e.buffer.offset = b.offset + leadSize d.arity isTail ∧ e.buffer.callSites = b.callSites ∧
      e.buffer.depth = b.depth + d.arity.toNat ∧ e.buffer.maxDepth = max b.maxDepth (b.depth + d.arity.toNat)) := by
  intro m e
  obtain ⟨hstart, -⟩ := Module.new_eq_ok hstart
  have hm : m.nextRow ≠ 0 := Module.nextRow_after_ne_zero requests hstart
  have hholds := Buffer.holds_of_emitAll hbefore
  have h0 : 0 ≤ b.depth := by
    rw [hholds.depth]
    exact ((Buffer.emitAll_eq_none_iff_rise o before).1 (by rw [hbefore]) before List.prefix_rfl).1
  have hbound : b.depth ≤ b.maxDepth := by
    rw [hholds.depth]
    exact hholds.le_maxDepth before List.prefix_rfl
  have hpeak : b.depth + d.peak ≤ 2147483647 := by
    have hle := hfit.2
    have := d.yield_le_one
    unfold Declaration.peak
    omega
  have he : e = _ := emitThunk_eq d isTail h0 hpeak hm
  constructor
  · intro hrow
    rw [← le_maxRow_iff] at hrow
    rw [if_pos hrow] at he
    rw [he]
    refine ⟨⟨m.nextRow, hm⟩, .ofRow m.nextRow, rfl, Slot.token_eq hrow, rfl, rfl, ?_, ?_, ?_, ?_, ?_⟩
    · rw [Buffer.instructions_after, operations, List.map_append, map_instruction_lead, List.append_assoc]
      rfl
    · rw [Buffer.offset_after, operations, List.map_append, List.sum_append, sum_size_lead, Nat.add_assoc]
      rfl
    · rw [← sites_operations d isTail (.ofRow m.nextRow) b.offset]
      exact Array.toList_appendList
    · change b.depth + total _ = b.depth
      rw [total_operations, Int.add_zero]
    · change (depths b.depth _).foldl max b.maxDepth = _
      rw [foldl_max_operations]
      unfold Declaration.peak Declaration.yield
      split <;> omega
  · intro hrow
    rw [← not_le_maxRow_iff] at hrow
    rw [if_neg hrow] at he
    rw [he]
    refine ⟨rfl, rfl, ?_, ?_, ?_, ?_, foldl_max_lead d isTail hbound⟩
    · rw [Buffer.instructions_after, map_instruction_lead]
    · rw [Buffer.offset_after, sum_size_lead]
    · change b.callSites ++ sites b.offset _ = b.callSites
      rw [sites_lead]
      exact Array.ext' (by simp)
    · change b.depth + total _ = _
      rw [total_lead]

/-- The last row goes to a thunk behind a load; the next one stops in front of its call. -/
theorem emitThunk_of_run_last_row :
    let d : Declaration := ⟨1, none, "CallIndirect", 300, false⟩
    ∃ start b, Module.new 0 0xFFFFFF = .ok start ∧
      ({ optimization := .debug } : Buffer).emitAll [.loadArgument 7, .tailMark] = (b, none) ∧
      FitsInt32 (b.depth + max (d.arity.toNat : Int) 1) ∧
      (emitThunk b start d true).buffer.offset = 4 + 686 + 6 ∧ (emitThunk b start d true).buffer.depth = 1 ∧
      (emitThunk b start d true).buffer.maxDepth = 301 ∧
      (emitThunk b (start.after [.allocate]) d true).buffer.callSites = #[] ∧
      (emitThunk b (start.after [.allocate]) d true).buffer.depth = 301 := by
  intro d
  have hfit : FitsInt32 (1 + max (d.arity.toNat : Int) 1) := by decide
  obtain ⟨hrow, -⟩ := emitThunk_of_run 0 0xFFFFFF _ rfl [] .debug [.loadArgument 7, .tailMark] _ rfl d true hfit
  obtain ⟨-, hnone⟩ :=
    emitThunk_of_run 0 0xFFFFFF _ rfl [.allocate] .debug [.loadArgument 7, .tailMark] _ rfl d true hfit
  obtain ⟨slot, token, -, -, -, -, -, hoffset, -, hdepth, hmax⟩ := hrow (by decide)
  obtain ⟨-, -, -, -, hsites, hend, -⟩ := hnone (by decide)
  have hsize : leadSize d.arity true = 686 := by decide
  rw [hsize] at hoffset
  exact ⟨_, _, rfl, rfl, hfit, hoffset, hdepth, hmax, hsites, hend⟩

end Lowering
end CilThunk
