import CilThunk.Code.Buffer
import Mathlib
/-!
# BufferTrace — a buffer is the trace of its operations

What a run of operations leaves can be told from the operations alone: their code, their log, the sites of their calls
and the depths of the stack behind each of them.  `Buffer.after` says it in one piece, and `emitAll_eq_none_iff` says
when a run gets that far: as long as every depth on the way is a number of values and fits in 32 bits.
-/
namespace CilThunk

namespace Operation

/-- The depths of the stack behind each operation of a run that starts at `depth`. -/
def depths (depth : Int) : List Operation → List Int
  | [] => []
  | op :: ops => (depth + op.delta.toInt) :: depths (depth + op.delta.toInt) ops

def total (ops : List Operation) : Int := (ops.map (·.delta.toInt)).sum

def encode (ops : List Operation) : List UInt8 := Instruction.encodeAll (ops.map instruction)

/-- The sites of a run whose first instruction stands at `offset`. -/
def sites (offset : Nat) : List Operation → List CallSite
  | [] => []
  | op :: ops => (op.callSites offset).toList ++ sites (offset + op.instruction.size) ops

/-- The log of a run whose first instruction stands at `offset`. -/
def emissions (offset : Nat) : List Operation → List Emission
  | [] => []
  | op :: ops => ⟨offset, op.instruction, op.delta⟩ :: emissions (offset + op.instruction.size) ops

theorem total_cons (op : Operation) (ops : List Operation) : total (op :: ops) = op.delta.toInt + total ops := by
  simp [total]

theorem total_append (xs ys : List Operation) : total (xs ++ ys) = total xs + total ys := by
  simp [total]

theorem encode_cons (op : Operation) (ops : List Operation) :
    encode (op :: ops) = op.instruction.bytes ++ encode ops := by
  simp [encode, Instruction.encodeAll]

theorem encode_append (xs ys : List Operation) : encode (xs ++ ys) = encode xs ++ encode ys := by
  simp [encode, Instruction.encodeAll]

theorem depths_append (depth : Int) (xs ys : List Operation) :
    depths depth (xs ++ ys) = depths depth xs ++ depths (depth + total xs) ys := by
  induction xs generalizing depth with
  | nil => simp [depths, total]
  | cons x xs ih => simp [depths, ih, total_cons, Int.add_assoc]

theorem length_encode_cons (op : Operation) (ops : List Operation) :
    (encode (op :: ops)).length = op.instruction.size + (encode ops).length := by
  rw [encode_cons, List.length_append, Instruction.length_bytes]

theorem sites_append (offset : Nat) (xs ys : List Operation) :
    sites offset (xs ++ ys) = sites offset xs ++ sites (offset + (encode xs).length) ys := by
  induction xs generalizing offset with
  | nil => simp [sites, encode, Instruction.encodeAll]
  | cons x xs ih => simp [sites, ih, length_encode_cons, Nat.add_assoc]

theorem emissions_append (offset : Nat) (xs ys : List Operation) :
    emissions offset (xs ++ ys) = emissions offset xs ++ emissions (offset + (encode xs).length) ys := by
  induction xs generalizing offset with
  | nil => simp [emissions, encode, Instruction.encodeAll]
  | cons x xs ih => simp [emissions, ih, length_encode_cons, Nat.add_assoc]

/-- The depth a run ends at is the last of its depths, if it has any. -/
theorem total_mem_depths (depth : Int) (ops : List Operation) (h : ops ≠ []) :
    depth + total ops ∈ depths depth ops := by
  obtain ⟨xs, x, rfl⟩ := List.eq_nil_or_concat ops |>.resolve_left h
  simp [depths_append, depths, total, Int.add_assoc]

end Operation

namespace Buffer

open Operation

def InRange (depth : Int) : Prop := 0 ≤ depth ∧ depth ≤ 2147483647

/-- A buffer with a run of operations appended and charged. -/
def after (b : Buffer) (ops : List Operation) : Buffer :=
  { b with
    code := b.code ++ encode ops
    log := b.log ++ emissions b.offset ops
    callSites := b.callSites ++ sites b.offset ops
    depth := b.depth + total ops
    maxDepth := (depths b.depth ops).foldl max b.maxDepth }

theorem size_appendList {α : Type} (xs : Array α) (ys : List α) : (xs ++ ys).size = xs.size + ys.length := by
  rw [← Array.length_toList, Array.toList_appendList, List.length_append, Array.length_toList]

theorem appendList_appendList {α : Type} (xs : Array α) (ys zs : List α) : xs ++ ys ++ zs = xs ++ (ys ++ zs) := by
  apply Array.ext'
  simp

theorem appendList_toList {α : Type} (xs ys : Array α) : xs ++ ys.toList = xs ++ ys := by
  apply Array.ext'
  simp

theorem after_nil (b : Buffer) : b.after [] = b := by
  simp [after, encode, Instruction.encodeAll, emissions, sites, depths, total]

theorem after_append (b : Buffer) (xs ys : List Operation) : b.after (xs ++ ys) = (b.after xs).after ys := by
  simp only [after, encode_append, emissions_append, sites_append, depths_append, total_append, offset,
    size_appendList, appendList_appendList, List.foldl_append, Int.add_assoc]

theorem depth_after_singleton (b : Buffer) (op : Operation) : (b.after [op]).depth = b.depth + op.delta.toInt := by
  simp [after, total]

theorem emit_of_inRange {b : Buffer} {op : Operation} (h : InRange (b.depth + op.delta.toInt)) :
    b.emit op = (b.after [op], none) := by
  obtain ⟨h0, h1⟩ := h
  have hf : FitsInt32 (b.depth + op.delta.toInt) := ⟨by omega, h1⟩
  have hn : ¬ b.depth + op.delta.toInt < 0 := Int.not_lt.2 h0
  simp [emit, charge, append, hn, hf]
  simp [after, encode, Instruction.encodeAll, emissions, sites, depths, total, offset, appendList_toList]

theorem emit_of_not_inRange {b : Buffer} {op : Operation} (h : ¬ InRange (b.depth + op.delta.toInt)) :
    ∃ b' fault, b.emit op = (b', some fault) := by
  have hd : (b.append op).depth = b.depth := rfl
  simp only [emit, charge, hd]
  by_cases hf : FitsInt32 (b.depth + op.delta.toInt)
  · have hn : b.depth + op.delta.toInt < 0 := Int.not_le.1 (fun h0 => h ⟨h0, hf.2⟩)
    exact ⟨_, _, by rw [if_neg (not_not_intro hf), if_pos hn]⟩
  · exact ⟨_, _, by rw [if_pos hf]⟩

theorem emitAll_of_inRange : ∀ (ops : List Operation) (b : Buffer), (∀ d ∈ depths b.depth ops, InRange d) →
    b.emitAll ops = (b.after ops, none)
  | [], b, _ => by rw [after_nil]; rfl
  | op :: ops, b, h => by
    have h0 : InRange (b.depth + op.delta.toInt) := h _ (by simp [depths])
    have hrest : ∀ d ∈ depths (b.after [op]).depth ops, InRange d := fun d hm =>
      h d (by rw [depth_after_singleton] at hm; exact List.mem_cons_of_mem _ hm)
    rw [emitAll, emit_of_inRange h0]
    simp only
    rw [emitAll_of_inRange ops (b.after [op]) hrest, ← after_append, List.singleton_append]

theorem inRange_of_emitAll : ∀ (ops : List Operation) (b : Buffer), (b.emitAll ops).2 = none →
    ∀ d ∈ depths b.depth ops, InRange d
  | [], _, _ => by simp [depths]
  | op :: ops, b, h => by
    have h0 : InRange (b.depth + op.delta.toInt) := Classical.byContradiction (fun hn => by
      obtain ⟨b₁, fault, hb⟩ := emit_of_not_inRange hn
      rw [emitAll, hb] at h
      cases h)
    rw [emitAll, emit_of_inRange h0] at h
    intro d hm
    rcases List.mem_cons.1 hm with rfl | hm
    · exact h0
    · exact inRange_of_emitAll ops _ h d (by rw [depth_after_singleton]; exact hm)

/-- **A run gets to its end exactly if all depths on the way are in range.** -/
theorem emitAll_eq_none_iff (b : Buffer) (ops : List Operation) :
    (b.emitAll ops).2 = none ↔ ∀ d ∈ depths b.depth ops, InRange d :=
  ⟨inRange_of_emitAll ops b, fun h => by rw [emitAll_of_inRange ops b h]⟩

/-- **A run that got to its end, unpacked.** -/
theorem emitAll_ok {b b' : Buffer} {ops : List Operation} (h : b.emitAll ops = (b', none)) :
    b' = b.after ops ∧ ∀ d ∈ depths b.depth ops, InRange d := by
  have hd := inRange_of_emitAll ops b (by rw [h])
  rw [emitAll_of_inRange ops b hd] at h
  cases h
  exact ⟨rfl, hd⟩

/-! ## The bound -/

theorem foldl_max_le_iff : ∀ (ds : List Int) (bound limit : Int),
    ds.foldl max bound ≤ limit ↔ bound ≤ limit ∧ ∀ d ∈ ds, d ≤ limit
  | [], bound, limit => by simp
  | d :: ds, bound, limit => by
    rw [List.foldl_cons, foldl_max_le_iff ds]
    simp only [List.forall_mem_cons, Int.max_le, and_assoc]

theorem freeze_eq_ok_iff (b : Buffer) (c : SealedCode) :
    b.freeze = .ok c ↔
      b.maxDepth ≤ 65535 ∧ c = ⟨b.code.toList, UInt16.ofNat b.maxDepth.toNat, b.callSites.toList⟩ := by
  unfold freeze
  split
  · rename_i hle
    simp [hle, eq_comm]
  · rename_i hlt
    simp [hlt]

/-- **Frozen code, unpacked**: what a fresh buffer freezes to after a run. -/
theorem freeze_after_ok {o : Optimization} {ops : List Operation} {c : SealedCode}
    (h : (({ optimization := o } : Buffer).after ops).freeze = .ok c) :
    c.bytes = encode ops ∧ c.callSites = sites 0 ops ∧
      (c.maxStack.toNat : Int) = (depths 0 ops).foldl max 0 := by
  obtain ⟨hle, rfl⟩ := (freeze_eq_ok_iff _ _).1 h
  have h0 : 0 ≤ (depths 0 ops).foldl max 0 := ((foldl_max_le_iff _ 0 _).1 (Int.le_refl _)).1
  change (depths 0 ops).foldl max 0 ≤ 65535 at hle
  refine ⟨by simp [after], by simp [after, offset], ?_⟩
  simp only [UInt16.toNat_ofNat', after]
  omega

end Buffer
end CilThunk
