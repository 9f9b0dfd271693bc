import CilThunk.Code.Decode
import Mathlib
/-!
# Layout — where the instructions of encoded code stand

Code that was written instruction by instruction is read back as the same instructions, each at the offset at which
the bytes of those before it end (`decode_encodeAll`).  A fetch takes the bytes of one instruction and leaves what is
behind them alone (`fetch_bytes`), so the reading never loses its step.
-/
namespace CilThunk

namespace Instruction

/-- Instructions with the offsets they stand at, one behind the other from `offset` on. -/
def layout (offset : Nat) : List Instruction → List (Nat × Instruction)
  | [] => []
  | i :: is => (offset, i) :: layout (offset + i.size) is

theorem encodeAll_cons (i : Instruction) (is : List Instruction) : encodeAll (i :: is) = i.bytes ++ encodeAll is := by
  simp [encodeAll]

theorem layout_append (offset : Nat) (xs ys : List Instruction) :
    layout offset (xs ++ ys) = layout offset xs ++ layout (offset + (encodeAll xs).length) ys := by
  induction xs generalizing offset with
  | nil => rfl
  | cons i is ih =>
    simp only [List.cons_append, layout, ih, encodeAll_cons, List.length_append, length_bytes, Nat.add_assoc]

theorem map_snd_layout (offset : Nat) (is : List Instruction) : (layout offset is).map (·.2) = is := by
  induction is generalizing offset with
  | nil => rfl
  | cons i is ih => rw [layout, List.map_cons, ih]

/-- An instruction stands behind all bytes of those before it. -/
theorem layout_eq_mapIdx (offset : Nat) (is : List Instruction) :
    layout offset is = is.mapIdx (fun k i => (offset + ((is.take k).map size).sum, i)) := by
  induction is generalizing offset with
  | nil => rfl
  | cons i is ih =>
    rw [layout, ih, List.mapIdx_cons]
    simp only [List.take_zero, List.map_nil, List.sum_nil, Nat.add_zero, List.take_succ_cons, List.map_cons,
      List.sum_cons, Nat.add_assoc]

theorem size_pos (i : Instruction) : 0 < i.size := by
  cases i with
  | ldarg n =>
    simp only [size]
    repeat' split
    all_goals decide
  | tail => decide
  | calli t => exact Nat.succ_pos 4
  | ret => decide

end Instruction

namespace Code

open Instruction

/-- **The bytes of an instruction are fetched as that instruction**, whatever code is behind them. -/
theorem fetch_bytes (offset : Nat) (i : Instruction) (rest : List UInt8) :
    fetch offset (i.bytes ++ rest) = .ok ⟨i, i.size, rest⟩ := by
  cases i with
  | ldarg n =>
    simp only [bytes, size]
    split
    · rename_i h
      have hn : n = 0 ∨ n = 1 ∨ n = 2 ∨ n = 3 := by
        simp only [UInt16.le_iff_toNat_le, ← UInt16.toNat_inj] at h ⊢
        simp at h ⊢
        omega
      rcases hn with rfl | rfl | rfl | rfl <;> rfl
    · split
      · rename_i h
        have hn : n.toUInt8.toUInt16 = n := by
          apply UInt16.toNat_inj.1
          simp [UInt16.le_iff_toNat_le] at h ⊢
          omega
        simp [fetch, hn]
      · simp [fetch, LittleEndian.bytes16, LittleEndian.ofBytes16_bytes16]
  | tail => rfl
  | calli t => simp [fetch, bytes, size, LittleEndian.bytes32, LittleEndian.ofBytes32_bytes32]
  | ret => rfl

theorem decodeOnto_of_fetch {read : List (Nat × Instruction)} {offset : Nat} {code : List UInt8} {f : Fetched}
    (h : fetch offset code = .ok f) :
    decodeOnto read offset code = decodeOnto ((offset, f.instruction) :: read) (offset + f.width) f.rest := by
  cases code with
  | nil => simp [fetch] at h
  | cons op tail =>
    rw [decodeOnto]
    split
    · rename_i e he
      rw [he] at h; cases h
    · rename_i g hg
      rw [hg] at h; cases h; rfl

theorem decodeOnto_of_fetch_error {read : List (Nat × Instruction)} {offset : Nat} {code : List UInt8} {e : DecodeError}
    (hcode : code ≠ []) (h : fetch offset code = .error e) : decodeOnto read offset code = .error e := by
  cases code with
  | nil => exact absurd rfl hcode
  | cons op rest =>
    rw [decodeOnto]
    split
    · rename_i e' he
      rw [he] at h
      cases h
      rfl
    · rename_i f hf
      rw [hf] at h
      cases h

theorem decodeOnto_encodeAll (read : List (Nat × Instruction)) (offset : Nat) (is : List Instruction) :
    decodeOnto read offset (encodeAll is) = .ok (read.reverse ++ layout offset is) := by
  induction is generalizing read offset with
  | nil => simp [encodeAll, decodeOnto, layout]
  | cons i is ih =>
    rw [encodeAll_cons, decodeOnto_of_fetch (fetch_bytes offset i (encodeAll is)), ih]
    simp [layout]

/-- **Encoded code reads back as it was laid out.** -/
theorem decode_encodeAll (is : List Instruction) : decode (encodeAll is) = .ok (layout 0 is) :=
  decodeOnto_encodeAll [] 0 is

end Code
end CilThunk
