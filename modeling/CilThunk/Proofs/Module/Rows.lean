import CilThunk.Module
import Mathlib
/-!
# Rows — the StandAloneSig table of a module

A row is handed out while the table has one (`allocate_eq`), and its token names the table and the row
(`Slot.token_eq`).  In a module whose every row is recorded right when it is handed out the recorded signatures are
the rows from the first on, in order and each once (`Module.Contiguous`), so that the table sorted by row is the table
as it was recorded and a row of it is found by its number alone (`Module.Contiguous.filter_signatures`).
-/
namespace CilThunk

/-! ## Tokens -/

namespace Token

def ofRow (row : UInt32) : Token := ⟨Table.standAloneSig.tag + row⟩

theorem toNat_raw_ofRow {row : UInt32} (h : row ≤ maxRow) : (ofRow row).raw.toNat = 285212672 + row.toNat := by
  have hrow : row.toNat ≤ 16777215 := UInt32.le_iff_toNat_le.1 h
  rw [ofRow, UInt32.toNat_add, show Table.standAloneSig.tag.toNat = 285212672 from rfl]
  omega

theorem row_ofRow {row : UInt32} (h : row ≤ maxRow) : (ofRow row).row = row := by
  have hrow : row.toNat ≤ 16777215 := UInt32.le_iff_toNat_le.1 h
  apply UInt32.toNat_inj.1
  rw [Token.row, UInt32.toNat_mod, toNat_raw_ofRow h, show (16777216 : UInt32).toNat = 16777216 from rfl]
  omega

theorem table?_ofRow {row : UInt32} (h : row ≤ maxRow) : (ofRow row).table? = some .standAloneSig := by
  have hrow : row.toNat ≤ 16777215 := UInt32.le_iff_toNat_le.1 h
  have hbyte : ((ofRow row).raw / 16777216).toUInt8 = 0x11 := by
    apply UInt8.toNat_inj.1
    rw [UInt32.toNat_toUInt8, UInt32.toNat_div, toNat_raw_ofRow h, show (16777216 : UInt32).toNat = 16777216 from rfl,
      show (0x11 : UInt8).toNat = 17 from rfl]
    omega
  rw [Token.table?, hbyte]
  rfl

end Token

theorem Slot.token_eq {slot : Slot} (h : slot.row ≤ maxRow) : slot.token = .ok (.ofRow slot.row) := if_pos h

/-! ## The counter -/

namespace Module

/-- **What a request for a row gives**: the next row, or nothing once the rows of a token are used up. -/
theorem allocate_eq {m : Module} (h : m.nextRow ≠ 0) :
    m.allocate =
      if m.nextRow ≤ maxRow then .ok (⟨m.nextRow, h⟩, { m with nextRow := m.nextRow + 1 })
      else .error .signatureTableExhausted := by
  unfold allocate
  simp only [Slot.ofRow?, dif_neg h]

/-- The recorded signatures are those of the rows from the first on, in order, and the next row is the one behind
them.  The counter stops one past the largest row of a token. -/
structure Contiguous (m : Module) : Prop where
  firstRow_ne_zero : m.firstRow ≠ 0
  rows : m.recorded.toList.map (·.slot.row.toNat) = List.range' m.firstRow.toNat m.recorded.size
  nextRow : m.nextRow.toNat = m.firstRow.toNat + m.recorded.size
  bounded : m.recorded.size = 0 ∨ m.nextRow.toNat ≤ 16777216

theorem Contiguous.nextRow_ne_zero {m : Module} (h : m.Contiguous) : m.nextRow ≠ 0 := by
  intro h0
  have hnext := h.nextRow
  have hfirst : m.firstRow.toNat ≠ 0 := fun hz => h.firstRow_ne_zero (UInt32.toNat_inj.1 hz)
  rw [h0] at hnext
  simp at hnext
  omega

theorem eq_of_new {generation firstRow : UInt32} {m : Module} (h : Module.new generation firstRow = .ok m) :
    firstRow ≠ 0 ∧ m = { generation := generation, firstRow := firstRow, nextRow := firstRow } := by
  unfold Module.new at h
  split at h
  · cases h
  · rename_i hfirst
    cases h
    exact ⟨hfirst, rfl⟩

theorem contiguous_new {generation firstRow : UInt32} {m : Module} (h : Module.new generation firstRow = .ok m) :
    m.Contiguous := by
  obtain ⟨hfirst, rfl⟩ := eq_of_new h
  exact ⟨hfirst, rfl, rfl, .inl rfl⟩

/-- A row that is handed out and recorded at once goes behind the others. -/
theorem Contiguous.record {m : Module} (h : m.Contiguous) (hle : m.nextRow ≤ maxRow) {signature : CallSignature}
    (hs : signature.slot.row = m.nextRow) (bodies : BodyStore) :
    ({ m with
        nextRow := m.nextRow + 1
        recorded := m.recorded.push signature
        bodies := bodies } : Module).Contiguous := by
  have hrow : m.nextRow.toNat ≤ 16777215 := UInt32.le_iff_toNat_le.1 hle
  have hnext : (m.nextRow + 1).toNat = m.nextRow.toNat + 1 := by
    rw [UInt32.toNat_add, show (1 : UInt32).toNat = 1 from rfl]
    omega
  refine ⟨h.firstRow_ne_zero, ?_, ?_, .inr ?_⟩
  · simp only [Array.toList_push, List.map_append, List.map_cons, List.map_nil, Array.size_push, h.rows, hs, h.nextRow]
    rw [List.range'_concat]
    simp
  · simp only [Array.size_push, hnext, h.nextRow]
    omega
  · simp only [hnext]
    omega

/-! ## The table -/

theorem Contiguous.strictly_increasing {m : Module} (h : m.Contiguous) :
    m.recorded.toList.Pairwise (fun a b => a.slot.row.toNat < b.slot.row.toNat) := by
  have hp : (m.recorded.toList.map (·.slot.row.toNat)).Pairwise (· < ·) := by
    rw [h.rows]
    exact List.pairwise_lt_range'
  exact List.pairwise_map.1 hp

/-- **The table by row is the table as it was recorded.** -/
theorem Contiguous.signatures_eq {m : Module} (h : m.Contiguous) : m.signatures = m.recorded.toList := by
  unfold signatures
  apply List.mergeSort_of_pairwise
  refine h.strictly_increasing.imp (fun {a b} hab => ?_)
  simp only [decide_eq_true_eq, UInt32.le_iff_toNat_le]
  omega

/-- **A row of the table is found by its number alone.** -/
theorem Contiguous.filter_signatures {m : Module} (h : m.Contiguous) {signature : CallSignature}
    (hm : signature ∈ m.recorded) : m.signatures.filter (fun r => r.slot.row == signature.slot.row) = [signature] := by
  rw [h.signatures_eq]
  have hm := Array.mem_toList_iff.2 hm
  have hp := h.strictly_increasing
  generalize m.recorded.toList = rows at hm hp
  induction rows with
  | nil => cases hm
  | cons r rows ih =>
    obtain ⟨hr, hp⟩ := List.pairwise_cons.1 hp
    rcases List.mem_cons.1 hm with rfl | hm
    · rw [List.filter_cons_of_pos (by simp), List.filter_eq_nil_iff.2]
      intro a ha heq
      have hlt := hr a ha
      rw [eq_of_beq heq] at hlt
      exact Nat.lt_irrefl _ hlt
    · have hne : ¬ (r.slot.row == signature.slot.row) = true := by
        intro heq
        have hlt := hr signature hm
        rw [eq_of_beq heq] at hlt
        exact Nat.lt_irrefl _ hlt
      rw [List.filter_cons, if_neg hne]
      exact ih hm hp

end Module
end CilThunk
