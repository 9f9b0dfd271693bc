import CilThunk.Proofs.Lowering.Request
/-!
# RowCounter — rows are handed out once

The counter of a module moves on by one exactly when a row is handed out, whatever the request for it comes to in the
end.  So the rows of a run of requests are consecutive from the first on (`Module.rows_granted`), the counter tells how
many there were (`Module.nextRow_after`), and once the rows of a token are used up it stays where it is
(`Module.after_of_exhausted`).
-/
namespace CilThunk

theorem le_maxRow_iff (row : UInt32) : row ≤ maxRow ↔ row.toNat ≤ 0xFFFFFF := UInt32.le_iff_toNat_le

theorem not_le_maxRow_iff (row : UInt32) : ¬ row ≤ maxRow ↔ 0xFFFFFF < row.toNat := by
  rw [le_maxRow_iff, Nat.not_le]

namespace Slot

theorem exists_token {slot : Slot} (h : slot.row ≤ maxRow) :
    ∃ token, slot.token = .ok token ∧ token.isNil = false ∧ token.table? = some .standAloneSig ∧
      token.row = slot.row := by
  have hrow := Token.row_ofRow h
  refine ⟨.ofRow slot.row, Slot.token_eq h, ?_, Token.table?_ofRow h, hrow⟩
  rw [Token.isNil, hrow]
  exact beq_false_of_ne slot.row_ne_zero

theorem row_eq_of_token_eq {a b : Slot} (ha : a.row ≤ maxRow) (hb : b.row ≤ maxRow) (h : a.token = b.token) :
    a.row = b.row := by
  rw [Slot.token_eq ha, Slot.token_eq hb] at h
  rw [← Token.row_ofRow ha, Except.ok.inj h, Token.row_ofRow hb]

end Slot

namespace Request

theorem slot?_eq_some {m : Module} {r : Request} {slot : Slot} (hm : m.nextRow ≠ 0) (h : r.slot? m = some slot) :
    r.asks = true ∧ m.nextRow ≤ maxRow ∧ slot = ⟨m.nextRow, hm⟩ := by
  by_cases hrow : m.nextRow ≤ maxRow
  · cases hr : r.asks with
    | false =>
      rw [slot?_of_not_asks hr] at h
      cases h
    | true =>
      rw [slot?_of_row hm hr hrow] at h
      exact ⟨rfl, hrow, (Option.some.inj h).symm⟩
  · rw [slot?_of_exhausted hm hrow] at h
    cases h

theorem toNat_nextRow_succ {m : Module} (hrow : m.nextRow ≤ maxRow) :
    (m.nextRow + 1).toNat = m.nextRow.toNat + 1 := by
  have hle : m.nextRow.toNat ≤ 0xFFFFFF := (le_maxRow_iff _).1 hrow
  rw [UInt32.toNat_add, show (1 : UInt32).toNat = 1 from rfl]
  omega

/-- **The counter moves on by one exactly when a row is handed out.** -/
theorem nextRow_perform (m : Module) (r : Request) (hm : m.nextRow ≠ 0) :
    (r.perform m).module.nextRow.toNat = m.nextRow.toNat + (r.slot? m).toList.length := by
  obtain ⟨hr, ho⟩ | ⟨hr, hrow, ho⟩ | ⟨hr, hrow, ho⟩ := r.perform_cases m hm
  · rw [ho.nextRow, slot?_of_not_asks hr]
    rfl
  · rw [ho, slot?_of_exhausted hm hrow]
    rfl
  · rw [ho.nextRow, slot?_of_row hm hr hrow, toNat_nextRow_succ hrow]
    rfl

theorem firstRow_perform (m : Module) (r : Request) (hm : m.nextRow ≠ 0) :
    (r.perform m).module.firstRow = m.firstRow := by
  obtain ⟨-, ho⟩ | ⟨-, -, ho⟩ | ⟨-, -, ho⟩ := r.perform_cases m hm
  · exact ho.firstRow
  · rw [ho]
  · exact ho.firstRow

theorem nextRow_perform_ne_zero {m : Module} (r : Request) (hm : m.nextRow ≠ 0) :
    (r.perform m).module.nextRow ≠ 0 := by
  intro h
  have hnext := nextRow_perform m r hm
  rw [h] at hnext
  have hzero : m.nextRow.toNat = 0 := (Nat.add_eq_zero_iff.1 hnext.symm).1
  exact hm (UInt32.toNat_inj.1 hzero)

theorem perform_of_exhausted {m : Module} {r : Request} (hm : m.nextRow ≠ 0) (hrow : ¬ m.nextRow ≤ maxRow)
    (hr : r.asks = true) : r.perform m = ⟨m, Served.refusal⟩ := by
  obtain ⟨hno, -⟩ | ⟨-, -, ho⟩ | ⟨-, hle, -⟩ := r.perform_cases m hm
  · rw [hr] at hno
    cases hno
  · exact ho
  · exact absurd hle hrow

/-- **A request is refused exactly if it asks for a row when there are no more.** -/
theorem reply_eq_refusal_iff (m : Module) (r : Request) (hm : m.nextRow ≠ 0) :
    (r.perform m).reply = Served.refusal ↔ r.asks = true ∧ 0xFFFFFF < m.nextRow.toNat := by
  rw [← not_le_maxRow_iff]
  constructor
  · intro h
    obtain ⟨-, ho⟩ | ⟨hr, hrow, -⟩ | ⟨-, -, ho⟩ := r.perform_cases m hm
    · exact absurd h ho.reply_ne_refusal
    · exact ⟨hr, hrow⟩
    · exact absurd h ho.reply_ne_refusal
  · rintro ⟨hr, hrow⟩
    rw [perform_of_exhausted hm hrow hr]

theorem isSome_slot?_iff (m : Module) (r : Request) (hm : m.nextRow ≠ 0) :
    (r.slot? m).isSome = true ↔ r.asks = true ∧ m.nextRow.toNat ≤ 0xFFFFFF := by
  rw [← le_maxRow_iff]
  constructor
  · intro h
    obtain ⟨slot, hslot⟩ := Option.isSome_iff_exists.1 h
    obtain ⟨hr, hrow, -⟩ := slot?_eq_some hm hslot
    exact ⟨hr, hrow⟩
  · rintro ⟨hr, hrow⟩
    rw [slot?_of_row hm hr hrow]
    rfl

/-- A row that comes back is the row that was handed out. -/
theorem slot?_of_reply {m : Module} {r : Request} {g : Grant} (hm : m.nextRow ≠ 0) (h : (r.perform m).reply = .ok g) :
    g.slot? = r.slot? m := by
  obtain ⟨hr, ho⟩ | ⟨-, -, ho⟩ | ⟨hr, hrow, ho⟩ := r.perform_cases m hm
  · rw [ho.slot? g h, slot?_of_not_asks hr]
  · rw [ho] at h
    cases h
  · rw [ho.slot? g h, slot?_of_row hm hr hrow]

end Request

namespace Module

open Request

theorem nextRow_after_ne_zero : ∀ (rs : List Request) {m : Module}, m.nextRow ≠ 0 → (m.after rs).nextRow ≠ 0
  | [], _, hm => hm
  | r :: rs, _, hm => nextRow_after_ne_zero rs (nextRow_perform_ne_zero r hm)

theorem firstRow_after : ∀ (rs : List Request) {m : Module}, m.nextRow ≠ 0 → (m.after rs).firstRow = m.firstRow
  | [], _, _ => rfl
  | r :: rs, m, hm => (firstRow_after rs (nextRow_perform_ne_zero r hm)).trans (firstRow_perform m r hm)

/-- The count of allocated rows never wraps. -/
theorem firstRow_le_nextRow_after : ∀ (rs : List Request) {m : Module}, m.nextRow ≠ 0 → m.firstRow ≤ m.nextRow →
    (m.after rs).firstRow ≤ (m.after rs).nextRow
  | [], _, _, h => h
  | r :: rs, m, hm, h => by
    refine firstRow_le_nextRow_after rs (nextRow_perform_ne_zero r hm) (UInt32.le_iff_toNat_le.2 ?_)
    rw [firstRow_perform m r hm, nextRow_perform m r hm]
    exact Nat.le_add_right_of_le (UInt32.le_iff_toNat_le.1 h)

/-- **The counter tells how many rows were handed out.** -/
theorem nextRow_after : ∀ (rs : List Request) {m : Module}, m.nextRow ≠ 0 →
    (m.after rs).nextRow.toNat = m.nextRow.toNat + (m.granted rs).length
  | [], _, _ => rfl
  | r :: rs, m, hm => by
    have hlength : (((r.slot? m).map (fun slot => (r, slot))).toList).length = (r.slot? m).toList.length := by
      cases r.slot? m <;> rfl
    rw [after, granted, nextRow_after rs (nextRow_perform_ne_zero r hm), nextRow_perform m r hm, List.length_append,
      hlength, Nat.add_assoc]

/-- **Rows are handed out one behind the other.** -/
theorem rows_granted : ∀ (rs : List Request) {m : Module}, m.nextRow ≠ 0 →
    (m.granted rs).map (·.2.row.toNat) = List.range' m.nextRow.toNat (m.granted rs).length
  | [], _, _ => rfl
  | r :: rs, m, hm => by
    have hrest := rows_granted rs (nextRow_perform_ne_zero r hm)
    rw [nextRow_perform m r hm] at hrest
    rw [granted]
    cases hslot : r.slot? m with
    | none =>
      rw [hslot] at hrest
      exact hrest
    | some slot =>
      obtain ⟨-, -, hrow⟩ := slot?_eq_some hm hslot
      rw [hslot] at hrest
      simp only [Option.map_some, Option.toList_some, List.singleton_append, List.map_cons, List.length_cons,
        List.range'_succ]
      rw [hrest, hrow]
      rfl

theorem granted_row_le : ∀ (rs : List Request) {m : Module}, m.nextRow ≠ 0 →
    ∀ g ∈ m.granted rs, g.2.row ≤ maxRow
  | [], _, _, _, h => by cases h
  | r :: rs, m, hm, g, h => by
    rw [granted] at h
    rcases List.mem_append.1 h with h | h
    · obtain ⟨slot, hslot, rfl⟩ := Option.map_eq_some_iff.1 (Option.mem_toList.1 h)
      obtain ⟨-, hrow, rfl⟩ := slot?_eq_some hm hslot
      exact hrow
    · exact granted_row_le rs (nextRow_perform_ne_zero r hm) g h

/-- **Used up for good**: the counter stays, and whoever asks is refused. -/
theorem after_of_exhausted : ∀ (rs : List Request) {m : Module}, m.nextRow ≠ 0 → ¬ m.nextRow ≤ maxRow →
    (m.after rs).nextRow = m.nextRow
  | [], _, _, _ => rfl
  | r :: rs, m, hm, hrow => by
    have hstep : (r.perform m).module.nextRow = m.nextRow := by
      obtain ⟨-, ho⟩ | ⟨-, -, ho⟩ | ⟨-, hle, -⟩ := r.perform_cases m hm
      · exact ho.nextRow
      · rw [ho]
      · exact absurd hle hrow
    rw [after, after_of_exhausted rs (nextRow_perform_ne_zero r hm) (by rw [hstep]; exact hrow), hstep]

theorem new_eq_ok {generation firstRow : UInt32} {m : Module} (h : Module.new generation firstRow = .ok m) :
    m.nextRow ≠ 0 ∧ m.nextRow = firstRow ∧ m.firstRow = firstRow ∧ m.recorded = #[] := by
  obtain ⟨hfirst, rfl⟩ := eq_of_new h
  exact ⟨hfirst, rfl, rfl, rfl⟩

/-- **Rows are handed out once, one behind the other, and none that a token cannot hold.** -/
theorem rows_of_requests (generation firstRow : UInt32) (start : Module)
    (hstart : Module.new generation firstRow = .ok start) (requests : List Request) :
    let m := start.after requests
    let slots := (start.granted requests).map (·.2)
    -- the rows, and the count of them
    slots.map (·.row.toNat) = List.range' firstRow.toNat slots.length ∧
    m.firstRow.toNat ≤ m.nextRow.toNat ∧ m.allocated.toNat = slots.length ∧
    -- the next request, whichever it is
    (∀ r : Request,
      ((r.perform m).reply = Served.refusal ↔ r.asks = true ∧ 0xFFFFFF < firstRow.toNat + slots.length) ∧
      ((r.slot? m).isSome = true ↔ r.asks = true ∧ firstRow.toNat + slots.length ≤ 0xFFFFFF) ∧
      (∀ g, (r.perform m).reply = .ok g → g.slot? = r.slot? m) ∧
      (r.perform m).module.nextRow.toNat = m.nextRow.toNat + (r.slot? m).toList.length) ∧
    -- behind the first refusal
    (∀ (r : Request) (more : List Request), (r.perform m).reply = Served.refusal →
      r.perform m = ⟨m, Served.refusal⟩ ∧ (m.after more).nextRow = m.nextRow ∧
      ∀ r' : Request, r'.asks = true → (r'.perform (m.after more)).reply = Served.refusal) ∧
    -- the tokens
    (∀ slot ∈ slots, 1 ≤ slot.row.toNat ∧ slot.row.toNat ≤ 0xFFFFFF ∧
      ∃ token, slot.token = .ok token ∧ token.isNil = false ∧ token.table? = some .standAloneSig ∧
        token.row = slot.row) ∧
    (slots.map (·.token)).Nodup := by
  obtain ⟨hm, hnext, hfirst, -⟩ := new_eq_ok hstart
  intro m slots
  have hm' : m.nextRow ≠ 0 := nextRow_after_ne_zero requests hm
  have hlength : slots.length = (start.granted requests).length := List.length_map _
  have hcount : m.nextRow.toNat = firstRow.toNat + slots.length := by
    rw [hlength, ← hnext]
    exact nextRow_after requests hm
  have hfirst' : m.firstRow = firstRow := (firstRow_after requests hm).trans hfirst
  have hrows : slots.map (·.row.toNat) = List.range' firstRow.toNat slots.length := by
    rw [hlength, ← hnext, ← rows_granted requests hm, List.map_map]
    rfl
  have hle : ∀ slot ∈ slots, slot.row ≤ maxRow := by
    intro slot hslot
    obtain ⟨g, hg, rfl⟩ := List.mem_map.1 hslot
    exact granted_row_le requests hm g hg
  have hnodup : (slots.map (·.row.toNat)).Nodup := by
    rw [hrows]
    exact List.nodup_range'
  have hfirst_le : m.firstRow ≤ m.nextRow :=
    firstRow_le_nextRow_after requests hm (by rw [hnext, hfirst]; exact UInt32.le_refl _)
  refine ⟨hrows, UInt32.le_iff_toNat_le.1 hfirst_le, ?_, ?_, ?_, ?_, ?_⟩
  · rw [allocated, UInt32.toNat_sub_of_le _ _ hfirst_le, hcount, hfirst']
    exact Nat.add_sub_cancel_left _ _
  · intro r
    refine ⟨?_, ?_, fun g hg => slot?_of_reply hm' hg, nextRow_perform m r hm'⟩
    · rw [reply_eq_refusal_iff m r hm', hcount]
    · rw [isSome_slot?_iff m r hm', hcount]
  · intro r more hrefused
    obtain ⟨hr, hover⟩ := (reply_eq_refusal_iff m r hm').1 hrefused
    have hrow : ¬ m.nextRow ≤ maxRow := (not_le_maxRow_iff _).2 hover
    have hmore := after_of_exhausted more hm' hrow
    refine ⟨perform_of_exhausted hm' hrow hr, hmore, fun r' hr' => ?_⟩
    rw [perform_of_exhausted (nextRow_after_ne_zero more hm') (by rw [hmore]; exact hrow) hr']
  · intro slot hslot
    have hpos : slot.row.toNat ≠ 0 := fun h => slot.row_ne_zero (UInt32.toNat_inj.1 h)
    exact ⟨Nat.one_le_iff_ne_zero.2 hpos, (le_maxRow_iff _).1 (hle slot hslot), Slot.exists_token (hle slot hslot)⟩
  · refine List.pairwise_map.2 ((List.pairwise_map.1 hnodup).imp_of_mem ?_)
    intro a b ha hb hne htoken
    exact hne (congrArg UInt32.toNat (Slot.row_eq_of_token_eq (hle a ha) (hle b hb) htoken))

/-- The last row, then none: the thunk of the second request is appended up to its mark, and a fault in the third comes
before it asks. -/
theorem rows_of_requests_last_row :
    let last : Request := .lower { verify := false } ⟨1, none, "CallIndirect", 1, true⟩
    let unfinished : Request := .emitThunk { optimization := .debug } ⟨2, none, "Other", 0, false⟩ true
    let full : Buffer := { optimization := .debug, depth := 2147483647 }
    let faulty : Request := .emitThunk full ⟨3, none, "Other", 1, true⟩ false
    ∃ start, Module.new 0 0xFFFFFF = .ok start ∧
      (start.granted [last, unfinished, faulty, .allocate]).map (·.2.row) = [0xFFFFFF] ∧
      (start.after [last]).allocated.toNat = 1 ∧
      (Request.perform (start.after [last]) .allocate).reply = Served.refusal := by
  intro last unfinished full faulty
  obtain ⟨-, -, hcount, hnext, -⟩ := rows_of_requests 0 0xFFFFFF _ rfl [last]
  exact ⟨_, rfl, rfl, hcount, (hnext .allocate).1.2 ⟨rfl, by decide⟩⟩

end Module
end CilThunk
