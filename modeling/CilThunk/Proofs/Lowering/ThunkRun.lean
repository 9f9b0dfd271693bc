import CilThunk.Proofs.Body.StoreOrder
import CilThunk.Proofs.Lowering.RowCounter
import CilThunk.Proofs.Lowering.Session
/-!
# ThunkRun — a run with rows to spare

As long as there are rows, a run of lowerings leaves what its declarations alone decide: each intrinsic has a thunk in
the store and a signature in the table, by rows one behind the other, and ordinary methods leave nothing
(`lowerEach_of_rows`).  In a fresh module with an owner to each thunk the table and the store have exactly these
(`leftBy_lowerEach`), so what is in them can be told without going through the run again.
-/
namespace CilThunk

/-- How many more rows there are to hand out. -/
def Module.rowsLeft (m : Module) : Nat := 0x1000000 - m.nextRow.toNat

namespace Lowering

def intrinsics (ds : List Declaration) : List Declaration := ds.filter (·.kind.isIntrinsic)

theorem intrinsics_cons_of_pos {d : Declaration} (ds : List Declaration) (h : d.kind.isIntrinsic = true) :
    intrinsics (d :: ds) = d :: intrinsics ds := List.filter_cons_of_pos h

theorem intrinsics_cons_of_neg {d : Declaration} (ds : List Declaration) (h : d.kind.isIntrinsic = false) :
    intrinsics (d :: ds) = intrinsics ds := List.filter_cons_of_neg (by rw [h]; exact Bool.false_ne_true)

/-- A module after intrinsics were lowered, each at its row. -/
def loweredAll (m : Module) (ts : List (Declaration × Slot)) : Module := ts.foldl (fun m t => lowered m t.1 t.2) m

theorem loweredAll_cons (m : Module) (t : Declaration × Slot) (ts : List (Declaration × Slot)) :
    loweredAll m (t :: ts) = loweredAll (lowered m t.1 t.2) ts := rfl

theorem recorded_loweredAll (m : Module) (ts : List (Declaration × Slot)) :
    (loweredAll m ts).recorded.toList = m.recorded.toList ++ ts.map (fun t => signature t.1 t.2) := by
  induction ts generalizing m with
  | nil => exact (List.append_nil _).symm
  | cons t ts ih =>
    rw [loweredAll_cons, ih, lowered, Array.toList_push, List.append_assoc]
    rfl

theorem bodies_loweredAll (m : Module) (ts : List (Declaration × Slot)) :
    (loweredAll m ts).bodies =
      m.bodies.insertAll (ts.map (fun t => (t.1.owner, thunk t.1 m.generation t.2))) := by
  induction ts generalizing m with
  | nil => rfl
  | cons t ts ih =>
    rw [loweredAll_cons, ih]
    rfl

/-! ## The run -/

theorem nextRow_lowered {m : Module} (d : Declaration) (slot : Slot) (hrow : m.nextRow ≤ maxRow) :
    (lowered m d slot).nextRow.toNat = m.nextRow.toNat + 1 := Request.toNat_nextRow_succ hrow

theorem nextRow_lowered_ne_zero {m : Module} (d : Declaration) (slot : Slot) (hrow : m.nextRow ≤ maxRow) :
    (lowered m d slot).nextRow ≠ 0 := by
  intro h
  have hnext := nextRow_lowered d slot hrow
  rw [h] at hnext
  cases hnext

theorem rowsLeft_lowered {m : Module} (d : Declaration) (slot : Slot) (hrow : m.nextRow ≤ maxRow) :
    m.rowsLeft = (lowered m d slot).rowsLeft + 1 := by
  have hle := (le_maxRow_iff _).1 hrow
  unfold Module.rowsLeft
  rw [nextRow_lowered d slot hrow]
  omega

theorem rowsLeft_pos_iff (m : Module) : 0 < m.rowsLeft ↔ m.nextRow ≤ maxRow := by
  rw [le_maxRow_iff, Module.rowsLeft]
  omega

/-- **What a run leaves while there are rows.** -/
theorem lowerEach_of_rows : ∀ (steps : List (Settings × Declaration)) {m : Module}, m.nextRow ≠ 0 →
    (intrinsics (steps.map (·.2))).length ≤ m.rowsLeft →
    ∃ slots : List Slot,
      slots.map (·.row.toNat) = List.range' m.nextRow.toNat (intrinsics (steps.map (·.2))).length ∧
      (lowerEach m steps).1 = loweredAll m ((intrinsics (steps.map (·.2))).zip slots) ∧
      ∀ r ∈ (lowerEach m steps).2, ∃ body?, r.2 = .ok body? ∧ body?.isSome = r.1.kind.isIntrinsic
  | [], m, _, _ => ⟨[], rfl, rfl, nofun⟩
  | (s, d) :: steps, m, hm, hrows => by
    -- an ordinary method takes neither a row nor one of those that are left; an intrinsic takes one of both
    rw [List.map_cons] at hrows ⊢
    rw [lowerEach]
    obtain ⟨hd, hmod, hres⟩ | ⟨hd, hrow, -, -⟩ | ⟨hd, hrow, hmod, hres⟩ := lower_cases m s d hm
    · rw [intrinsics_cons_of_neg _ hd] at hrows ⊢
      obtain ⟨slots, hslots, hmodule, hresults⟩ := lowerEach_of_rows steps hm hrows
      simp only [hmod, hres]
      exact ⟨slots, hslots, hmodule, List.forall_mem_cons.2 ⟨⟨none, rfl, hd.symm⟩, hresults⟩⟩
    · rw [intrinsics_cons_of_pos _ hd, List.length_cons] at hrows
      exact absurd ((rowsLeft_pos_iff m).1 (Nat.zero_lt_of_lt hrows)) hrow
    · rw [intrinsics_cons_of_pos _ hd, List.length_cons] at hrows ⊢
      rw [rowsLeft_lowered d ⟨m.nextRow, hm⟩ hrow] at hrows
      obtain ⟨slots, hslots, hmodule, hresults⟩ :=
        lowerEach_of_rows steps (nextRow_lowered_ne_zero d ⟨m.nextRow, hm⟩ hrow) (Nat.le_of_succ_le_succ hrows)
      rw [nextRow_lowered d _ hrow] at hslots
      simp only [hmod, hres]
      refine ⟨⟨m.nextRow, hm⟩ :: slots, ?_, hmodule, List.forall_mem_cons.2 ⟨⟨_, rfl, hd.symm⟩, hresults⟩⟩
      rw [List.map_cons, hslots, List.range'_succ]

/-- A run says of each declaration what came out, in order. -/
theorem map_fst_lowerEach : ∀ (steps : List (Settings × Declaration)) (m : Module),
    (lowerEach m steps).2.map (·.1) = steps.map (·.2)
  | [], _ => rfl
  | (s, d) :: steps, m => by
    rw [lowerEach, List.map_cons, List.map_cons, map_fst_lowerEach steps]

theorem length_slots {slots : List Slot} {first count : Nat}
    (h : slots.map (·.row.toNat) = List.range' first count) : slots.length = count := by
  rw [← List.length_map (·.row.toNat), h, List.length_range']

/-- Rows before the end of the table have tokens. -/
theorem slot_row_le {slots : List Slot} {m : Module} {count : Nat}
    (h : slots.map (·.row.toNat) = List.range' m.nextRow.toNat count) (hcount : count ≤ m.rowsLeft) :
    ∀ slot ∈ slots, slot.row ≤ maxRow := by
  intro slot hslot
  have hmem : slot.row.toNat ∈ List.range' m.nextRow.toNat count := h ▸ List.mem_map_of_mem hslot
  have hrange := List.mem_range'_1.1 hmem
  unfold Module.rowsLeft at hcount
  rw [le_maxRow_iff]
  omega

/-! ## The store of a fresh module -/

/-- Each thunk of a run with the row of its owner. -/
def owned (generation : UInt32) (ts : List (Declaration × Slot)) : List (UInt32 × MethodBody) :=
  ts.map (fun t => (t.1.owner, thunk t.1 generation t.2))

theorem map_fst_owned (generation : UInt32) (ts : List (Declaration × Slot)) :
    (owned generation ts).map (·.1) = ts.map (·.1.owner) := by
  rw [owned, List.map_map]
  rfl

/-- **A run with an owner to each thunk leaves just its thunks.** -/
theorem perm_entries_loweredAll {m : Module} {ts : List (Declaration × Slot)} (hempty : m.bodies = {})
    (howners : (ts.map (·.1.owner)).Nodup) :
    (loweredAll m ts).bodies.Ordered ∧ (loweredAll m ts).bodies.entries.Perm (owned m.generation ts) := by
  rw [bodies_loweredAll, hempty]
  refine ⟨BodyStore.Ordered.insertAll _ BodyStore.ordered_empty, ?_⟩
  refine BodyStore.perm_insertAll (s := {}) (owned m.generation ts) ?_ nofun
  rw [map_fst_owned]
  exact howners

/-- What thunks leave in a fresh module: their signatures in order, and each its body under its owner. -/
structure LeftBy (generation : UInt32) (ts : List (Declaration × Slot)) (m : Module) : Prop where
  signatures : m.signatures = ts.map (fun t => signature t.1 t.2)
  ordered : m.bodies.Ordered
  entries : m.bodies.entries.Perm (owned generation ts)

theorem LeftBy.get?_owner {generation : UInt32} {ts : List (Declaration × Slot)} {m : Module}
    (h : LeftBy generation ts m) {t : Declaration × Slot} (ht : t ∈ ts) :
    m.bodies.get? t.1.owner = some (thunk t.1 generation t.2) :=
  h.ordered.get?_eq_some (h.entries.mem_iff.2 (List.mem_map_of_mem ht))

/-- The bodies are listed under their owners, in the order of these. -/
theorem LeftBy.parents {generation : UInt32} {ts : List (Declaration × Slot)} {m : Module} (h : LeftBy generation ts m) :
    (m.bodies.bodies.map (·.parent)).Pairwise (· < ·) ∧ (m.bodies.bodies.map (·.parent)).Perm (ts.map (·.1.owner)) := by
  have hparent : ∀ e ∈ m.bodies.entries, e.2.parent = e.1 := by
    intro e he
    obtain ⟨t, -, rfl⟩ := List.mem_map.1 (h.entries.mem_iff.1 he)
    rfl
  have hkeys : m.bodies.bodies.map (·.parent) = m.bodies.entries.map (·.1) := by
    rw [BodyStore.bodies, List.map_map]
    exact List.map_congr_left hparent
  rw [hkeys]
  refine ⟨List.pairwise_map.2 h.ordered, ?_⟩
  rw [← map_fst_owned generation ts]
  exact h.entries.map _

/-- Thunks in the order of their owners are listed as they came. -/
theorem LeftBy.bodies_eq {generation : UInt32} {ts : List (Declaration × Slot)} {m : Module}
    (h : LeftBy generation ts m) (hsorted : (ts.map (·.1.owner)).Pairwise (· < ·)) :
    m.bodies.bodies = ts.map (fun t => thunk t.1 generation t.2) := by
  rw [← map_fst_owned generation ts] at hsorted
  have hentries := BodyStore.eq_of_perm_of_increasing Prod.fst h.ordered (List.pairwise_map.1 hsorted) h.entries
  rw [BodyStore.bodies, hentries, owned, List.map_map]
  rfl

theorem map_owner_zip {ds : List Declaration} {slots : List Slot} {first : Nat}
    (hslots : slots.map (·.row.toNat) = List.range' first ds.length) :
    (ds.zip slots).map (·.1.owner) = ds.map (·.owner) := by
  have hfst : (ds.zip slots).map (·.1) = ds := List.map_fst_zip (Nat.le_of_eq (length_slots hslots).symm)
  have howner := congrArg (List.map (·.owner)) hfst
  rw [List.map_map] at howner
  exact howner

/-- **What a run leaves in a fresh module** with rows for all its intrinsics, each with an owner of its own. -/
theorem leftBy_lowerEach {generation firstRow : UInt32} {start : Module}
    (hstart : Module.new generation firstRow = .ok start) (steps : List (Settings × Declaration))
    (howners : ((intrinsics (steps.map (·.2))).map (·.owner)).Nodup)
    (hrows : (intrinsics (steps.map (·.2))).length ≤ 0x1000000 - firstRow.toNat) :
    ∃ slots : List Slot,
      slots.map (·.row.toNat) = List.range' firstRow.toNat (intrinsics (steps.map (·.2))).length ∧
      (∀ slot ∈ slots, slot.row ≤ maxRow) ∧
      LeftBy generation ((intrinsics (steps.map (·.2))).zip slots) (lowerEach start steps).1 ∧
      ∀ r ∈ (lowerEach start steps).2, ∃ body?, r.2 = .ok body? ∧ body?.isSome = r.1.kind.isIntrinsic := by
  have hsignatures := (contiguous_lowerEach steps (Module.contiguous_new hstart)).signatures_eq
  obtain ⟨hfirst, rfl⟩ := Module.eq_of_new hstart
  let start : Module := { generation := generation, firstRow := firstRow, nextRow := firstRow }
  obtain ⟨slots, hslots, hmodule, hresults⟩ := lowerEach_of_rows steps (m := start) hfirst hrows
  refine ⟨slots, hslots, slot_row_le (m := start) hslots hrows, ?_, hresults⟩
  rw [← map_owner_zip hslots] at howners
  obtain ⟨hordered, hentries⟩ := perm_entries_loweredAll (m := start) rfl howners
  rw [hmodule] at hsignatures ⊢
  exact ⟨hsignatures.trans (recorded_loweredAll _ _), hordered, hentries⟩

end Lowering
end CilThunk
