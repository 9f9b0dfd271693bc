import CilThunk.Proofs.Settings.Fields
import CilThunk.Proofs.Toml.DistinctKeys
import CilThunk.Module
/-!
# Overlay — settings given by a document

The keys of a document are distinct, so no field is set twice: what the document gives stands, what it does not give is
as it was before, and the order of the keys makes no difference (`setAll_eq_ok_iff`).  It only decides which offence is
told: the first (`setAll_eq_error_iff`).  That order is the one of the entries that the document is read as: the keys as
its lines first give them, but a table that other headings have implied where its own heading is (`Toml.keys_openTable`).
The row that signatures start at is asked for when all keys are set, so that a zero is told of only where no key is an
offence (`parse_of_document`).
-/
namespace CilThunk
namespace Settings

/-- What a document gives stands in the settings, and the rest of them is as in the base. -/
structure Overlay (entries : Toml.Entries) (base s : Settings) : Prop where
  given : ∀ (f : Field) (v : Toml.Value), (f.name, v) ∈ entries → f.Means v (f.get s)
  absent : ∀ f : Field, f.name ∉ Toml.keys entries → f.get s = f.get base

/-- The first key that does not fit, and what is to be said against it.  First is in the order of the entries: a table
that was implied before it had a heading stands where that heading does. -/
def FirstOffence (entries : Toml.Entries) (e : SettingsError) : Prop :=
  ∃ before name v after, entries = before ++ (name, v) :: after ∧ (∀ x ∈ before, Fits x) ∧ Offends name v e

theorem Fits.not_offends {name : String} {v : Toml.Value} (h : Fits (name, v)) (e : SettingsError) :
    ¬ Offends name v e := by
  intro hoffends
  obtain ⟨f, x, hname, hmeans⟩ := h
  have hset : set {} name v = .ok (f.put {} x) := set_eq_ok_iff.2 ⟨f, x, hname, hmeans, rfl⟩
  rw [set_eq_error_iff.2 hoffends] at hset
  cases hset

/-! ## Overlays -/

namespace Overlay

theorem nil_iff {base s : Settings} : Overlay [] base s ↔ s = base := by
  refine ⟨fun h => Field.ext_get fun f => h.absent f List.not_mem_nil, ?_⟩
  rintro rfl
  exact ⟨nofun, fun _ _ => rfl⟩

/-- A key in front sets its field, and no key behind it sets that field again. -/
theorem cons_iff {f : Field} {v : Toml.Value} {x : f.Content} (hmeans : f.Means v x) {rest : Toml.Entries}
    (hrest : f.name ∉ Toml.keys rest) {base s : Settings} :
    Overlay ((f.name, v) :: rest) base s ↔ Overlay rest (f.put base x) s := by
  constructor
  · intro h
    refine ⟨fun g w hw => h.given g w (List.mem_cons_of_mem _ hw), fun g hg => ?_⟩
    by_cases hgf : g = f
    · subst hgf
      rw [Field.get_put_self]
      exact (h.given g v List.mem_cons_self).unique hmeans
    · rw [Field.get_put_of_ne base hgf]
      exact h.absent g (List.not_mem_cons_of_ne_of_not_mem (fun heq => hgf (Field.name_injective heq)) hg)
  · intro h
    constructor
    · intro g w hw
      obtain heq | hw := List.mem_cons.1 hw
      · obtain ⟨hname, rfl⟩ := Prod.mk.inj heq
        cases Field.name_injective hname
        rw [h.absent f hrest, Field.get_put_self]
        exact hmeans
      · exact h.given g w hw
    · intro g hg
      obtain ⟨hne, hg⟩ := List.ne_and_not_mem_of_not_mem_cons hg
      rw [h.absent g hg, Field.get_put_of_ne base (fun heq => hne (congrArg Field.name heq))]

/-- Signatures start at row zero only if the document says so. -/
theorem firstSlot_eq_zero_iff {entries : Toml.Entries} {s : Settings} (h : Overlay entries {} s) :
    s.firstSlot = 0 ↔ (Field.firstSlot.name, .integer 0) ∈ entries := by
  constructor
  · intro hzero
    by_cases hkey : Field.firstSlot.name ∈ Toml.keys entries
    · obtain ⟨v, hv⟩ := Toml.mem_keys.1 hkey
      have hmeans : v = .integer s.firstSlot.toNat := h.given .firstSlot v hv
      rw [hzero] at hmeans
      rwa [hmeans] at hv
    · have hdefault : s.firstSlot = 1 := h.absent .firstSlot hkey
      rw [hzero] at hdefault
      exact absurd hdefault (by decide)
  · intro hmem
    have hmeans : Toml.Value.integer 0 = .integer s.firstSlot.toNat := h.given .firstSlot _ hmem
    have hrow : (0 : Int) = s.firstSlot.toNat := Toml.Value.integer.inj hmeans
    exact UInt32.toNat_inj.1 (by simpa using hrow.symm)

end Overlay

/-! ## All keys -/

/-- **The settings that distinct keys give** are the overlay of what they mean, if they all fit. -/
theorem setAll_eq_ok_iff {entries : Toml.Entries} (hdistinct : Toml.Distinct entries) {base s : Settings} :
    base.setAll entries = .ok s ↔ (∀ e ∈ entries, Fits e) ∧ Overlay entries base s := by
  -- Any base, since the settings in front of the second key are those that the first has left.
  induction entries generalizing base with
  | nil => simp [setAll, Overlay.nil_iff, eq_comm]
  | cons e rest ih =>
    obtain ⟨name, v⟩ := e
    obtain ⟨hname, hrest⟩ := List.nodup_cons.1 hdistinct
    rw [setAll, List.forall_mem_cons]
    constructor
    · intro h
      split at h
      · cases h
      · rename_i s₁ hset
        obtain ⟨f, x, rfl, hmeans, rfl⟩ := set_eq_ok_iff.1 hset
        obtain ⟨hfits, hoverlay⟩ := (ih hrest).1 h
        exact ⟨⟨⟨f, x, rfl, hmeans⟩, hfits⟩, (Overlay.cons_iff hmeans hname).2 hoverlay⟩
    · rintro ⟨⟨⟨f, x, rfl, hmeans⟩, hfits⟩, hoverlay⟩
      rw [set_eq_ok_iff.2 ⟨f, x, rfl, hmeans, rfl⟩]
      exact (ih hrest).2 ⟨hfits, (Overlay.cons_iff hmeans hname).1 hoverlay⟩

/-- **The first offence is told**, whatever the settings were. -/
theorem setAll_eq_error_iff {entries : Toml.Entries} {base : Settings} {e : SettingsError} :
    base.setAll entries = .error e ↔ FirstOffence entries e := by
  induction entries generalizing base with
  | nil =>
    refine ⟨nofun, ?_⟩
    rintro ⟨before, name, v, after, hsplit, -⟩
    cases before <;> cases hsplit
  | cons x rest ih =>
    obtain ⟨name, v⟩ := x
    rw [setAll]
    constructor
    · intro h
      split at h
      · rename_i e' hset
        cases h
        exact ⟨[], name, v, rest, rfl, nofun, set_eq_error_iff.1 hset⟩
      · rename_i s hset
        obtain ⟨f, x, hname, hmeans, -⟩ := set_eq_ok_iff.1 hset
        obtain ⟨before, name', v', after, rfl, hbefore, hoffends⟩ := ih.1 h
        exact ⟨(name, v) :: before, name', v', after, rfl, List.forall_mem_cons.2 ⟨⟨f, x, hname, hmeans⟩, hbefore⟩,
          hoffends⟩
    · rintro ⟨before, name', v', after, hsplit, hbefore, hoffends⟩
      cases before with
      | nil =>
        cases hsplit
        rw [set_eq_error_iff.2 hoffends]
      | cons y before =>
        cases hsplit
        obtain ⟨⟨f, x, hname, hmeans⟩, hbefore⟩ := List.forall_mem_cons.1 hbefore
        rw [set_eq_ok_iff.2 ⟨f, x, hname, hmeans, rfl⟩]
        exact ih.2 ⟨before, name', v', after, rfl, hbefore, hoffends⟩

theorem exists_setAll_iff {entries : Toml.Entries} (hdistinct : Toml.Distinct entries) (base : Settings) :
    (∃ s, base.setAll entries = .ok s) ↔ ∀ e ∈ entries, Fits e := by
  refine ⟨fun ⟨s, hs⟩ => ((setAll_eq_ok_iff hdistinct).1 hs).1, fun hfits => ?_⟩
  cases hall : base.setAll entries with
  | ok s => exact ⟨s, rfl⟩
  | error e =>
    obtain ⟨before, name, v, after, rfl, -, hoffends⟩ := setAll_eq_error_iff.1 hall
    exact absurd hoffends ((hfits (name, v) (by simp)).not_offends e)

/-! ## Documents -/

theorem parse_eq_ofEntries {text : String} {entries : Toml.Entries} (h : Toml.parse text = some entries) :
    parse text = ofEntries entries := by
  unfold parse
  rw [h]

theorem ofEntries_eq_ok_iff {entries : Toml.Entries} {s : Settings} :
    ofEntries entries = .ok s ↔ setAll {} entries = .ok s ∧ s.firstSlot ≠ 0 := by
  unfold ofEntries
  cases setAll {} entries with
  | error e => simp
  | ok s₁ =>
    simp only [Except.ok.injEq]
    constructor
    · intro h
      split at h
      · cases h
      · rename_i hrow
        cases h
        exact ⟨rfl, hrow⟩
    · rintro ⟨rfl, hrow⟩
      exact if_neg hrow

theorem ofEntries_eq_error_iff {entries : Toml.Entries} {e : SettingsError} :
    ofEntries entries = .error e ↔
      setAll {} entries = .error e ∨ ∃ s, setAll {} entries = .ok s ∧ s.firstSlot = 0 ∧ e = .zeroFirstSlot := by
  unfold ofEntries
  cases setAll {} entries with
  | error e' => simp
  | ok s₁ =>
    simp only [Except.ok.injEq, reduceCtorEq, false_or]
    constructor
    · intro h
      split at h
      · rename_i hrow
        cases h
        exact ⟨s₁, rfl, hrow, rfl⟩
      · cases h
    · rintro ⟨_, rfl, hrow, rfl⟩
      exact if_pos hrow

/-- **Accepted settings** are the overlay of a document whose keys all fit and do not ask for row zero. -/
theorem parse_eq_ok_iff {text : String} {entries : Toml.Entries} (h : Toml.parse text = some entries) {s : Settings} :
    parse text = .ok s ↔
      (∀ e ∈ entries, Fits e) ∧ Overlay entries {} s ∧ (Field.firstSlot.name, .integer 0) ∉ entries := by
  rw [parse_eq_ofEntries h, ofEntries_eq_ok_iff, setAll_eq_ok_iff (Toml.distinct_of_parse h), and_assoc]
  refine and_congr_right fun _ => and_congr_right fun hoverlay => ?_
  exact not_congr hoverlay.firstSlot_eq_zero_iff

/-- **What is told of a refused document**: its first offence, or that it asks for row zero. -/
theorem parse_eq_error_iff {text : String} {entries : Toml.Entries} (h : Toml.parse text = some entries)
    {e : SettingsError} :
    parse text = .error e ↔ FirstOffence entries e ∨
      (∀ x ∈ entries, Fits x) ∧ (Field.firstSlot.name, .integer 0) ∈ entries ∧ e = .zeroFirstSlot := by
  rw [parse_eq_ofEntries h, ofEntries_eq_error_iff, setAll_eq_error_iff]
  refine or_congr_right ⟨?_, ?_⟩
  · rintro ⟨s, hs, hzero, rfl⟩
    obtain ⟨hfits, hoverlay⟩ := (setAll_eq_ok_iff (Toml.distinct_of_parse h)).1 hs
    exact ⟨hfits, hoverlay.firstSlot_eq_zero_iff.1 hzero, rfl⟩
  · rintro ⟨hfits, hrow, rfl⟩
    obtain ⟨s, hs⟩ := (exists_setAll_iff (Toml.distinct_of_parse h) {}).2 hfits
    obtain ⟨-, hoverlay⟩ := (setAll_eq_ok_iff (Toml.distinct_of_parse h)).1 hs
    exact ⟨s, hs, hoverlay.firstSlot_eq_zero_iff.2 hrow, rfl⟩

end Settings
end CilThunk
