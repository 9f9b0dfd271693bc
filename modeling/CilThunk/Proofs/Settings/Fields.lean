import CilThunk.Settings.Document
import Mathlib
/-!
# Fields — what a key and its value do to the settings

A document knows six fields, and a value fits a field if it means something there (`Field.Means`); else there is one
thing to be said against it (`Field.Refuses`).  A key with its value either sets the one field it names to what the value
means or is an offence, whatever the settings were before (`set_eq_ok_iff`, `set_eq_error_iff`).
-/
namespace CilThunk
namespace Settings

/-! ## Values -/

theorem u32Of_eq_ok_iff {v : Toml.Value} {x : UInt32} : u32Of v = .ok x ↔ v = .integer x.toNat := by
  constructor
  · intro h
    unfold u32Of at h
    split at h
    · split at h
      · rename_i i hrange
        cases h
        have hsmall : i.toNat < 4294967296 := by omega
        rw [UInt32.toNat_ofNat_of_lt' hsmall, Int.toNat_of_nonneg hrange.1]
      · cases h
    · cases h
  · rintro rfl
    have hsmall := x.toNat_lt
    have hrange : (0 : Int) ≤ x.toNat ∧ (x.toNat : Int) ≤ 4294967295 := by omega
    simp only [u32Of, if_pos hrange, Int.toNat_natCast, UInt32.ofNat_toNat]

/-- What is to be said against a value where a number of 32 bits is to be. -/
inductive NumberRefused : Toml.Value → SettingsError → Prop
  | outOfRange {i : Int} (h : i < 0 ∨ 4294967295 < i) : NumberRefused (.integer i) (.invalidValue i .u32)
  | otherType {v : Toml.Value} (h : ∀ i, v ≠ .integer i) : NumberRefused v (.invalidType (describe v) .u32)

theorem u32Of_eq_error_iff {v : Toml.Value} {e : SettingsError} : u32Of v = .error e ↔ NumberRefused v e := by
  constructor
  · intro h
    unfold u32Of at h
    split at h
    · split at h
      · cases h
      · cases h
        exact .outOfRange (by omega)
    · rename_i hother
      cases h
      exact .otherType hother
  · rintro (hrange | hother)
    · exact if_neg (by omega)
    · unfold u32Of
      split
      · exact absurd rfl (hother _)
      · rfl

theorem boolOf_eq_ok_iff {v : Toml.Value} {x : Bool} : boolOf v = .ok x ↔ v = .boolean x := by
  constructor
  · intro h
    unfold boolOf at h
    split at h <;> cases h
    rfl
  · rintro rfl
    rfl

/-- What is to be said against a value where `true` or `false` is to be. -/
inductive FlagRefused : Toml.Value → SettingsError → Prop
  | otherType {v : Toml.Value} (h : ∀ b, v ≠ .boolean b) : FlagRefused v (.invalidType (describe v) .boolean)

theorem boolOf_eq_error_iff {v : Toml.Value} {e : SettingsError} : boolOf v = .error e ↔ FlagRefused v e := by
  constructor
  · intro h
    unfold boolOf at h
    split at h
    · cases h
    · rename_i hother
      cases h
      exact .otherType hother
  · rintro ⟨hother⟩
    unfold boolOf
    split
    · exact absurd rfl (hother _)
    · rfl

/-! ## Words -/

/-- The ways to give a word: as a string, and as the one key of a table, with nothing in its value. -/
inductive Gives (word : String) : Toml.Value → Prop
  | string : Gives word (.string word)
  | key {origin : Toml.Origin} {v : Toml.Value} (h : isEmpty v = true) : Gives word (.table origin [(word, v)])

/-- What is to be said against a value where one of some words is to be. -/
inductive WordRefused (known : List String) : Toml.Value → SettingsError → Prop
  | unknownString {word : String} (h : word ∉ known) : WordRefused known (.string word) (.unknownWord word known)
  | unknownKey {origin : Toml.Origin} {word : String} {v : Toml.Value} (h : word ∉ known) :
      WordRefused known (.table origin [(word, v)]) (.unknownWord word known)
  | filledKey {origin : Toml.Origin} {word : String} {v : Toml.Value} (h : word ∈ known) (hv : isEmpty v = false) :
      WordRefused known (.table origin [(word, v)]) .malformedWord
  | notOneKey {origin : Toml.Origin} {entries : Toml.Entries} (h : entries.length ≠ 1) :
      WordRefused known (.table origin entries) .malformedWord
  | otherType {v : Toml.Value} (hstring : ∀ s, v ≠ .string s) (htable : ∀ origin entries, v ≠ .table origin entries) :
      WordRefused known v .noWord

section Words

variable {α : Type} {words : List (String × α)}

theorem lookup_eq_ok_iff (hwords : (words.map (·.1)).Nodup) {word : String} {x : α} :
    lookup words word = .ok x ↔ (word, x) ∈ words := by
  unfold lookup
  split
  · rename_i w hfind
    have hmem := List.mem_of_find?_eq_some hfind
    have hname : w.1 = word := by simpa using List.find?_some hfind
    constructor
    · intro h
      cases h
      rwa [← hname]
    · intro h
      rw [List.inj_on_of_nodup_map hwords hmem h hname]
  · rename_i hfind
    refine ⟨nofun, fun h => ?_⟩
    simpa using List.find?_eq_none.1 hfind _ h

theorem lookup_eq_error_iff {word : String} {e : SettingsError} :
    lookup words word = .error e ↔ word ∉ words.map (·.1) ∧ e = .unknownWord word (words.map (·.1)) := by
  unfold lookup
  split
  · rename_i w hfind
    have hname : w.1 = word := by simpa using List.find?_some hfind
    refine ⟨nofun, fun h => absurd ?_ h.1⟩
    rw [← hname]
    exact List.mem_map_of_mem (List.mem_of_find?_eq_some hfind)
  · rename_i hfind
    have hnone : word ∉ words.map (·.1) := by
      intro hmem
      obtain ⟨w, hw, hname⟩ := List.mem_map.1 hmem
      simpa [hname] using List.find?_eq_none.1 hfind w hw
    exact ⟨fun h => ⟨hnone, (Except.error.inj h).symm⟩, fun h => by rw [h.2]⟩

theorem mem_names_of_lookup {word : String} {x : α} (h : lookup words word = .ok x) : word ∈ words.map (·.1) := by
  by_contra hnone
  rw [lookup_eq_error_iff.2 ⟨hnone, rfl⟩] at h
  cases h

theorem wordOf_eq_ok_iff (hwords : (words.map (·.1)).Nodup) {v : Toml.Value} {x : α} :
    wordOf words v = .ok x ↔ ∃ word, (word, x) ∈ words ∧ Gives word v := by
  constructor
  · intro h
    unfold wordOf at h
    split at h
    · rename_i word
      exact ⟨word, (lookup_eq_ok_iff hwords).1 h, .string⟩
    · rename_i origin word v
      split at h
      · cases h
      · rename_i y hlookup
        split at h
        · rename_i hempty
          cases h
          exact ⟨word, (lookup_eq_ok_iff hwords).1 hlookup, .key hempty⟩
        · cases h
    · cases h
    · cases h
  · rintro ⟨word, hmem, hstring | hempty⟩
    · exact (lookup_eq_ok_iff hwords).2 hmem
    · simp only [wordOf, (lookup_eq_ok_iff hwords).2 hmem, if_pos hempty]

theorem wordOf_eq_error_iff {v : Toml.Value} {e : SettingsError} :
    wordOf words v = .error e ↔ WordRefused (words.map (·.1)) v e := by
  constructor
  · intro h
    unfold wordOf at h
    split at h
    · obtain ⟨hnone, rfl⟩ := lookup_eq_error_iff.1 h
      exact .unknownString hnone
    · split at h
      · rename_i hlookup
        cases h
        obtain ⟨hnone, rfl⟩ := lookup_eq_error_iff.1 hlookup
        exact .unknownKey hnone
      · rename_i hlookup
        split at h
        · cases h
        · rename_i hfilled
          cases h
          exact .filledKey (mem_names_of_lookup hlookup) (Bool.eq_false_iff.2 hfilled)
    · rename_i origin entries hone
      cases h
      refine .notOneKey fun hlength => ?_
      obtain ⟨⟨word, v⟩, rfl⟩ := List.length_eq_one_iff.1 hlength
      exact hone _ _ rfl
    · rename_i hstring _ htable
      cases h
      exact .otherType hstring htable
  · intro h
    cases h with
    | unknownString hnone => exact lookup_eq_error_iff.2 ⟨hnone, rfl⟩
    | unknownKey hnone => simp only [wordOf, lookup_eq_error_iff.2 ⟨hnone, rfl⟩]
    | filledKey hmem hv =>
      rename_i origin word v
      cases hlookup : lookup words word with
      | error e => exact absurd hmem (lookup_eq_error_iff.1 hlookup).1
      | ok x => simp [wordOf, hlookup, hv]
    | notOneKey hlength =>
      unfold wordOf
      split
      all_goals simp_all
    | otherType hstring htable =>
      unfold wordOf
      split
      · exact absurd rfl (hstring _)
      · exact absurd rfl (htable _ _)
      · exact absurd rfl (htable _ _)
      · rfl

end Words

/-! ## Fields -/

inductive Field
  | optimization
  | trace
  | generation
  | firstSlot
  | verify
  | format
  deriving DecidableEq, Repr

namespace Field

/-- What a document calls it. -/
def name : Field → String
  | optimization => "optimization"
  | trace => "trace"
  | generation => "generation"
  | firstSlot => "first_signature_slot"
  | verify => "verify"
  | format => "format"

/-- What it holds. -/
def Content : Field → Type
  | optimization => Optimization
  | trace => Bool
  | generation => UInt32
  | firstSlot => UInt32
  | verify => Bool
  | format => Format

def get (s : Settings) : (f : Field) → f.Content
  | optimization => s.optimization
  | trace => s.trace
  | generation => s.generation
  | firstSlot => s.firstSlot
  | verify => s.verify
  | format => s.format

def put (s : Settings) : (f : Field) → f.Content → Settings
  | optimization, x => { s with optimization := x }
  | trace, x => { s with trace := x }
  | generation, x => { s with generation := x }
  | firstSlot, x => { s with firstSlot := x }
  | verify, x => { s with verify := x }
  | format, x => { s with format := x }

/-- What a value means in a field. -/
def Means : (f : Field) → Toml.Value → f.Content → Prop
  | optimization, v, x => ∃ word, (word, x) ∈ optimizations ∧ Gives word v
  | trace, v, x => v = .boolean x
  | generation, v, x => v = .integer (UInt32.toNat x)
  | firstSlot, v, x => v = .integer (UInt32.toNat x)
  | verify, v, x => v = .boolean x
  | format, v, x => ∃ word, (word, x) ∈ formats ∧ Gives word v

/-- What is to be said against a value in a field. -/
def Refuses : Field → Toml.Value → SettingsError → Prop
  | optimization => WordRefused ["release", "debug"]
  | trace => FlagRefused
  | generation => NumberRefused
  | firstSlot => NumberRefused
  | verify => FlagRefused
  | format => WordRefused ["human", "json"]

/-- The value of a field, read. -/
def read : (f : Field) → Toml.Value → Except SettingsError f.Content
  | optimization => wordOf optimizations
  | trace => boolOf
  | generation => u32Of
  | firstSlot => u32Of
  | verify => boolOf
  | format => wordOf formats

theorem read_eq_ok_iff {f : Field} {v : Toml.Value} {x : f.Content} : f.read v = .ok x ↔ f.Means v x := by
  cases f with
  | optimization => exact wordOf_eq_ok_iff (by decide)
  | trace => exact boolOf_eq_ok_iff
  | generation => exact u32Of_eq_ok_iff
  | firstSlot => exact u32Of_eq_ok_iff
  | verify => exact boolOf_eq_ok_iff
  | format => exact wordOf_eq_ok_iff (by decide)

theorem read_eq_error_iff {f : Field} {v : Toml.Value} {e : SettingsError} : f.read v = .error e ↔ f.Refuses v e := by
  cases f with
  | optimization => exact wordOf_eq_error_iff
  | trace => exact boolOf_eq_error_iff
  | generation => exact u32Of_eq_error_iff
  | firstSlot => exact u32Of_eq_error_iff
  | verify => exact boolOf_eq_error_iff
  | format => exact wordOf_eq_error_iff

/-- A value means one thing in a field. -/
theorem Means.unique {f : Field} {v : Toml.Value} {x y : f.Content} (hx : f.Means v x) (hy : f.Means v y) : x = y :=
  Except.ok.inj ((read_eq_ok_iff.2 hx).symm.trans (read_eq_ok_iff.2 hy))

theorem name_injective : Function.Injective name := by
  intro f g h
  cases f <;> cases g <;> first | rfl | exact absurd h (by decide)

theorem get_put_self (s : Settings) (f : Field) (x : f.Content) : f.get (f.put s x) = x := by
  cases f <;> rfl

theorem get_put_of_ne (s : Settings) {f g : Field} (h : g ≠ f) (x : f.Content) : g.get (f.put s x) = g.get s := by
  cases f <;> cases g <;> first | rfl | exact absurd rfl h

/-- Settings are what their fields hold. -/
theorem ext_get {s s' : Settings} (h : ∀ f : Field, f.get s = f.get s') : s = s' := by
  cases s
  cases s'
  congr 1
  · exact h optimization
  · exact h trace
  · exact h generation
  · exact h firstSlot
  · exact h verify
  · exact h format

end Field

/-! ## Entries -/

/-- Whether a key is a field that its value means something in. -/
def Fits (e : String × Toml.Value) : Prop := ∃ (f : Field) (x : f.Content), f.name = e.1 ∧ f.Means e.2 x

/-- What is to be said against a key and its value. -/
inductive Offends : String → Toml.Value → SettingsError → Prop
  | unknown {name : String} {v : Toml.Value} (h : ∀ f : Field, f.name ≠ name) : Offends name v (.unknownField name)
  | refused {f : Field} {v : Toml.Value} {e : SettingsError} (h : f.Refuses v e) : Offends f.name v e

theorem set_name (s : Settings) (f : Field) (v : Toml.Value) : s.set f.name v = (f.read v).map (f.put s) := by
  cases f <;> rfl

theorem set_of_unknown (s : Settings) {name : String} (h : ∀ f : Field, f.name ≠ name) (v : Toml.Value) :
    s.set name v = .error (.unknownField name) := by
  unfold set
  split
  · exact absurd rfl (h .optimization)
  · exact absurd rfl (h .trace)
  · exact absurd rfl (h .generation)
  · exact absurd rfl (h .firstSlot)
  · exact absurd rfl (h .verify)
  · exact absurd rfl (h .format)
  · rfl

theorem field_or_unknown (name : String) : (∃ f : Field, f.name = name) ∨ ∀ f : Field, f.name ≠ name := by
  by_cases h : ∃ f : Field, f.name = name
  · exact .inl h
  · exact .inr (not_exists.1 h)

/-- **A key with a value that fits sets its field** to what the value means. -/
theorem set_eq_ok_iff {s s' : Settings} {name : String} {v : Toml.Value} :
    s.set name v = .ok s' ↔ ∃ (f : Field) (x : f.Content), f.name = name ∧ f.Means v x ∧ s' = f.put s x := by
  constructor
  · intro h
    obtain ⟨f, rfl⟩ | hunknown := field_or_unknown name
    · rw [set_name] at h
      cases hread : f.read v with
      | error e =>
        rw [hread] at h
        cases h
      | ok x =>
        rw [hread] at h
        exact ⟨f, x, rfl, Field.read_eq_ok_iff.1 hread, (Except.ok.inj h).symm⟩
    · rw [set_of_unknown s hunknown] at h
      cases h
  · rintro ⟨f, x, rfl, hmeans, rfl⟩
    rw [set_name, Field.read_eq_ok_iff.2 hmeans]
    rfl

/-- **Any other key is an offence**, whatever the settings were. -/
theorem set_eq_error_iff {s : Settings} {name : String} {v : Toml.Value} {e : SettingsError} :
    s.set name v = .error e ↔ Offends name v e := by
  constructor
  · intro h
    obtain ⟨f, rfl⟩ | hunknown := field_or_unknown name
    · rw [set_name] at h
      cases hread : f.read v with
      | error e' =>
        rw [hread] at h
        cases h
        exact .refused (Field.read_eq_error_iff.1 hread)
      | ok x =>
        rw [hread] at h
        cases h
    · rw [set_of_unknown s hunknown] at h
      cases h
      exact .unknown hunknown
  · rintro (hunknown | hrefused)
    · exact set_of_unknown s hunknown v
    · rw [set_name, Field.read_eq_error_iff.2 hrefused]
      rfl

end Settings
end CilThunk
