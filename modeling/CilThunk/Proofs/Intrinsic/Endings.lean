import CilThunk.Intrinsic
import Mathlib
/-!
# Endings — no two entries of a table fit one name

Of the endings none is an ending of another, and of the stems none is a stem of another.  Two endings of one name are
comparable, and so are two stems, so that at most one entry of either table fits a name and the order of a table makes
no difference (`firstOf_perm`).  No ending starts as a stem ends, so an ending of a name lies behind its stem
(`ending_append_iff`).
-/
namespace CilThunk

/-- What the first entry of a table stands for that fits, if any does. -/
def firstOf {α : Type} (default : α) (fits : List Char → Bool) (table : List (String × α)) : α :=
  match table.find? (fun e => fits e.1.toList) with
  | some e => e.2
  | none => default

/-- The entries of a table that fit. -/
def fitting {α : Type} (fits : List Char → Bool) (table : List (String × α)) : List (String × α) :=
  table.filter (fun e => fits e.1.toList)

theorem length_filter_le_one {α : Type} {p : α → Bool} {l : List α}
    (h : l.Pairwise fun a b => ¬ (p a = true ∧ p b = true)) : (l.filter p).length ≤ 1 := by
  have hkept : ∀ a ∈ l.filter p, p a = true := fun a ha => (List.mem_filter.1 ha).2
  have hpairs := h.filter p
  match hl : l.filter p with
  | [] => exact Nat.zero_le 1
  | [_] => exact Nat.le_refl 1
  | a :: b :: rest =>
    rw [hl] at hkept hpairs
    have hab := List.rel_of_pairwise_cons hpairs List.mem_cons_self
    exact absurd ⟨hkept a (by simp), hkept b (by simp)⟩ hab

/-- **Where at most one entry fits, the order of the table makes no difference.** -/
theorem firstOf_perm {α : Type} {default : α} {fits : List Char → Bool} {table table' : List (String × α)}
    (hperm : table'.Perm table) (hone : (fitting fits table).length ≤ 1) :
    firstOf default fits table' = firstOf default fits table := by
  have hfitting : fitting fits table' = fitting fits table := by
    have hfiltered : (fitting fits table').Perm (fitting fits table) := hperm.filter _
    match hl : fitting fits table with
    | [] => exact List.perm_nil.1 (hl ▸ hfiltered)
    | [e] => exact List.perm_singleton.1 (hl ▸ hfiltered)
    | _ :: _ :: _ => simp [hl] at hone
  unfold fitting at hfitting
  unfold firstOf
  rw [← List.head?_filter, ← List.head?_filter, hfitting]

/-! ## Endings -/

namespace Convention

theorem ofName_eq_firstOf (name : String) :
    ofName name = firstOf .default (fun ending => ending.isSuffixOf name.toList) endings := by
  unfold ofName firstOf
  cases endings.find? (fun e => e.1.toList.isSuffixOf name.toList) <;> rfl

theorem endings_incomparable :
    endings.Pairwise fun e e' => ¬ e.1.toList <:+ e'.1.toList ∧ ¬ e'.1.toList <:+ e.1.toList := by decide

theorem length_fitting_endings (name : String) :
    (fitting (fun ending => ending.isSuffixOf name.toList) endings).length ≤ 1 := by
  refine length_filter_le_one (endings_incomparable.imp fun {e e'} hne hboth => ?_)
  obtain ⟨h, h'⟩ := hboth
  rw [List.isSuffixOf_iff_suffix] at h h'
  exact (List.suffix_or_suffix_of_suffix h h').elim hne.1 hne.2

/-- No part at the end of a stem is the start of an ending. -/
theorem endings_apart :
    ∀ stem ∈ [directStem, tailStem], ∀ e ∈ endings, ∀ part ∈ stem.toList.tails, part <+: e.1.toList → part = [] := by
  decide

/-- **An ending of a name lies behind its stem.** -/
theorem ending_append_iff {stem : String} (hstem : stem ∈ [directStem, tailStem]) {e : String × Convention}
    (he : e ∈ endings) (rest : String) : e.1.toList <:+ (stem ++ rest).toList ↔ e.1.toList <:+ rest.toList := by
  rw [String.toList_append]
  refine ⟨fun h => ?_, List.suffix_append_of_suffix⟩
  obtain hlong | hshort := List.suffix_or_suffix_of_suffix h (List.suffix_append stem.toList rest.toList)
  · exact hlong
  · -- What the ending has more than the rest would be both its start and the end of the stem.
    obtain ⟨part, hpart⟩ := hshort
    rw [← hpart] at h
    have hend : part <:+ stem.toList := List.suffix_append_self_iff.1 h
    have hnone : part = [] :=
      endings_apart stem hstem e he part ((List.mem_tails _ _).2 hend) ⟨rest.toList, hpart⟩
    rw [← hpart, hnone]
    exact List.suffix_rfl

theorem ofName_append {stem : String} (hstem : stem ∈ [directStem, tailStem]) (rest : String) :
    ofName (stem ++ rest) = ofName rest := by
  have hsame : ∀ e ∈ endings, (e.1.toList.isSuffixOf (stem ++ rest).toList) = (e.1.toList.isSuffixOf rest.toList) := by
    intro e he
    rw [Bool.eq_iff_iff, List.isSuffixOf_iff_suffix, List.isSuffixOf_iff_suffix]
    exact ending_append_iff hstem he rest
  unfold ofName
  rw [← List.head?_filter, ← List.head?_filter, List.filter_congr hsame]

end Convention

/-! ## Stems -/

namespace Kind

/-- The stems in the order in which they are looked for. -/
def stems : List (String × Kind) := [(directStem, direct), (tailStem, tail)]

theorem ofName_eq_firstOf (name : String) :
    ofName name = firstOf .ordinary (fun stem => stem.isPrefixOf name.toList) stems := by
  simp only [ofName, firstOf, stems, List.find?_cons, List.find?_nil]
  cases directStem.toList.isPrefixOf name.toList <;> cases tailStem.toList.isPrefixOf name.toList <;> rfl

theorem stems_incomparable :
    stems.Pairwise fun e e' => ¬ e.1.toList <+: e'.1.toList ∧ ¬ e'.1.toList <+: e.1.toList := by decide

theorem length_fitting_stems (name : String) :
    (fitting (fun stem => stem.isPrefixOf name.toList) stems).length ≤ 1 := by
  refine length_filter_le_one (stems_incomparable.imp fun {e e'} hne hboth => ?_)
  obtain ⟨h, h'⟩ := hboth
  rw [List.isPrefixOf_iff_prefix] at h h'
  exact (List.prefix_or_prefix_of_prefix h h').elim hne.1 hne.2

theorem not_both_stems (name : String) : ¬ (directStem.toList <+: name.toList ∧ tailStem.toList <+: name.toList) := by
  rintro ⟨h, h'⟩
  exact (List.prefix_or_prefix_of_prefix h h').elim (by decide) (by decide)

end Kind

/-- **A name has one convention and one kind, in whatever order the tables are searched**, and its convention is that
of what follows its stem. -/
theorem meaning_of_name :
    (∀ name : String,
      (fitting (fun ending => ending.isSuffixOf name.toList) Convention.endings).length ≤ 1 ∧
      (∀ table, table.Perm Convention.endings →
        firstOf .default (fun ending => ending.isSuffixOf name.toList) table = Convention.ofName name) ∧
      ¬ (directStem.toList <+: name.toList ∧ tailStem.toList <+: name.toList) ∧
      ∀ table, table.Perm Kind.stems →
        firstOf .ordinary (fun stem => stem.isPrefixOf name.toList) table = Kind.ofName name) ∧
    ∀ rest : String,
      Convention.ofName (directStem ++ rest) = Convention.ofName rest ∧
      Convention.ofName (tailStem ++ rest) = Convention.ofName rest ∧
      ∀ stem ∈ [directStem, tailStem], ∀ e ∈ Convention.endings,
        (e.1.toList <:+ (stem ++ rest).toList ↔ e.1.toList <:+ rest.toList) := by
  refine ⟨fun name => ⟨Convention.length_fitting_endings name, fun table hperm => ?_, Kind.not_both_stems name,
    fun table hperm => ?_⟩, fun rest => ⟨?_, ?_, fun stem hstem e he => ?_⟩⟩
  · rw [Convention.ofName_eq_firstOf]
    exact firstOf_perm hperm (Convention.length_fitting_endings name)
  · rw [Kind.ofName_eq_firstOf]
    exact firstOf_perm hperm (Kind.length_fitting_stems name)
  · exact Convention.ofName_append (by simp) rest
  · exact Convention.ofName_append (by simp) rest
  · exact Convention.ending_append_iff hstem he rest

/-- Two endings in a chain behind the longer stem, and both tables turned round. -/
theorem meaning_of_name_chained_endings :
    let name := tailStem ++ "ThisCallHasThis"
    Convention.endings.reverse.Perm Convention.endings ∧ Kind.stems.reverse.Perm Kind.stems ∧
      firstOf .default (fun ending => ending.isSuffixOf name.toList) Convention.endings.reverse = .hasThis ∧
      firstOf .ordinary (fun stem => stem.isPrefixOf name.toList) Kind.stems.reverse = .tail ∧
      Convention.ofName name = Convention.ofName "ThisCallHasThis" ∧
      tailStem ∈ [directStem, tailStem] ∧ ("HasThis", .hasThis) ∈ Convention.endings ∧
      ("HasThis".toList <:+ name.toList ↔ "HasThis".toList <:+ "ThisCallHasThis".toList) := by
  intro name
  have hstem : tailStem ∈ [directStem, tailStem] := by decide
  have hending : ("HasThis", .hasThis) ∈ Convention.endings := by decide
  obtain ⟨hname, hrest⟩ := meaning_of_name
  obtain ⟨-, hendings, -, hstems⟩ := hname name
  obtain ⟨-, htail, hbehind⟩ := hrest "ThisCallHasThis"
  refine ⟨List.reverse_perm _, List.reverse_perm _, ?_, ?_, htail, hstem, hending, hbehind _ hstem _ hending⟩
  · rw [hendings _ (List.reverse_perm _)]
    decide
  · rw [hstems _ (List.reverse_perm _)]
    decide

end CilThunk
