import CilThunk.Text.Blank
import Mathlib
/-!
# Padding — words, the blanks around them, and where a text is cut

Trimming takes the blanks off both ends and nothing else (`trim_eq_iff`), and a text is cut at its first separator
(`cut_eq_some_iff`).  So a word is found behind any blanks (`PaddedWord.trimsTo`), and they can be told from it
(`PaddedWord.text_injective`).
-/
namespace CilThunk
namespace Text

/-- Nothing but blanks. -/
def AllBlank (s : List Char) : Prop := ∀ c ∈ s, isBlank c = true

/-- Characters without a blank among them, one at least. -/
def IsWord (s : List Char) : Prop := s ≠ [] ∧ ∀ c ∈ s, isBlank c = false

/-! ## Trimming -/

/-- A text is `core` with blanks around it, and `core` has none at its ends. -/
structure TrimsTo (s core : List Char) : Prop where
  around : ∃ before after, AllBlank before ∧ AllBlank after ∧ s = before ++ core ++ after
  first : ∀ c ∈ core.head?, isBlank c = false
  last : ∀ c ∈ core.getLast?, isBlank c = false

theorem trimLeft_append {before : List Char} (s : List Char) (h : AllBlank before) :
    trimLeft (before ++ s) = trimLeft s := List.dropWhile_append_of_pos h

theorem trimLeft_of_first {s : List Char} (h : ∀ c ∈ s.head?, isBlank c = false) : trimLeft s = s := by
  cases s with
  | nil => rfl
  | cons c s =>
    have hc : isBlank c = false := h c rfl
    exact List.dropWhile_cons_of_neg (by simp [hc])

theorem trimRight_append (s : List Char) {after : List Char} (h : AllBlank after) :
    trimRight (s ++ after) = trimRight s := by
  have hreverse : ∀ c ∈ after.reverse, isBlank c = true := fun c hc => h c (List.mem_reverse.1 hc)
  unfold trimRight
  rw [List.reverse_append, List.dropWhile_append_of_pos hreverse]

theorem trimRight_of_last {s : List Char} (h : ∀ c ∈ s.getLast?, isBlank c = false) : trimRight s = s := by
  have hreverse : trimLeft s.reverse = s.reverse := trimLeft_of_first (by rwa [List.head?_reverse])
  unfold trimLeft at hreverse
  unfold trimRight
  rw [hreverse, List.reverse_reverse]

theorem first_trimLeft (s : List Char) : ∀ c ∈ (trimLeft s).head?, isBlank c = false := by
  intro c hc
  have hnot := List.head?_dropWhile_not isBlank s
  unfold trimLeft at hc
  rw [Option.mem_def.1 hc] at hnot
  exact hnot

theorem last_trimRight (s : List Char) : ∀ c ∈ (trimRight s).getLast?, isBlank c = false := by
  unfold trimRight
  rw [List.getLast?_reverse]
  exact first_trimLeft s.reverse

theorem exists_trimRight_append (s : List Char) : ∃ after, AllBlank after ∧ s = trimRight s ++ after := by
  refine ⟨(s.reverse.takeWhile isBlank).reverse, fun c hc => List.mem_takeWhile_imp (List.mem_reverse.1 hc), ?_⟩
  unfold trimRight
  rw [← List.reverse_append, List.takeWhile_append_dropWhile, List.reverse_reverse]

theorem TrimsTo.trim_eq {s core : List Char} (h : TrimsTo s core) : trim s = core := by
  obtain ⟨before, after, hbefore, hafter, rfl⟩ := h.around
  unfold trim
  rw [List.append_assoc, trimLeft_append _ hbefore]
  by_cases hcore : core = []
  · -- all of the text goes from the left
    subst hcore
    rw [List.nil_append, ← List.append_nil after, trimLeft_append [] hafter]
    rfl
  · have hfirst : ∀ c ∈ (core ++ after).head?, isBlank c = false := by
      rw [List.head?_append_of_ne_nil core hcore]
      exact h.first
    rw [trimLeft_of_first hfirst, trimRight_append core hafter, trimRight_of_last h.last]

theorem trimsTo_trim (s : List Char) : TrimsTo s (trim s) := by
  obtain ⟨after, hafter, hs⟩ := exists_trimRight_append (trimLeft s)
  refine ⟨⟨s.takeWhile isBlank, after, fun c hc => List.mem_takeWhile_imp hc, hafter, ?_⟩, ?_, last_trimRight _⟩
  · unfold trim
    rw [List.append_assoc, ← hs, trimLeft, List.takeWhile_append_dropWhile]
  · -- what is left starts as the text did before its right end was trimmed
    intro c hc
    refine first_trimLeft s c ?_
    rw [hs]
    exact List.mem_head?_append_of_mem_head? hc

/-- **Trimming leaves the text without the blanks at its ends.** -/
theorem trim_eq_iff {s core : List Char} : trim s = core ↔ TrimsTo s core :=
  ⟨fun h => h ▸ trimsTo_trim s, TrimsTo.trim_eq⟩

/-! ## Words -/

/-- A word and the blanks around it. -/
@[ext]
structure PaddedWord where
  before : List Char
  word : List Char
  after : List Char
  allBlank_before : AllBlank before
  allBlank_after : AllBlank after
  isWord : IsWord word

namespace PaddedWord

def text (w : PaddedWord) : List Char := w.before ++ w.word ++ w.after

theorem trimsTo (w : PaddedWord) : TrimsTo w.text w.word where
  around := ⟨w.before, w.after, w.allBlank_before, w.allBlank_after, rfl⟩
  first c hc := w.isWord.2 c (List.mem_of_mem_head? hc)
  last c hc := w.isWord.2 c (List.mem_of_mem_getLast? hc)

theorem exists_of_trimsTo {s word : List Char} (h : TrimsTo s word) (hword : IsWord word) :
    ∃ w : PaddedWord, w.text = s ∧ w.word = word := by
  obtain ⟨before, after, hbefore, hafter, hs⟩ := h.around
  exact ⟨⟨before, word, after, hbefore, hafter, hword⟩, hs.symm, rfl⟩

theorem takeWhile_text (w : PaddedWord) : w.text.takeWhile isBlank = w.before := by
  obtain ⟨c, rest, hw⟩ := List.exists_cons_of_ne_nil w.isWord.1
  have hc : isBlank c = false := w.isWord.2 c (by rw [hw]; exact List.mem_cons_self)
  unfold text
  rw [List.append_assoc, List.takeWhile_append_of_pos w.allBlank_before, hw, List.cons_append,
    List.takeWhile_cons_of_neg (by simp [hc]), List.append_nil]

/-- **A text is a word with blanks around it in one way only.** -/
theorem text_injective : Function.Injective text := by
  intro w w' h
  have hbefore : w.before = w'.before := by rw [← takeWhile_text, h, takeWhile_text]
  have hword : w.word = w'.word := by rw [← w.trimsTo.trim_eq, h, w'.trimsTo.trim_eq]
  unfold text at h
  rw [hbefore, hword] at h
  exact PaddedWord.ext hbefore hword (List.append_cancel_left h)

/-- A character that is no blank is in the text if it is in the word. -/
theorem mem_text_iff {w : PaddedWord} {c : Char} (hc : isBlank c = false) : c ∈ w.text ↔ c ∈ w.word := by
  unfold text
  rw [List.mem_append, List.mem_append]
  constructor
  · rintro ((h | h) | h)
    · exact absurd (w.allBlank_before c h) (by simp [hc])
    · exact h
    · exact absurd (w.allBlank_after c h) (by simp [hc])
  · exact fun h => .inl (.inr h)

end PaddedWord

/-! ## Cutting -/

theorem cut_append {c : Char} {before : List Char} (after : List Char) (h : c ∉ before) :
    cut c (before ++ c :: after) = some (before, after) := by
  have hne : ∀ d ∈ before, (d != c) = true := fun d hd => bne_iff_ne.2 (fun hdc => h (hdc ▸ hd))
  unfold cut
  rw [List.dropWhile_append_of_pos hne, List.takeWhile_append_of_pos hne, List.dropWhile_cons_of_neg (by simp),
    List.takeWhile_cons_of_neg (by simp), List.append_nil]

/-- **A text is cut at the first separator.** -/
theorem cut_eq_some_iff {c : Char} {s before after : List Char} :
    cut c s = some (before, after) ↔ s = before ++ c :: after ∧ c ∉ before := by
  constructor
  · intro h
    have hsplit := List.takeWhile_append_dropWhile (p := (· != c)) (l := s)
    unfold cut at h
    split at h
    · cases h
    · rename_i d rest hd
      cases h
      have hdc := List.head?_dropWhile_not (· != c) s
      rw [hd] at hdc hsplit
      have heq : d = c := by simpa using hdc
      subst heq
      exact ⟨hsplit.symm, fun hmem => by simpa using List.mem_takeWhile_imp hmem⟩
  · rintro ⟨rfl, h⟩
    exact cut_append after h

theorem cut_eq_none_iff {c : Char} {s : List Char} : cut c s = none ↔ c ∉ s := by
  constructor
  · intro h hmem
    obtain ⟨before, after, rfl, hbefore⟩ := List.eq_append_cons_of_mem hmem
    rw [cut_append after hbefore] at h
    cases h
  · intro h
    have hne : ∀ d ∈ s, (d != c) = true := fun d hd => bne_iff_ne.2 (fun hdc => h (hdc ▸ hd))
    unfold cut
    rw [List.dropWhile_eq_nil_iff.2 hne]

end Text
end CilThunk
