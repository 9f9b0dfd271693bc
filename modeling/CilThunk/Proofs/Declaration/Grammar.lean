import CilThunk.Declaration.Parse
import CilThunk.Proofs.Text.Padding
/-!
# Grammar — the texts that declare a method

A declaration is spelled by a name, a slash, an arity and perhaps a colon and a kind of return, with blanks around each
of them (`Spelling`).  These are exactly the texts that are read, each as the declaration it spells; of any other text
the first part that is wrong is told (`Refusal`).
-/
namespace CilThunk
namespace Declaration

open Text

/-! ## Arities -/

/-- Decimal digits, one at least. -/
def IsNumeral (s : List Char) : Prop := s ≠ [] ∧ ∀ c ∈ s, c.isDigit = true

/-- A numeral of `n`, with zeros in front or not, and behind a plus sign or not. -/
def SpellsArity (s : List Char) (n : UInt16) : Prop :=
  ∃ digits, (s = digits ∨ s = '+' :: digits) ∧ IsNumeral digits ∧ Nat.ofDigitChars 10 digits 0 = n.toNat

theorem not_isNumeral_plus (s : List Char) : ¬ IsNumeral ('+' :: s) :=
  fun h => absurd (h.2 '+' List.mem_cons_self) (by decide)

theorem isBlank_of_isDigit {c : Char} (h : c.isDigit = true) : isBlank c = false := by
  have hrange : 48 ≤ c.toNat ∧ c.toNat ≤ 57 := by
    simpa [Char.isDigit, UInt32.le_iff_toNat_le] using h
  simp only [isBlank, Bool.or_eq_false_iff, Bool.and_eq_false_iff, decide_eq_false_iff_not, beq_eq_false_iff_ne]
  omega

theorem IsNumeral.isWord {s : List Char} (h : IsNumeral s) : IsWord s :=
  ⟨h.1, fun c hc => isBlank_of_isDigit (h.2 c hc)⟩

theorem SpellsArity.isWord {s : List Char} {n : UInt16} (h : SpellsArity s n) : IsWord s := by
  obtain ⟨digits, hs | hs, hnumeral, -⟩ := h
  · exact hs ▸ hnumeral.isWord
  · subst hs
    exact ⟨List.cons_ne_nil _ _, List.forall_mem_cons.2 ⟨by decide, hnumeral.isWord.2⟩⟩

theorem SpellsArity.colon_not_mem {s : List Char} {n : UInt16} (h : SpellsArity s n) : ':' ∉ s := by
  obtain ⟨digits, hs, hnumeral, -⟩ := h
  have hdigits : ':' ∉ digits := fun hmem => absurd (hnumeral.2 _ hmem) (by decide)
  obtain hs | hs := hs <;> subst hs
  · exact hdigits
  · exact List.not_mem_cons_of_ne_of_not_mem (by decide) hdigits

theorem readDigits_eq_some_iff (digits : List Char) (n : UInt16) :
    (if digits ≠ [] ∧ digits.all Char.isDigit ∧ ofDigits digits ≤ 65535 then some (UInt16.ofNat (ofDigits digits))
      else none) = some n ↔ IsNumeral digits ∧ Nat.ofDigitChars 10 digits 0 = n.toNat := by
  have hvalue : Nat.ofDigitChars 10 digits 0 = ofDigits digits := rfl
  rw [hvalue, Option.ite_none_right_eq_some, Option.some.injEq, List.all_eq_true, ← and_assoc, and_assoc]
  refine and_congr_right fun _ => ?_
  constructor
  · rintro ⟨hle, rfl⟩
    exact (UInt16.toNat_ofNat_of_lt' (Nat.lt_succ_of_le hle)).symm
  · intro h
    have := n.toNat_lt
    exact ⟨by omega, by rw [h, UInt16.ofNat_toNat]⟩

/-- **An arity is read exactly if the text spells it.** -/
theorem readArity_eq_some_iff {s : List Char} {n : UInt16} : readArity s = some n ↔ SpellsArity s n := by
  unfold readArity SpellsArity
  simp only
  split
  · rename_i rest
    rw [readDigits_eq_some_iff]
    constructor
    · rintro ⟨hnumeral, hvalue⟩
      exact ⟨rest, .inr rfl, hnumeral, hvalue⟩
    · rintro ⟨digits, rfl | hs, hnumeral, hvalue⟩
      · exact absurd hnumeral (not_isNumeral_plus rest)
      · cases hs
        exact ⟨hnumeral, hvalue⟩
  · rename_i hplus
    rw [readDigits_eq_some_iff]
    constructor
    · rintro ⟨hnumeral, hvalue⟩
      exact ⟨s, .inl rfl, hnumeral, hvalue⟩
    · rintro ⟨digits, rfl | hs, hnumeral, hvalue⟩
      · exact ⟨hnumeral, hvalue⟩
      · exact absurd hs (hplus digits)

theorem readArity_eq_none_iff {s : List Char} : readArity s = none ↔ ∀ n, ¬ SpellsArity s n := by
  simp only [← readArity_eq_some_iff, Option.eq_none_iff_forall_ne_some, ne_eq]

/-! ## Parts of a text -/

/-- No name stands before the first slash, or there is no slash. -/
def Nameless (s : List Char) : Prop :=
  '/' ∉ s ∨ ∃ before rest name, s = before ++ '/' :: rest ∧ '/' ∉ before ∧ TrimsTo before name ∧
    (name = [] ∨ ∃ c ∈ name, isBlank c = true)

/-- A name stands before the first slash, and `rest` behind it. -/
def Named (s name rest : List Char) : Prop :=
  ∃ before, s = before ++ '/' :: rest ∧ '/' ∉ before ∧ TrimsTo before name ∧ IsWord name

/-- What stands before the first colon, and what behind it, if there is one. -/
def Divided (rest arity : List Char) : Option (List Char) → Prop
  | none => ':' ∉ rest ∧ TrimsTo rest arity
  | some kind => ∃ before after, rest = before ++ ':' :: after ∧ ':' ∉ before ∧ TrimsTo before arity ∧
      TrimsTo after kind

theorem isName_iff {name : List Char} : isName name = true ↔ IsWord name := by
  simp [isName, IsWord]

theorem not_isWord_iff {name : List Char} : ¬ IsWord name ↔ name = [] ∨ ∃ c ∈ name, isBlank c = true := by
  simp only [IsWord, not_and_or, ne_eq, not_not, not_forall, Bool.not_eq_false, exists_prop]

theorem nameless_or_named (s : List Char) : Nameless s ∨ ∃ name rest, Named s name rest := by
  by_cases hslash : '/' ∈ s
  · obtain ⟨before, rest, rfl, hbefore⟩ := List.eq_append_cons_of_mem hslash
    have htrim := trimsTo_trim before
    by_cases hword : IsWord (trim before)
    · exact .inr ⟨_, rest, before, rfl, hbefore, htrim, hword⟩
    · exact .inl (.inr ⟨before, rest, _, rfl, hbefore, htrim, not_isWord_iff.1 hword⟩)
  · exact .inl (.inl hslash)

theorem arityAndReturn_eq_iff {rest arity : List Char} {returned? : Option (List Char)} :
    arityAndReturn rest = (arity, returned?) ↔ Divided rest arity returned? := by
  unfold arityAndReturn
  cases hcut : cut ':' rest with
  | none =>
    have hcolon := cut_eq_none_iff.1 hcut
    cases returned? with
    | none => simp [Divided, hcolon, trim_eq_iff]
    | some kind =>
      simp only [Divided, Prod.mk.injEq, reduceCtorEq, and_false, false_iff]
      rintro ⟨before, after, rfl, -⟩
      simp at hcolon
  | some parts =>
    obtain ⟨before, after⟩ := parts
    obtain ⟨rfl, hbefore⟩ := cut_eq_some_iff.1 hcut
    cases returned? with
    | none => simp [Divided]
    | some kind =>
      simp only [Prod.mk.injEq, Option.some.injEq, trim_eq_iff]
      constructor
      · rintro ⟨harity, hkind⟩
        exact ⟨before, after, rfl, hbefore, harity, hkind⟩
      · rintro ⟨before', after', hrest, hbefore', harity, hkind⟩
        rw [hrest, cut_append after' hbefore'] at hcut
        cases hcut
        exact ⟨harity, hkind⟩

/-! ## Spellings -/

/-- A text of the grammar, in its parts. -/
@[ext]
structure Spelling where
  name : PaddedWord
  slash_not_mem : '/' ∉ name.word
  arity : PaddedWord
  count : UInt16
  spells_arity : SpellsArity arity.word count
  returned? : Option PaddedWord
  kind_mem : ∀ kind ∈ returned?, kind.word = "void".toList ∨ kind.word = "value".toList

namespace Spelling

/-- The text behind the slash. -/
def behind (s : Spelling) : List Char :=
  match s.returned? with
  | none => s.arity.text
  | some kind => s.arity.text ++ ':' :: kind.text

def text (s : Spelling) : List Char := s.name.text ++ '/' :: s.behind

def isVoid (s : Spelling) : Bool := s.returned?.any (fun kind => kind.word = "void".toList)

def declaration (s : Spelling) (method : UInt32) : Declaration where
  method := method
  name := String.ofList s.name.word
  arity := s.count
  isVoid := s.isVoid

theorem cut_text (s : Spelling) : cut '/' s.text = some (s.name.text, s.behind) :=
  cut_append _ (mt (PaddedWord.mem_text_iff (by decide)).1 s.slash_not_mem)

theorem cut_behind (s : Spelling) :
    cut ':' s.behind = s.returned?.map fun kind => (s.arity.text, kind.text) := by
  have hcolon : ':' ∉ s.arity.text := mt (PaddedWord.mem_text_iff (by decide)).1 s.spells_arity.colon_not_mem
  unfold behind
  cases s.returned? with
  | none => exact cut_eq_none_iff.2 hcolon
  | some kind => exact cut_append kind.text hcolon

theorem named (s : Spelling) : Named s.text s.name.word s.behind := by
  obtain ⟨-, hslash⟩ := cut_eq_some_iff.1 s.cut_text
  exact ⟨s.name.text, rfl, hslash, s.name.trimsTo, s.name.isWord⟩

theorem divided (s : Spelling) : Divided s.behind s.arity.word (s.returned?.map (·.word)) := by
  rw [← arityAndReturn_eq_iff]
  unfold arityAndReturn
  rw [cut_behind]
  unfold behind
  cases s.returned? with
  | none => exact congrArg (·, none) s.arity.trimsTo.trim_eq
  | some kind => exact Prod.ext s.arity.trimsTo.trim_eq (congrArg some kind.trimsTo.trim_eq)

theorem readReturn_eq (s : Spelling) : readReturn (s.returned?.map (·.word)) = some s.isVoid := by
  unfold isVoid
  cases hreturned : s.returned? with
  | none => rfl
  | some kind =>
    obtain hkind | hkind := s.kind_mem kind hreturned <;> simp [readReturn, hkind]

/-- **A text is spelled in one way only.** -/
theorem text_injective : Function.Injective text := by
  intro s s' h
  have hcut := s.cut_text
  rw [h, cut_text] at hcut
  simp only [Option.some.injEq, Prod.mk.injEq] at hcut
  obtain ⟨hname, hbehind⟩ := hcut
  have hreturned := s.cut_behind
  rw [← hbehind, cut_behind] at hreturned
  unfold behind at hbehind
  have hparts : s.arity = s'.arity ∧ s.returned? = s'.returned? := by
    cases hs : s.returned? with
    | none =>
      cases hs' : s'.returned? with
      | none =>
        rw [hs, hs'] at hbehind
        exact ⟨PaddedWord.text_injective hbehind.symm, rfl⟩
      | some kind' => simp [hs, hs'] at hreturned
    | some kind =>
      cases hs' : s'.returned? with
      | none => simp [hs, hs'] at hreturned
      | some kind' =>
        simp only [hs, hs', Option.map_some, Option.some.injEq, Prod.mk.injEq] at hreturned
        exact ⟨PaddedWord.text_injective hreturned.1.symm, congrArg some (PaddedWord.text_injective hreturned.2.symm)⟩
  have hcount : readArity s.arity.word = readArity s'.arity.word := by rw [hparts.1]
  rw [readArity_eq_some_iff.2 s.spells_arity, readArity_eq_some_iff.2 s'.spells_arity] at hcount
  exact Spelling.ext (PaddedWord.text_injective hname.symm) hparts.1 (Option.some.inj hcount) hparts.2

end Spelling

/-- Parts that are right are those of a spelling. -/
theorem exists_spelling {s name rest arity : List Char} {returned? : Option (List Char)} {n : UInt16}
    (hname : Named s name rest) (hrest : Divided rest arity returned?) (harity : SpellsArity arity n)
    (hkind : ∀ kind ∈ returned?, kind = "void".toList ∨ kind = "value".toList) :
    ∃ spelling : Spelling, spelling.text = s := by
  obtain ⟨before, rfl, hslash, htrim, hword⟩ := hname
  obtain ⟨namePart, rfl, rfl⟩ := PaddedWord.exists_of_trimsTo htrim hword
  have hslash' : '/' ∉ namePart.word := mt (PaddedWord.mem_text_iff (by decide)).2 hslash
  cases returned? with
  | none =>
    obtain ⟨arityPart, rfl, rfl⟩ := PaddedWord.exists_of_trimsTo hrest.2 harity.isWord
    exact ⟨⟨namePart, hslash', arityPart, n, harity, none, nofun⟩, rfl⟩
  | some kind =>
    obtain ⟨before, after, rfl, -, htrimArity, htrimKind⟩ := hrest
    obtain ⟨arityPart, rfl, rfl⟩ := PaddedWord.exists_of_trimsTo htrimArity harity.isWord
    have hkindWord : IsWord kind := by
      obtain rfl | rfl := hkind kind rfl <;> exact isName_iff.1 (by decide)
    obtain ⟨kindPart, rfl, rfl⟩ := PaddedWord.exists_of_trimsTo htrimKind hkindWord
    refine ⟨⟨namePart, hslash', arityPart, n, harity, some kindPart, fun k hk => ?_⟩, rfl⟩
    cases Option.some.inj hk
    exact hkind _ rfl

/-! ## Refusals -/

/-- Why a text is no declaration: of its parts the first that is wrong. -/
inductive Refusal (text : String) (line : Nat) : DeclarationError → Prop
  | malformed (h : Nameless text.toList) : Refusal text line (.malformed line text)
  | invalidArity {name rest arity : List Char} {returned? : Option (List Char)} (hname : Named text.toList name rest)
      (hrest : Divided rest arity returned?) (harity : ∀ n, ¬ SpellsArity arity n) :
      Refusal text line (.invalidArity line (String.ofList arity))
  | unknownReturn {name rest arity kind : List Char} {n : UInt16} (hname : Named text.toList name rest)
      (hrest : Divided rest arity (some kind)) (harity : SpellsArity arity n)
      (hkind : kind ≠ "void".toList ∧ kind ≠ "value".toList) :
      Refusal text line (.unknownReturn line (String.ofList kind))

theorem readReturn_of_ne {kind : List Char} (h : kind ≠ "void".toList ∧ kind ≠ "value".toList) :
    readReturn (some kind) = none := by
  rw [readReturn, if_neg h.2, if_neg h.1]

variable {text : String} {method : UInt32} {line : Nat}

theorem parse_of_nameless (h : Nameless text.toList) : parse text method line = .error (.malformed line text) := by
  unfold parse
  obtain hslash | ⟨before, rest, name, htext, hslash, htrim, hname⟩ := h
  · rw [cut_eq_none_iff.2 hslash]
  · have hnot : ¬ isName (trim before) = true := by
      rw [isName_iff, htrim.trim_eq]
      exact not_isWord_iff.2 hname
    rw [htext, cut_append rest hslash]
    exact if_neg hnot

/-- A text with a name is read part by part. -/
theorem parse_of_named {name rest arity : List Char} {returned? : Option (List Char)}
    (hname : Named text.toList name rest) (hrest : Divided rest arity returned?) :
    parse text method line =
      (readArity arity).elim (.error (.invalidArity line (String.ofList arity))) fun n =>
        (readReturn returned?).elim (.error (.unknownReturn line (String.ofList (returned?.getD [])))) fun isVoid =>
          .ok { method := method, name := String.ofList name, arity := n, isVoid := isVoid } := by
  obtain ⟨before, htext, hslash, htrim, hword⟩ := hname
  unfold parse
  rw [htext, cut_append rest hslash]
  simp only [htrim.trim_eq, if_pos (isName_iff.2 hword), arityAndReturn_eq_iff.2 hrest]
  cases readArity arity with
  | none => rfl
  | some n => cases readReturn returned? <;> rfl

theorem parse_of_spelling (s : Spelling) (h : s.text = text.toList) :
    parse text method line = .ok (s.declaration method) := by
  rw [parse_of_named (h ▸ s.named) s.divided, readArity_eq_some_iff.2 s.spells_arity, s.readReturn_eq,
    Option.elim_some, Option.elim_some, Spelling.declaration]

theorem Refusal.parse_eq {e : DeclarationError} (h : Refusal text line e) : parse text method line = .error e := by
  cases h with
  | malformed h => exact parse_of_nameless h
  | invalidArity hname hrest harity => rw [parse_of_named hname hrest, readArity_eq_none_iff.2 harity, Option.elim_none]
  | unknownReturn hname hrest harity hkind =>
    rw [parse_of_named hname hrest, readArity_eq_some_iff.2 harity, readReturn_of_ne hkind, Option.elim_some,
      Option.elim_none, Option.getD_some]

/-- What is told of a refusal begins with the line. -/
theorem Refusal.exists_reason {e : DeclarationError} (h : Refusal text line e) :
    ∃ reason, e.message = "line " ++ decimal line ++ ": " ++ reason := by
  cases h with
  | malformed _ =>
    exact ⟨"expected `Name/arity[:void]`, found `" ++ text ++ "`", String.toList_inj.1 (by simp [DeclarationError.message])⟩
  | @invalidArity _ _ arity _ _ _ _ =>
    exact ⟨"invalid arity `" ++ String.ofList arity ++ "`", String.toList_inj.1 (by simp [DeclarationError.message])⟩
  | @unknownReturn _ _ _ kind _ _ _ _ _ =>
    exact ⟨"unknown return kind `" ++ String.ofList kind ++ "` (expected `void` or `value`)",
      String.toList_inj.1 (by simp [DeclarationError.message])⟩

/-- **Every text is spelled or refused.** -/
theorem spelled_or_refused (text : String) (line : Nat) :
    (∃ s : Spelling, s.text = text.toList) ∨ ∃ e, Refusal text line e := by
  obtain hnameless | ⟨name, rest, hname⟩ := nameless_or_named text.toList
  · exact .inr ⟨_, .malformed hnameless⟩
  · have hrest : Divided rest (arityAndReturn rest).1 (arityAndReturn rest).2 := arityAndReturn_eq_iff.1 rfl
    cases harity : readArity (arityAndReturn rest).1 with
    | none => exact .inr ⟨_, .invalidArity hname hrest (readArity_eq_none_iff.1 harity)⟩
    | some n =>
      have hspells := readArity_eq_some_iff.1 harity
      by_cases hkind : ∀ kind ∈ (arityAndReturn rest).2, kind = "void".toList ∨ kind = "value".toList
      · exact .inl (exists_spelling hname hrest hspells hkind)
      · simp only [not_forall, not_or] at hkind
        obtain ⟨kind, hsome, hne⟩ := hkind
        exact .inr ⟨_, .unknownReturn hname (Option.mem_def.1 hsome ▸ hrest) hspells hne⟩

/-- **A text is read exactly if it is spelled**, and as what its parts say. -/
theorem parse_eq_ok_iff {d : Declaration} :
    parse text method line = .ok d ↔ ∃ s : Spelling, s.text = text.toList ∧ s.declaration method = d := by
  constructor
  · intro h
    obtain ⟨s, hs⟩ | ⟨e, he⟩ := spelled_or_refused text line
    · rw [parse_of_spelling s hs] at h
      exact ⟨s, hs, Except.ok.inj h⟩
    · rw [he.parse_eq] at h
      cases h
  · rintro ⟨s, hs, rfl⟩
    exact parse_of_spelling s hs

theorem parse_eq_error_iff {e : DeclarationError} : parse text method line = .error e ↔ Refusal text line e := by
  refine ⟨fun h => ?_, Refusal.parse_eq⟩
  obtain ⟨s, hs⟩ | ⟨e', he⟩ := spelled_or_refused text line
  · rw [parse_of_spelling s hs] at h
    cases h
  · rw [he.parse_eq] at h
    cases h
    exact he

/-- **The texts that are read are those of the grammar**, each spelled in one way only; any other text is refused for the
first of its parts that is wrong. -/
theorem parse_by_grammar (text : String) (method : UInt32) (line : Nat) :
    (∀ d, parse text method line = .ok d ↔ ∃ s : Spelling, s.text = text.toList ∧ s.declaration method = d) ∧
    Function.Injective Spelling.text ∧
    ∀ e, parse text method line = .error e ↔ Refusal text line e :=
  ⟨fun _ => parse_eq_ok_iff, Spelling.text_injective, fun _ => parse_eq_error_iff⟩

example : parse " Foo.bar\u00a0/ +007 :void" 3 1 = .ok ⟨3, none, "Foo.bar", 7, true⟩ := by cbv

example : parse "Foo/1/2:void:void" 3 1 = .error (.invalidArity 1 "1/2") := by cbv

end Declaration
end CilThunk
