import CilThunk.Proofs.Json.Grammar
/-!
# Scalars — strings and numbers read from a text

Each reader takes its part off the front of a text.  What it takes spells what it gives out (`characters_sound`,
`number_sound`), and it takes whatever spells something (`characters_complete`), if no digit stands behind a number
(`number_complete`).
-/
namespace CilThunk
namespace Json

open Toml (Reader)

/-! ## Strings -/

def hexNumber (s : List Char) : Option (Nat × List Char) :=
  let digits := s.take 4
  if digits.length = 4 ∧ digits.all Toml.isHexDigit then some (Toml.ofHexDigits digits, s.drop 4) else none

/-- The code point that two surrogates stand for. -/
def ofSurrogates (high low : Nat) : Nat := 0x10000 + 0x400 * (high - 0xD800) + (low - 0xDC00)

/-- The character of a code point, or of a high surrogate and the low one that must follow. -/
def codePoint (s : List Char) : Option (Char × List Char) :=
  match hexNumber s with
  | none => none
  | some (n, rest) =>
    if n.isValidChar then some (Char.ofNat n, rest)
    else
      match rest with
      | '\\' :: 'u' :: rest =>
        match hexNumber rest with
        | none => none
        | some (m, rest) =>
          if n < 0xDC00 ∧ 0xDC00 ≤ m ∧ m < 0xE000 then some (Char.ofNat (ofSurrogates n m), rest) else none
      | _ => none

/-- The character that an escape stands for, behind its backslash. -/
def escaped : Reader Char
  | [] => none
  | letter :: rest =>
    if letter = 'u' then codePoint rest
    else (shortEscapes.find? (fun e => e.1 = letter)).map (fun e => (e.2, rest))

theorem hexNumber_eq_some_iff {s rest : List Char} {n : Nat} :
    hexNumber s = some (n, rest) ↔ ∃ t, s = t ++ rest ∧ SpellsHex n t := by
  simp only [hexNumber]
  constructor
  · intro h
    split at h
    · rename_i hdigits
      cases h
      exact ⟨s.take 4, (List.take_append_drop 4 s).symm, hdigits.1, List.all_eq_true.1 hdigits.2, rfl⟩
    · cases h
  · rintro ⟨t, rfl, hlength, hdigits, rfl⟩
    rw [List.take_left' hlength, List.drop_left' hlength, if_pos ⟨hlength, List.all_eq_true.2 hdigits⟩]

theorem isValidChar_iff {n : Nat} : n.isValidChar ↔ n < 0xD800 ∨ 0xDFFF < n ∧ n < 0x110000 := Iff.rfl

theorem toNat_ofNat_of_isValidChar {n : Nat} (h : n.isValidChar) : (Char.ofNat n).toNat = n := by
  rw [Char.toNat_ofNat, if_pos h]

theorem isValidChar_ofSurrogates {high low : Nat} (hhigh : high < 0xDC00) (hlow : low < 0xE000) :
    (ofSurrogates high low).isValidChar := by
  unfold ofSurrogates
  exact isValidChar_iff.2 (.inr (by omega))

theorem codePoint_sound {s rest : List Char} {c : Char} (h : codePoint s = some (c, rest)) :
    ∃ t, s = t ++ rest ∧ SpellsCharacter c ('\\' :: 'u' :: t) := by
  unfold codePoint at h
  split at h
  · cases h
  · rename_i n after hfirst
    obtain ⟨t, rfl, ht⟩ := hexNumber_eq_some_iff.1 hfirst
    split at h
    · rename_i hvalid
      cases h
      exact ⟨t, rfl, .code (by rwa [toNat_ofNat_of_isValidChar hvalid])⟩
    · rename_i hinvalid
      split at h
      · split at h
        · cases h
        · rename_i m after hsecond
          obtain ⟨u, rfl, hu⟩ := hexNumber_eq_some_iff.1 hsecond
          split at h
          · rename_i hrange
            obtain ⟨hhigh, hlow, hend⟩ := hrange
            obtain ⟨rfl, rfl⟩ := Prod.mk.inj (Option.some.inj h)
            have hstart : 0xD800 ≤ n := by
              rw [isValidChar_iff] at hinvalid
              omega
            refine ⟨t ++ '\\' :: 'u' :: u, by simp, .surrogates ⟨hstart, hhigh⟩ ⟨hlow, hend⟩ ht hu ?_⟩
            exact toNat_ofNat_of_isValidChar (isValidChar_ofSurrogates hhigh hend)
          · cases h
      · cases h

theorem codePoint_code {c : Char} {t : List Char} (h : SpellsHex c.toNat t) (after : List Char) :
    codePoint (t ++ after) = some (c, after) := by
  have hvalid : c.toNat.isValidChar := c.valid
  simp only [codePoint, hexNumber_eq_some_iff.2 ⟨t, rfl, h⟩, if_pos hvalid, Char.ofNat_toNat]

theorem codePoint_surrogates {c : Char} {high low : Nat} {t u : List Char} (hhigh : 0xD800 ≤ high ∧ high < 0xDC00)
    (hlow : 0xDC00 ≤ low ∧ low < 0xE000) (ht : SpellsHex high t) (hu : SpellsHex low u)
    (hc : c.toNat = ofSurrogates high low) (after : List Char) :
    codePoint (t ++ '\\' :: 'u' :: (u ++ after)) = some (c, after) := by
  have hinvalid : ¬ high.isValidChar := by
    rw [isValidChar_iff]
    omega
  simp only [codePoint, hexNumber_eq_some_iff.2 ⟨t, rfl, ht⟩, if_neg hinvalid,
    hexNumber_eq_some_iff.2 ⟨u, rfl, hu⟩, if_pos (And.intro hhigh.2 hlow), ← hc, Char.ofNat_toNat]

theorem escaped_sound {s rest : List Char} {c : Char} (h : escaped s = some (c, rest)) :
    ∃ t, s = t ++ rest ∧ SpellsCharacter c ('\\' :: t) := by
  unfold escaped at h
  split at h
  · cases h
  · rename_i letter s
    split at h
    · rename_i hu
      obtain ⟨t, rfl, ht⟩ := codePoint_sound h
      exact ⟨'u' :: t, by rw [hu]; rfl, ht⟩
    · obtain ⟨⟨letter', c'⟩, hfind, he⟩ := Option.map_eq_some_iff.1 h
      cases he
      have hletter : letter' = letter := by simpa using List.find?_some hfind
      subst hletter
      exact ⟨[letter'], rfl, .short (List.mem_of_find?_eq_some hfind)⟩

theorem escaped_length {s rest : List Char} {c : Char} (h : escaped s = some (c, rest)) : rest.length ≤ s.length := by
  obtain ⟨t, rfl, -⟩ := escaped_sound h
  simp

/-- A letter stands for one character, and is not the letter of a code point. -/
theorem find?_shortEscapes : ∀ e ∈ shortEscapes, e.1 ≠ 'u' ∧ shortEscapes.find? (fun x => x.1 = e.1) = some e := by
  decide

theorem escaped_short {letter c : Char} (h : (letter, c) ∈ shortEscapes) (after : List Char) :
    escaped (letter :: after) = some (c, after) := by
  obtain ⟨hu, hfind⟩ := find?_shortEscapes _ h
  rw [escaped, if_neg hu, hfind]
  rfl

/-- Puts something in front of what a reader took. -/
def consTo {α : Type} (a : α) (p : List α × List Char) : List α × List Char := (a :: p.1, p.2)

/-- The characters of a string, behind the quote that opens it. -/
def characters (s : List Char) : Option (List Char × List Char) :=
  match s with
  | [] => none
  | '"' :: rest => some ([], rest)
  | '\\' :: rest =>
    match h : escaped rest with
    | none => none
    | some (c, after) =>
      have := escaped_length h
      (characters after).map (consTo c)
  | c :: rest => if c.toNat < 0x20 then none else (characters rest).map (consTo c)
termination_by s.length

theorem characters_escaped {s after : List Char} {c : Char} (h : escaped s = some (c, after)) :
    characters ('\\' :: s) = (characters after).map (consTo c) := by
  rw [characters]
  split
  · rename_i hnone
    rw [h] at hnone
    cases hnone
  · rename_i hsome
    rw [h] at hsome
    cases hsome
    rfl

theorem characters_plain {c : Char} (hquote : c ≠ '"') (hbackslash : c ≠ '\\') (hcontrol : 0x20 ≤ c.toNat)
    (s : List Char) : characters (c :: s) = (characters s).map (consTo c) := by
  rw [characters.eq_def]
  split
  · rename_i h
    cases h
  · rename_i h
    cases h
    exact absurd rfl hquote
  · rename_i h
    cases h
    exact absurd rfl hbackslash
  · rename_i h
    cases h
    exact if_neg (by omega)

/-- A character is taken off the front of a string. -/
theorem characters_append {c : Char} {t : List Char} (h : SpellsCharacter c t) (after : List Char) :
    characters (t ++ after) = (characters after).map (consTo c) := by
  cases h with
  | plain hquote hbackslash hcontrol => exact characters_plain hquote hbackslash hcontrol after
  | short hletter => exact characters_escaped (escaped_short hletter after)
  | code ht => exact characters_escaped (codePoint_code ht after)
  | @surrogates high low t u hhigh hlow ht hu hc =>
    have hescaped := codePoint_surrogates hhigh hlow ht hu hc after
    rw [List.cons_append, List.cons_append, List.append_assoc]
    exact characters_escaped hescaped

theorem characters_complete {cs t : List Char} (h : SpellsString cs t) (after : List Char) :
    characters (t ++ '"' :: after) = some (cs, after) := by
  induction h with
  | nil =>
    rw [List.nil_append, characters]
  | cons hc _ ih =>
    rw [List.append_assoc, characters_append hc, ih]
    rfl

theorem characters_sound {s cs rest : List Char} (h : characters s = some (cs, rest)) :
    ∃ t, s = t ++ '"' :: rest ∧ SpellsString cs t := by
  fun_induction characters s generalizing cs with
  | case1 => cases h
  | case2 after =>
    cases h
    exact ⟨[], rfl, .nil⟩
  | case3 => cases h
  | case4 s c after hescaped _ ih =>
    obtain ⟨⟨cs, _⟩, hcs, he⟩ := Option.map_eq_some_iff.1 h
    cases he
    obtain ⟨u, rfl, hu⟩ := ih hcs
    obtain ⟨t, rfl, ht⟩ := escaped_sound hescaped
    exact ⟨'\\' :: t ++ u, by simp, .cons ht hu⟩
  | case5 => cases h
  | case6 c s hquote hbackslash hcontrol ih =>
    obtain ⟨⟨cs, _⟩, hcs, he⟩ := Option.map_eq_some_iff.1 h
    cases he
    obtain ⟨u, rfl, hu⟩ := ih hcs
    exact ⟨c :: u, rfl, .cons (.plain hquote hbackslash (by omega)) hu⟩

/-! ## Numbers -/

/-- Digits without a needless zero in front. -/
def natural : Reader Nat
  | '0' :: rest => some (0, rest)
  | s =>
    match s.takeWhile Char.isDigit with
    | [] => none
    | digits => some (Toml.ofDigits 10 digits, s.dropWhile Char.isDigit)

def number : Reader Int
  | '-' :: rest => (natural rest).map (fun p => (-(p.1 : Int), p.2))
  | s => (natural s).map (fun p => ((p.1 : Int), p.2))

/-- No digit stands at the front. -/
def Ended (after : List Char) : Prop := ∀ c ∈ after.head?, c.isDigit = false

theorem Ended.nil : Ended [] := nofun

theorem Ended.cons {c : Char} (h : c.isDigit = false) (after : List Char) : Ended (c :: after) := by
  intro d hd
  cases hd
  exact h

theorem takeWhile_digits {digits after : List Char} (hdigits : ∀ c ∈ digits, c.isDigit = true) (hafter : Ended after) :
    (digits ++ after).takeWhile Char.isDigit = digits ∧ (digits ++ after).dropWhile Char.isDigit = after := by
  have hend : after.takeWhile Char.isDigit = [] ∧ after.dropWhile Char.isDigit = after := by
    cases after with
    | nil => exact ⟨rfl, rfl⟩
    | cons c after =>
      have hc := hafter c rfl
      exact ⟨List.takeWhile_cons_of_neg (by simp [hc]), List.dropWhile_cons_of_neg (by simp [hc])⟩
  rw [List.takeWhile_append_of_pos hdigits, List.dropWhile_append_of_pos hdigits, hend.1, hend.2]
  exact ⟨List.append_nil _, rfl⟩

theorem SpellsNatural.starts {n : Nat} {t : List Char} (h : SpellsNatural n t) :
    ∃ c rest, t = c :: rest ∧ c.isDigit = true := by
  cases h with
  | zero => exact ⟨'0', [], rfl, rfl⟩
  | digits _ hdigits => exact ⟨_, _, rfl, hdigits _ List.mem_cons_self⟩

theorem natural_complete {n : Nat} {t after : List Char} (h : SpellsNatural n t) (hafter : Ended after) :
    natural (t ++ after) = some (n, after) := by
  cases h with
  | zero => rfl
  | @digits c rest hzero hdigits =>
    obtain ⟨htake, hdrop⟩ := takeWhile_digits hdigits hafter
    unfold natural
    split
    · rename_i heq
      cases heq
      exact absurd rfl hzero
    · rw [htake, hdrop]

theorem natural_sound {s rest : List Char} {n : Nat} (h : natural s = some (n, rest)) :
    ∃ t, s = t ++ rest ∧ SpellsNatural n t := by
  unfold natural at h
  split at h
  · cases h
    exact ⟨['0'], rfl, .zero⟩
  · rename_i hzero
    split at h
    · cases h
    · rename_i hne
      cases h
      obtain ⟨c, digits, hdigits⟩ := List.exists_cons_of_ne_nil hne
      have hs : s = c :: digits ++ s.dropWhile Char.isDigit := by
        rw [← hdigits, List.takeWhile_append_dropWhile]
      rw [hdigits]
      refine ⟨c :: digits, hs, .digits (fun h => hzero _ (h ▸ hs)) fun d hd => ?_⟩
      exact List.mem_takeWhile_imp (hdigits ▸ hd)

theorem number_sound {s rest : List Char} {i : Int} (h : number s = some (i, rest)) :
    ∃ t, s = t ++ rest ∧ SpellsInteger i t := by
  unfold number at h
  split at h
  · obtain ⟨⟨n, _⟩, hn, he⟩ := Option.map_eq_some_iff.1 h
    cases he
    obtain ⟨t, rfl, ht⟩ := natural_sound hn
    exact ⟨'-' :: t, rfl, .negative ht⟩
  · obtain ⟨⟨n, _⟩, hn, he⟩ := Option.map_eq_some_iff.1 h
    cases he
    obtain ⟨t, rfl, ht⟩ := natural_sound hn
    exact ⟨t, rfl, .natural ht⟩

theorem number_complete {i : Int} {t after : List Char} (h : SpellsInteger i t) (hafter : Ended after) :
    number (t ++ after) = some (i, after) := by
  cases h with
  | @natural n t hn =>
    obtain ⟨c, rest, rfl, hdigit⟩ := hn.starts
    unfold number
    split
    · rename_i heq
      cases heq
      exact absurd hdigit (by decide)
    · rw [natural_complete hn hafter]
      rfl
  | negative hn =>
    rw [List.cons_append, number, natural_complete hn hafter]
    rfl

end Json
end CilThunk
