import CilThunk.Json
import CilThunk.Proofs.Text.Numerals
/-!
# Grammar — the texts of a value

What spells a value, part by part (`Spells`): a character of a string stands for itself or is escaped, two surrogates
may stand for one character, a number has no needless zero in front, and blanks may stand around every item of a list.
Numbers are integers here, so nothing with a fraction or an exponent spells one.

Both texts that are written of a value spell it (`spells_compact`, `spells_prettyAt`).
-/
namespace CilThunk
namespace Json

/-! ## Blanks -/

def isBlank (c : Char) : Bool := c == ' ' || c == '\t' || c == '\n' || c == '\r'

def AllBlank (s : List Char) : Prop := ∀ c ∈ s, isBlank c = true

theorem AllBlank.nil : AllBlank [] := nofun

theorem AllBlank.cons {c : Char} (hc : isBlank c = true) {s : List Char} (h : AllBlank s) : AllBlank (c :: s) :=
  List.forall_mem_cons.2 ⟨hc, h⟩

/-! ## Strings -/

/-- The letters that stand behind a backslash for one character. -/
def shortEscapes : List (Char × Char) :=
  [('"', '"'), ('\\', '\\'), ('/', '/'), ('b', '\x08'), ('f', '\x0c'), ('n', '\n'), ('r', '\r'), ('t', '\t')]

/-- Four hexadecimal digits of a number. -/
structure SpellsHex (n : Nat) (t : List Char) : Prop where
  length : t.length = 4
  digits : ∀ c ∈ t, Toml.isHexDigit c = true
  value : Toml.ofHexDigits t = n

inductive SpellsCharacter (c : Char) : List Char → Prop
  | plain (hquote : c ≠ '"') (hbackslash : c ≠ '\\') (hcontrol : 0x20 ≤ c.toNat) : SpellsCharacter c [c]
  | short {letter : Char} (h : (letter, c) ∈ shortEscapes) : SpellsCharacter c ['\\', letter]
  | code {t : List Char} (h : SpellsHex c.toNat t) : SpellsCharacter c ('\\' :: 'u' :: t)
  | surrogates {high low : Nat} {t u : List Char} (hhigh : 0xD800 ≤ high ∧ high < 0xDC00)
      (hlow : 0xDC00 ≤ low ∧ low < 0xE000) (ht : SpellsHex high t) (hu : SpellsHex low u)
      (hc : c.toNat = 0x10000 + 0x400 * (high - 0xD800) + (low - 0xDC00)) :
      SpellsCharacter c ('\\' :: 'u' :: (t ++ '\\' :: 'u' :: u))

/-- What stands between the quotes of a string. -/
inductive SpellsString : List Char → List Char → Prop
  | nil : SpellsString [] []
  | cons {c : Char} {cs t u : List Char} (h : SpellsCharacter c t) (hrest : SpellsString cs u) :
      SpellsString (c :: cs) (t ++ u)

/-! ## Numbers -/

inductive SpellsNatural : Nat → List Char → Prop
  | zero : SpellsNatural 0 ['0']
  | digits {c : Char} {rest : List Char} (hzero : c ≠ '0') (h : ∀ d ∈ c :: rest, d.isDigit = true) :
      SpellsNatural (Toml.ofDigits 10 (c :: rest)) (c :: rest)

inductive SpellsInteger : Int → List Char → Prop
  | natural {n : Nat} {t : List Char} (h : SpellsNatural n t) : SpellsInteger n t
  | negative {n : Nat} {t : List Char} (h : SpellsNatural n t) : SpellsInteger (-n) ('-' :: t)

/-! ## Values -/

section Lists

variable {α : Type} (P : α → List Char → Prop)

/-- Items with commas between them. -/
inductive Listed : List α → List Char → Prop
  | last {a : α} {before t behind : List Char} (hbefore : AllBlank before) (h : P a t) (hbehind : AllBlank behind) :
      Listed [a] (before ++ (t ++ behind))
  | more {a : α} {as : List α} {before t behind u : List Char} (hbefore : AllBlank before) (h : P a t)
      (hbehind : AllBlank behind) (hrest : Listed as u) : Listed (a :: as) (before ++ (t ++ (behind ++ ',' :: u)))

/-- What stands between the brackets of a list. -/
inductive Within : List α → List Char → Prop
  | nothing {blanks : List Char} (h : AllBlank blanks) : Within [] blanks
  | items {as : List α} {t : List Char} (h : Listed P as t) : Within as t

end Lists

/-- A name and the value that `P` says is spelled. -/
inductive SpellsField (P : Json → List Char → Prop) : String × Json → List Char → Prop
  | field {name : String} {v : Json} {t behind before u : List Char} (hname : SpellsString name.toList t)
      (hbehind : AllBlank behind) (hbefore : AllBlank before) (hv : P v u) :
      SpellsField P (name, v) ('"' :: (t ++ '"' :: (behind ++ ':' :: (before ++ u))))

inductive Spells : Json → List Char → Prop
  | null : Spells null "null".toList
  | yes : Spells (bool true) "true".toList
  | no : Spells (bool false) "false".toList
  | num {i : Int} {t : List Char} (h : SpellsInteger i t) : Spells (num i) t
  | str {s : String} {t : List Char} (h : SpellsString s.toList t) : Spells (str s) ('"' :: (t ++ ['"']))
  | arr {items : List Json} {t : List Char} (h : Within Spells items t) : Spells (arr items) ('[' :: (t ++ [']']))
  | obj {fields : List (String × Json)} {t : List Char} (h : Within (SpellsField Spells) fields t) :
      Spells (obj fields) ('\x7b' :: (t ++ ['\x7d']))

/-- A text of a value, with blanks around it. -/
def IsTextOf (text : String) (j : Json) : Prop :=
  ∃ before t behind, text.toList = before ++ (t ++ behind) ∧ AllBlank before ∧ AllBlank behind ∧ Spells j t

/-- The values by their parts: what holds of an array or an object if it holds of all that is in it, holds of all. -/
@[elab_as_elim]
theorem parts_induction {motive : Json → Prop} (null : motive null) (bool : ∀ b, motive (bool b))
    (num : ∀ i, motive (num i)) (str : ∀ s, motive (str s)) (arr : ∀ items, (∀ j ∈ items, motive j) → motive (arr items))
    (obj : ∀ fields, (∀ f ∈ fields, motive f.2) → motive (obj fields)) : ∀ j, motive j
  | .null => null
  | .bool b => bool b
  | .num i => num i
  | .str s => str s
  | .arr items => arr items fun j _ => parts_induction null bool num str arr obj j
  | .obj fields => obj fields fun f _ => parts_induction null bool num str arr obj f.2
termination_by j => sizeOf j
decreasing_by
  · simp_wf
    have := List.sizeOf_lt_of_mem ‹_›
    omega
  · simp_wf
    have := sizeOf_field ‹_›
    omega

/-! ## Strings and numbers as they are written -/

theorem toList_hexPadded_control : ∀ n < 0x20,
    (Text.hexPadded 4 n).toList = ['0', '0', (n / 16).digitChar, (n % 16).digitChar] := by
  decide

theorem isHexDigit_digitChar : ∀ d < 16, Toml.isHexDigit d.digitChar = true := by decide

theorem spellsHex_control {n : Nat} (h : n < 0x20) : SpellsHex n (Text.hexPadded 4 n).toList := by
  rw [toList_hexPadded_control n h]
  refine ⟨rfl, ?_, ?_⟩
  · simp only [List.forall_mem_cons]
    exact ⟨rfl, rfl, isHexDigit_digitChar _ (by omega), isHexDigit_digitChar _ (by omega), nofun⟩
  · unfold Toml.ofHexDigits
    rw [List.foldl_cons, List.foldl_cons, List.foldl_cons, List.foldl_cons, List.foldl_nil,
      Text.hexValue_digitChar _ (by omega), Text.hexValue_digitChar _ (by omega), show Toml.hexValue '0' = 0 from rfl]
    omega

/-- **A character is spelled by its escape**, or by itself if it needs none. -/
theorem spells_escape (c : Char) : SpellsCharacter c (escape c).toList := by
  unfold escape
  split
  case h_8 hquote hbackslash _ _ _ _ _ =>
    split
    · rename_i hcontrol
      rw [String.toList_append]
      exact .code (spellsHex_control hcontrol)
    · rename_i hplain
      rw [show c.toString.toList = [c] from String.toList_singleton c]
      exact .plain hquote hbackslash (by omega)
  all_goals exact .short (by decide)

theorem spellsString_flatMap_escape (cs : List Char) : SpellsString cs (cs.flatMap (fun c => (escape c).toList)) := by
  induction cs with
  | nil => exact .nil
  | cons c cs ih =>
    rw [List.flatMap_cons]
    exact .cons (spells_escape c) ih

theorem toList_quote (s : String) :
    (quote s).toList = '"' :: (s.toList.flatMap (fun c => (escape c).toList) ++ ['"']) := by
  simp [quote, String.toList_join, List.flatMap_map]

theorem head?_toDigits_ne_zero {n : Nat} (h : n ≠ 0) : (Nat.toDigits 10 n).head? ≠ some '0' := by
  induction n using Nat.strong_induction_on with
  | _ n ih =>
    rw [Nat.toDigits_eq_if (by decide)]
    split
    · rename_i hn
      have hdigit : ∀ d < 10, d ≠ 0 → d.digitChar ≠ '0' := by decide
      simpa using hdigit n hn h
    · rename_i hn
      have hrest := ih (n / 10) (Nat.div_lt_self (by omega) (by decide)) (by omega)
      rw [List.head?_append_of_ne_nil _ Nat.toDigits_ne_nil]
      exact hrest

theorem spellsNatural_toDigits (n : Nat) : SpellsNatural n (Nat.toDigits 10 n) := by
  by_cases hn : n = 0
  · subst hn
    exact .zero
  · have hfirst := head?_toDigits_ne_zero hn
    have hdigits : ∀ c ∈ Nat.toDigits 10 n, c.isDigit = true := fun c hc =>
      Nat.isDigit_of_mem_toDigits (by decide) (by decide) hc
    have hvalue : Toml.ofDigits 10 (Nat.toDigits 10 n) = n := Text.ofDigits_toDigits (by decide) (by decide) n
    obtain ⟨c, rest, hc⟩ := List.exists_cons_of_ne_nil (Nat.toDigits_ne_nil (n := n) (b := 10))
    rw [hc] at hfirst hdigits hvalue ⊢
    have hspells : SpellsNatural (Toml.ofDigits 10 (c :: rest)) (c :: rest) :=
      .digits (fun h => hfirst (congrArg some h)) hdigits
    rwa [hvalue] at hspells

theorem spells_integer (i : Int) : SpellsInteger i (Text.integer i).toList := by
  cases i with
  | ofNat n =>
    rw [show (Text.integer (.ofNat n)).toList = Nat.toDigits 10 n from String.toList_ofList]
    exact .natural (spellsNatural_toDigits n)
  | negSucc n =>
    have htext : (Text.integer (.negSucc n)).toList = '-' :: Nat.toDigits 10 (n + 1) := by
      simp [Text.integer, Text.decimal]
    rw [htext, Int.negSucc_eq]
    exact .negative (spellsNatural_toDigits (n + 1))

theorem spells_quote (s : String) : Spells (str s) (quote s).toList := by
  rw [toList_quote]
  exact .str (spellsString_flatMap_escape s.toList)

/-! ## Lists as they are written -/

section Lists

variable {α : Type} {P : α → List Char → Prop} {as : List α}

theorem listed_intercalate {text : α → List Char} (h : ∀ a ∈ as, P a (text a)) (hne : as ≠ []) {gap last : List Char}
    (hgap : AllBlank gap) (hlast : AllBlank last) :
    Listed P as (gap ++ ((',' :: gap).intercalate (as.map text) ++ last)) := by
  induction as with
  | nil => exact absurd rfl hne
  | cons a as ih =>
    obtain ⟨ha, has⟩ := List.forall_mem_cons.1 h
    cases as with
    | nil =>
      rw [List.map_singleton, List.intercalate_singleton]
      exact .last hgap ha hlast
    | cons b as =>
      rw [List.map_cons, List.map_cons, List.intercalate_cons_cons, ← List.map_cons, List.append_assoc,
        List.append_assoc, List.cons_append]
      exact .more hgap ha AllBlank.nil (ih has (List.cons_ne_nil _ _))

variable {text : α → String}

theorem within_intercalate (h : ∀ a ∈ as, P a (text a).toList) (opening closing : String) :
    ∃ t, (opening ++ ",".intercalate (as.map text) ++ closing).toList = opening.toList ++ (t ++ closing.toList) ∧
      Within P as t := by
  refine ⟨(",".intercalate (as.map text)).toList, by simp, ?_⟩
  rw [String.toList_intercalate, List.map_map]
  cases as with
  | nil => exact .nothing AllBlank.nil
  | cons a as =>
    have hlisted := listed_intercalate h (List.cons_ne_nil a as) AllBlank.nil AllBlank.nil
    rw [List.nil_append, List.append_nil] at hlisted
    exact .items hlisted

theorem allBlank_indent (level : Nat) : AllBlank (indent level).toList := by
  rw [indent, String.toList_ofList]
  intro c hc
  rw [List.eq_of_mem_replicate hc]
  rfl

theorem within_spread (h : ∀ a ∈ as, P a (text a).toList) (level : Nat) (opening closing : String) :
    ∃ t, (spread level opening closing (as.map text)).toList = opening.toList ++ (t ++ closing.toList) ∧
      Within P as t := by
  cases as with
  | nil => exact ⟨[], by simp [spread], .nothing AllBlank.nil⟩
  | cons a as =>
    have hgap : AllBlank ('\n' :: (indent (level + 1)).toList) := .cons rfl (allBlank_indent _)
    have hlast : AllBlank ('\n' :: (indent level).toList) := .cons rfl (allBlank_indent _)
    refine ⟨_, ?_, .items (listed_intercalate h (List.cons_ne_nil a as) hgap hlast)⟩
    simp [spread, String.toList_intercalate, Function.comp_def]

end Lists

theorem spells_field {v : Json} {text : String} (hv : Spells v text.toList) (name : String) {colon : String}
    {before : List Char} (hcolon : colon.toList = ':' :: before) (hbefore : AllBlank before) :
    SpellsField Spells (name, v) (quote name ++ colon ++ text).toList := by
  have htext : (quote name ++ colon ++ text).toList =
      '"' :: (name.toList.flatMap (fun c => (escape c).toList) ++ '"' :: ([] ++ ':' :: (before ++ text.toList))) := by
    simp [toList_quote, hcolon]
  rw [htext]
  exact .field (spellsString_flatMap_escape name.toList) AllBlank.nil hbefore hv

/-! ## Both texts -/

/-- **The text without blanks spells its value.** -/
theorem spells_compact (j : Json) : Spells j (compact j).toList := by
  induction j using parts_induction with
  | null =>
    rw [compact]
    exact .null
  | bool b =>
    rw [compact]
    cases b with
    | false => exact .no
    | true => exact .yes
  | num i =>
    rw [compact]
    exact .num (spells_integer i)
  | str s =>
    rw [compact]
    exact spells_quote s
  | arr items ih =>
    obtain ⟨t, ht, hwithin⟩ := within_intercalate ih "[" "]"
    rw [compact, ht]
    exact .arr hwithin
  | obj fields ih =>
    have hfields : ∀ f ∈ fields, SpellsField Spells f (quote f.1 ++ ":" ++ compact f.2).toList := fun f hf =>
      spells_field (ih f hf) f.1 rfl AllBlank.nil
    obtain ⟨t, ht, hwithin⟩ := within_intercalate hfields "\x7b" "\x7d"
    rw [compact, ht]
    exact .obj hwithin

/-- **The text over lines spells its value**, at whatever level it stands. -/
theorem spells_prettyAt (j : Json) (level : Nat) : Spells j (prettyAt level j).toList := by
  induction j using parts_induction generalizing level with
  | null =>
    rw [prettyAt]
    exact .null
  | bool b =>
    rw [prettyAt]
    cases b with
    | false => exact .no
    | true => exact .yes
  | num i =>
    rw [prettyAt]
    exact .num (spells_integer i)
  | str s =>
    rw [prettyAt]
    exact spells_quote s
  | arr items ih =>
    obtain ⟨t, ht, hwithin⟩ := within_spread (fun j hj => ih j hj (level + 1)) level "[" "]"
    rw [prettyAt, ht]
    exact .arr hwithin
  | obj fields ih =>
    have hfields : ∀ f ∈ fields, SpellsField Spells f (quote f.1 ++ ": " ++ prettyAt (level + 1) f.2).toList :=
      fun f hf => spells_field (ih f hf (level + 1)) f.1 rfl (.cons rfl AllBlank.nil)
    obtain ⟨t, ht, hwithin⟩ := within_spread hfields level "\x7b" "\x7d"
    rw [prettyAt, ht]
    exact .obj hwithin

theorem isTextOf_compact (j : Json) : IsTextOf j.compact j :=
  ⟨[], _, [], by simp, AllBlank.nil, AllBlank.nil, spells_compact j⟩

theorem isTextOf_pretty (j : Json) : IsTextOf j.pretty j :=
  ⟨[], _, [], by simp [pretty], AllBlank.nil, AllBlank.nil, spells_prettyAt j 0⟩

theorem IsTextOf.newline {text : String} {j : Json} (h : IsTextOf text j) : IsTextOf (text ++ "\n") j := by
  obtain ⟨before, t, behind, htext, hbefore, hbehind, hspells⟩ := h
  refine ⟨before, t, behind ++ ['\n'], by simp [htext], hbefore, fun c hc => ?_, hspells⟩
  obtain hc | hc := List.mem_append.1 hc
  · exact hbehind c hc
  · rw [List.mem_singleton.1 hc]
    rfl

end Json
end CilThunk
