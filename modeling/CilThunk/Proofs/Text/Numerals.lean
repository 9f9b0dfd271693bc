import CilThunk.Text.Number
import CilThunk.Toml.Scalar
import Mathlib
/-!
# Numerals — numbers told from their texts

A numeral is made of letters and digits, so that it ends where any other character stands, and it reads back as its
number, zeros in front or not (`ofDigits_toDigits`, `ofDigits_leftpad`).  So numerals are words that are each told apart
in a text where something else stands behind them (`DistinctWords.field_inj`).
-/
namespace CilThunk
namespace Text

/-! ## Letters and digits -/

def Alphanumeric (s : List Char) : Prop := ∀ c ∈ s, c.isAlphanum = true

theorem Alphanumeric.not_mem {s : List Char} (h : Alphanumeric s) {c : Char} (hc : c.isAlphanum = false) : c ∉ s :=
  fun hmem => by
    have := h c hmem
    rw [hc] at this
    cases this

/-- A word is told from what follows it, if that starts with a character that is in no word. -/
theorem append_cons_inj {word : Char → Bool} {s t : List Char} {c d : Char} {after behind : List Char}
    (hs : ∀ x ∈ s, word x = true) (ht : ∀ x ∈ t, word x = true) (hc : word c = false) (hd : word d = false)
    (h : s ++ c :: after = t ++ d :: behind) : s = t ∧ c = d ∧ after = behind := by
  have hst : s = t := by
    have := congrArg (List.takeWhile word) h
    simpa [List.takeWhile_append_of_pos hs, List.takeWhile_append_of_pos ht, hc, hd] using this
  subst hst
  exact ⟨rfl, List.cons.inj (List.append_cancel_left h)⟩

theorem append_cons_inj_of_not_mem {s t after behind : List Char} {c : Char} (hs : c ∉ s) (ht : c ∉ t)
    (h : s ++ c :: after = t ++ c :: behind) : s = t ∧ after = behind := by
  have hword : ∀ {l : List Char}, c ∉ l → ∀ x ∈ l, (x != c) = true := fun hl x hx =>
    bne_iff_ne.2 fun hxc => hl (hxc ▸ hx)
  obtain ⟨hst, -, hrest⟩ := append_cons_inj (hword hs) (hword ht) (bne_self_eq_false c) (bne_self_eq_false c) h
  exact ⟨hst, hrest⟩

/-- Texts of letters and digits, each of another value. -/
structure DistinctWords {α : Type} (text : α → String) : Prop where
  injective : Function.Injective text
  alphanumeric : ∀ a, Alphanumeric (text a).toList

/-- **A field tells its value and ends before what follows it**, if no letter and no digit does. -/
theorem DistinctWords.field_inj {α : Type} {text : α → String} (words : DistinctWords text) {a b : α} {c d : Char}
    {lead after behind : List Char} (hc : c.isAlphanum = false) (hd : d.isAlphanum = false)
    (h : lead ++ ((text a).toList ++ c :: after) = lead ++ ((text b).toList ++ d :: behind)) :
    a = b ∧ c = d ∧ after = behind := by
  obtain ⟨htext, hrest⟩ :=
    append_cons_inj (words.alphanumeric a) (words.alphanumeric b) hc hd (List.append_cancel_left h)
  exact ⟨words.injective (String.toList_inj.1 htext), hrest⟩

/-! ## Digits -/

theorem isAlphanum_digitChar : ∀ d < 16, d.digitChar.isAlphanum = true := by decide

theorem hexValue_digitChar : ∀ d < 16, Toml.hexValue d.digitChar = d := by decide

theorem alphanumeric_toDigits {base : Nat} (h1 : 1 < base) (h16 : base ≤ 16) (n : Nat) :
    Alphanumeric (Nat.toDigits base n) := by
  induction n using Nat.strong_induction_on with
  | _ n ih =>
    rw [Nat.toDigits_eq_if h1]
    split
    · rename_i hn
      intro c hc
      cases List.mem_singleton.1 hc
      exact isAlphanum_digitChar n (by omega)
    · rename_i hn
      have hmod : n % base < base := Nat.mod_lt n (by omega)
      refine List.forall_mem_append.2 ⟨ih _ (Nat.div_lt_self (by omega) h1), fun c hc => ?_⟩
      cases List.mem_singleton.1 hc
      exact isAlphanum_digitChar _ (by omega)

/-- **A numeral reads back as its number**, in the bases past ten too. -/
theorem ofDigits_toDigits {base : Nat} (h1 : 1 < base) (h16 : base ≤ 16) (n : Nat) :
    Toml.ofDigits base (Nat.toDigits base n) = n := by
  induction n using Nat.strong_induction_on with
  | _ n ih =>
    rw [Nat.toDigits_eq_if h1]
    split
    · rename_i hn
      have hvalue := hexValue_digitChar n (by omega)
      simp [Toml.ofDigits, hvalue]
    · rename_i hn
      have hmod : n % base < base := Nat.mod_lt n (by omega)
      have hvalue := hexValue_digitChar (n % base) (by omega)
      have ih := ih (n / base) (Nat.div_lt_self (by omega) h1)
      unfold Toml.ofDigits at ih ⊢
      rw [List.foldl_append, ih, List.foldl_cons, List.foldl_nil, hvalue]
      exact Nat.div_add_mod n base

theorem ofDigits_replicate_append (base count : Nat) (digits : List Char) :
    Toml.ofDigits base (List.replicate count '0' ++ digits) = Toml.ofDigits base digits := by
  induction count with
  | zero => rfl
  | succ count ih =>
    unfold Toml.ofDigits at ih ⊢
    rw [List.replicate_succ, List.cons_append, List.foldl_cons, show base * 0 + Toml.hexValue '0' = 0 from rfl, ih]

/-- Zeros in front make no difference. -/
theorem ofDigits_leftpad (base width : Nat) (digits : List Char) :
    Toml.ofDigits base (digits.leftpad width '0') = Toml.ofDigits base digits :=
  ofDigits_replicate_append base _ digits

theorem alphanumeric_leftpad {digits : List Char} (h : Alphanumeric digits) (width : Nat) :
    Alphanumeric (digits.leftpad width '0') := by
  refine List.forall_mem_append.2 ⟨fun c hc => ?_, h⟩
  cases List.eq_of_mem_replicate hc
  decide

/-! ## Numerals -/

theorem distinctWords_decimal : DistinctWords decimal where
  injective _ _ h := Function.LeftInverse.injective (ofDigits_toDigits (by decide) (by decide)) (String.ofList_injective h)
  alphanumeric n := by
    rw [decimal, String.toList_ofList]
    exact alphanumeric_toDigits (by decide) (by decide) n

theorem distinctWords_padded {base : Nat} (h1 : 1 < base) (h16 : base ≤ 16) (width : Nat) :
    DistinctWords fun n => String.ofList ((Nat.toDigits base n).leftpad width '0') where
  injective n m h := by
    have := congrArg (Toml.ofDigits base) (String.ofList_injective h)
    rwa [ofDigits_leftpad, ofDigits_leftpad, ofDigits_toDigits h1 h16, ofDigits_toDigits h1 h16] at this
  alphanumeric n := by
    rw [String.toList_ofList]
    exact alphanumeric_leftpad (alphanumeric_toDigits h1 h16 n) width

theorem distinctWords_decimalPadded (width : Nat) : DistinctWords (decimalPadded width) :=
  distinctWords_padded (by decide) (by decide) width

theorem distinctWords_hexPadded (width : Nat) : DistinctWords (hexPadded width) :=
  distinctWords_padded (by decide) (by decide) width

@[simp]
theorem newline_not_mem_decimal (n : Nat) : '\n' ∉ (decimal n).toList :=
  (distinctWords_decimal.alphanumeric n).not_mem rfl

@[simp]
theorem newline_not_mem_hexPadded (width n : Nat) : '\n' ∉ (hexPadded width n).toList :=
  ((distinctWords_hexPadded width).alphanumeric n).not_mem rfl

@[simp]
theorem newline_not_mem_signed (i : Int) : '\n' ∉ (signed i).toList := by
  cases i <;> simp [signed]

end Text
end CilThunk
