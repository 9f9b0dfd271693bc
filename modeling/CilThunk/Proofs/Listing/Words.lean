import CilThunk.Listing
import CilThunk.Proofs.Text.Numerals
/-!
# Words — what the texts of instructions, errors and conventions tell

None of these texts has a line break in it, and each tells which instruction, error or convention it is the text of
(`Instruction.text_injective`, `DecodeError.message_injective`, `Convention.distinctWords_text`).
-/
namespace CilThunk

open Text

/-! ## Conventions -/

namespace Convention

theorem distinctWords_text : DistinctWords text where
  injective a b h := by cases a <;> cases b <;> first | rfl | exact absurd h (by decide)
  alphanumeric convention := by cases convention <;> simp [Alphanumeric, text]

@[simp]
theorem newline_not_mem_text (convention : Convention) : '\n' ∉ convention.text.toList :=
  (distinctWords_text.alphanumeric convention).not_mem rfl

end Convention

/-! ## Instructions -/

@[simp]
theorem Code.newline_not_mem_label (offset : Nat) : '\n' ∉ (Code.label offset).toList := by
  simp [Code.label]

theorem Token.text_injective : Function.Injective Token.text := by
  intro t u h
  have hlists := congrArg String.toList h
  unfold text hexMarked at hlists
  rw [String.toList_append, String.toList_append] at hlists
  have hraw := (distinctWords_hexPadded 8).injective (String.toList_inj.1 (List.append_cancel_left hlists))
  cases t
  cases u
  exact congrArg Token.mk (UInt32.toNat_inj.1 hraw)

namespace Instruction

/-- What a load is called between its stem and the argument. -/
def loadForm (n : UInt16) : List Char := if n ≤ 3 then ['.'] else if n ≤ 255 then ['.', 's', ' '] else [' ']

theorem toList_text_ldarg (n : UInt16) :
    (ldarg n).text.toList = "ldarg".toList ++ (loadForm n ++ (decimal n.toNat).toList) := by
  by_cases h : n ≤ 3
  · simp [text, name, loadForm, h]
  · by_cases h' : n ≤ 255 <;> simp [text, name, loadForm, h, h']

/-- A load's name and its argument are told apart, whatever the two arguments are. -/
theorem loadForm_append_inj {n m : UInt16}
    (h : loadForm n ++ (decimal n.toNat).toList = loadForm m ++ (decimal m.toNat).toList) : n = m := by
  have hblank : ∀ k, ' ' ∉ (decimal k).toList := fun k => (distinctWords_decimal.alphanumeric k).not_mem rfl
  -- One form continues another only by a blank, and a number has none.
  have hdots : ∀ k l, '.' :: (decimal k).toList ≠ '.' :: 's' :: ' ' :: (decimal l).toList := fun k l h =>
    hblank k ((List.cons.inj h).2 ▸ by simp)
  have hform : loadForm n = loadForm m := by
    revert h
    unfold loadForm
    split_ifs <;> intro h <;> first | rfl | exact absurd h (hdots _ _) | exact absurd h.symm (hdots _ _) | cases h
  rw [hform] at h
  exact UInt16.toNat_inj.1 (distinctWords_decimal.injective (String.toList_inj.1 (List.append_cancel_left h)))

/-- An instruction's first letter, which tells its kind. -/
def initial : Instruction → Char
  | ldarg _ => 'l'
  | tail => 't'
  | calli _ => 'c'
  | ret => 'r'

theorem head?_text (i : Instruction) : i.text.toList.head? = some i.initial := by
  cases i with
  | ldarg n => rw [toList_text_ldarg]; rfl
  | tail => rfl
  | calli t => simp [text, initial]
  | ret => rfl

/-- **The text of an instruction tells which it is.** -/
theorem text_injective : Function.Injective text := by
  intro i j h
  have hinitial : i.initial = j.initial := by
    have := congrArg (·.toList.head?) h
    simpa only [head?_text, Option.some.injEq] using this
  cases i <;> cases j
  case ldarg.ldarg n m =>
    have h := congrArg String.toList h
    rw [toList_text_ldarg, toList_text_ldarg] at h
    rw [loadForm_append_inj (List.append_cancel_left h)]
  case tail.tail => rfl
  case calli.calli t u =>
    have h := congrArg String.toList h
    simp only [text, String.toList_append] at h
    rw [Token.text_injective (String.toList_inj.1 (List.append_cancel_left h))]
  case ret.ret => rfl
  -- The others start with different letters.
  all_goals exact absurd hinitial (by simp [initial])

@[simp]
theorem newline_not_mem_text (i : Instruction) : '\n' ∉ i.text.toList := by
  cases i with
  | ldarg n =>
    rw [toList_text_ldarg, loadForm]
    split_ifs <;> simp
  | tail => decide
  | calli t => simp [text, Token.text, hexMarked]
  | ret => decide

end Instruction

/-! ## Errors -/

namespace DecodeError

theorem toList_message_invalidOpcode (offset : Nat) (opcode : UInt16) :
    (invalidOpcode offset opcode).message.toList = "invalid opcode 0x".toList ++
      ((hexPadded 2 opcode.toNat).toList ++ ' ' :: ("at offset ".toList ++ (decimal offset).toList)) := by
  unfold message hexMarked
  simp

theorem toList_message_unexpectedEnd (offset : Nat) :
    (unexpectedEnd offset).message.toList = "unexpected end of code at offset ".toList ++ (decimal offset).toList := by
  unfold message
  rw [String.toList_append]

@[simp]
theorem newline_not_mem_message (e : DecodeError) : '\n' ∉ e.message.toList := by
  cases e with
  | invalidOpcode offset opcode => simp [toList_message_invalidOpcode]
  | unexpectedEnd offset => simp [toList_message_unexpectedEnd]

/-- **The message of an error tells which it is.** -/
theorem message_injective : Function.Injective message := by
  intro e f h
  have h := congrArg String.toList h
  cases e with
  | invalidOpcode offset opcode =>
    rw [toList_message_invalidOpcode] at h
    cases f with
    | invalidOpcode offset' opcode' =>
      rw [toList_message_invalidOpcode] at h
      obtain ⟨hopcode, -, hrest⟩ := (distinctWords_hexPadded 2).field_inj rfl rfl h
      have hoffset := distinctWords_decimal.injective (String.toList_inj.1 (List.append_cancel_left hrest))
      rw [UInt16.toNat_inj.1 hopcode, hoffset]
    | unexpectedEnd offset' =>
      rw [toList_message_unexpectedEnd] at h
      simp at h
  | unexpectedEnd offset =>
    rw [toList_message_unexpectedEnd] at h
    cases f with
    | invalidOpcode offset' opcode' =>
      rw [toList_message_invalidOpcode] at h
      simp at h
    | unexpectedEnd offset' =>
      rw [toList_message_unexpectedEnd] at h
      rw [distinctWords_decimal.injective (String.toList_inj.1 (List.append_cancel_left h))]

end DecodeError

end CilThunk
