import CilThunk.Metadata.Token
import CilThunk.Code.LittleEndian
/-!
# The instructions of a thunk

Argument loads, the `tail.` mark, the indirect call and the return: all that an indirect-call body is made of.
`bytes` writes each in its shortest form, `size` is the length of that form, and code is the concatenation of its
instructions' bytes.
-/
namespace CilThunk

/-- A place in the code, as messages and listings write it. -/
def Code.label (offset : Nat) : String := "IL_" ++ Text.hexPadded 4 offset

inductive Instruction
  /-- Pushes an argument. -/
  | ldarg (index : UInt16)
  /-- Marks the call after it as a tail call. -/
  | tail
  /-- Calls through a function pointer, by the signature that the token refers to. -/
  | calli (token : Token)
  | ret
  deriving DecidableEq, Repr

namespace Instruction

def name : Instruction → String
  | ldarg n =>
    if n ≤ 3 then "ldarg." ++ Text.decimal n.toNat
    else if n ≤ 255 then "ldarg.s"
    else "ldarg"
  | tail => "tail."
  | calli _ => "calli"
  | ret => "ret"

/-- The name and the operand, unless the name has the operand in it. -/
def text : Instruction → String
  | ldarg n => if n ≤ 3 then name (ldarg n) else name (ldarg n) ++ " " ++ Text.decimal n.toNat
  | calli t => "calli " ++ t.text
  | i => i.name

/-- The change of the stack height where the instruction alone decides it. -/
def stackEffect? : Instruction → Option Int
  | ldarg _ => some 1
  | tail => some 0
  | calli _ => none
  | ret => none

def size : Instruction → Nat
  | ldarg n => if n ≤ 3 then 1 else if n ≤ 255 then 2 else 4
  | tail => 2
  | calli _ => 5
  | ret => 1

open LittleEndian in
def bytes : Instruction → List UInt8
  | ldarg n =>
    if n ≤ 3 then [0x02 + n.toUInt8]
    else if n ≤ 255 then [0x0E, n.toUInt8]
    else 0xFE :: 0x09 :: bytes16 n
  | tail => [0xFE, 0x14]
  | calli t => 0x29 :: bytes32 t.raw
  | ret => [0x2A]

theorem length_bytes (i : Instruction) : i.bytes.length = i.size := by
  cases i with
  | ldarg n =>
    simp only [bytes, size]
    split
    · rfl
    · split <;> rfl
  | tail => rfl
  | calli t => rfl
  | ret => rfl

/-- The code of a list of instructions. -/
def encodeAll (is : List Instruction) : List UInt8 := is.flatMap bytes

end Instruction
end CilThunk
