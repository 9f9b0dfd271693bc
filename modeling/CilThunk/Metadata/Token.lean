import CilThunk.Fault
/-!
# Metadata tokens and signature rows

A token is a 32-bit word inside the code: its high byte names a metadata table, its low 24 bits a row of it.  Rows
count from one, so row zero marks a token that refers to nothing.  A thunk's call refers to its call-site signature,
a row of the StandAloneSig table, and `Slot` is such a row number: zero is not representable, while a number past the
24 bits is, and faults only when a token is made of it (`Token.standAloneSig`).
-/
namespace CilThunk

/-- The tables that tokens of thunk bodies refer to. -/
inductive Table
  | methodDef
  | standAloneSig
  deriving DecidableEq, Repr

namespace Table

def byte : Table → UInt8
  | methodDef => 0x06
  | standAloneSig => 0x11

def ofByte? : UInt8 → Option Table
  | 0x06 => some methodDef
  | 0x11 => some standAloneSig
  | _ => none

/-- The table's byte, moved to where a token holds it. -/
def tag (t : Table) : UInt32 := t.byte.toUInt32 * 16777216

def name : Table → String
  | methodDef => "MethodDef"
  | standAloneSig => "StandAloneSig"

end Table

/-- The largest row number that a token can hold. -/
def maxRow : UInt32 := 0xFFFFFF

structure Token where
  raw : UInt32
  deriving DecidableEq, Repr

namespace Token

def row (t : Token) : UInt32 := t.raw % 16777216

def table? (t : Token) : Option Table := Table.ofByte? (t.raw / 16777216).toUInt8

def isNil (t : Token) : Bool := t.row == 0

def text (t : Token) : String := Text.hexMarked 8 t.raw.toNat

/-- The token of a row of the StandAloneSig table. -/
def standAloneSig (row : UInt32) : Except Fault Token :=
  if row ≤ maxRow then .ok ⟨Table.standAloneSig.tag + row⟩ else .error (.rowTooLarge row)

end Token

structure Slot where
  row : UInt32
  row_ne_zero : row ≠ 0 := by decide
  deriving DecidableEq

namespace Slot

def ofRow? (row : UInt32) : Option Slot :=
  if h : row = 0 then none else some ⟨row, h⟩

def token (s : Slot) : Except Fault Token := Token.standAloneSig s.row

end Slot
end CilThunk
