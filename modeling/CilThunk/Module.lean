import CilThunk.Body.Store
import CilThunk.Code.Verify
import CilThunk.Declaration
import CilThunk.Record
/-!
# The module under construction

All thunks of a module share its counter of StandAloneSig rows and its store of bodies.  Rows are handed out one after
the other from the first on, and none past the largest a token can hold; from then on every request is refused.  A row
is handed out before its signature is recorded, so between the two the table is short of one.
-/
namespace CilThunk

/-- A row of the StandAloneSig table: how a call site calls. -/
structure CallSignature where
  slot : Slot
  convention : Convention
  arity : UInt16
  isVoid : Bool
  deriving DecidableEq

inductive LowerError
  | signatureTableExhausted
  | rejected (name : String) (source : VerifyError)
  deriving DecidableEq

def LowerError.message : LowerError → String
  | signatureTableExhausted =>
    "standalone signature table exhausted (limit is " ++ Text.decimal maxRow.toNat ++ " rows)"
  | rejected name source => "emitted code for `" ++ name ++ "` failed verification: " ++ source.message

structure Module where
  generation : UInt32
  firstRow : UInt32
  nextRow : UInt32
  recorded : Array CallSignature := #[]
  bodies : BodyStore := {}
  deriving DecidableEq

namespace Module

/-- An empty module that hands out rows from `firstRow` on. -/
def new (generation firstRow : UInt32) : Except Fault Module :=
  if firstRow = 0 then .error .zeroFirstRow
  else .ok { generation := generation, firstRow := firstRow, nextRow := firstRow }

def ofSettings (s : Settings) : Except Fault Module := new s.generation s.firstSlot

def allocate (m : Module) : Except LowerError (Slot × Module) :=
  if m.nextRow ≤ maxRow then
    match Slot.ofRow? m.nextRow with
    | some slot => .ok (slot, { m with nextRow := m.nextRow + 1 })
    | none => .error .signatureTableExhausted
  else .error .signatureTableExhausted

def allocated (m : Module) : UInt32 := m.nextRow - m.firstRow

def record (m : Module) (signature : CallSignature) : Module :=
  { m with recorded := m.recorded.push signature }

/-- The recorded signatures by row; of one row, in the order they were recorded. -/
def signatures (m : Module) : List CallSignature :=
  m.recorded.toList.mergeSort (fun a b => a.slot.row ≤ b.slot.row)

/-- Stores a body, and reports it if it replaces another. -/
def store (m : Module) (method : UInt32) (body : MethodBody) : Module × List Record :=
  ({ m with bodies := m.bodies.insert method body }, if m.bodies.contains method then [.replaced method] else [])

end Module
end CilThunk
