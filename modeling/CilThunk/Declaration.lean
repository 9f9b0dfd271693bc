import CilThunk.Intrinsic
/-!
# Method declarations

A declared method: its row, its name, how many parameters it has and whether it returns a value.  The implementing
part of a partial method also has the row of the defining part, and its body belongs to that one.
-/
namespace CilThunk

structure Declaration where
  method : UInt32
  partialDefinition? : Option UInt32 := none
  name : String
  arity : UInt16
  isVoid : Bool
  deriving DecidableEq, Repr

namespace Declaration

def owner (d : Declaration) : UInt32 := d.partialDefinition?.getD d.method

def kind (d : Declaration) : Kind := Kind.ofName d.name

def convention (d : Declaration) : Convention := Convention.ofName d.name

end Declaration

/-- The net effect of a call on the stack: its arguments are taken, its result, if any, is pushed. -/
def stackAdjustment (arity : UInt16) (isVoid : Bool) : Int32 :=
  Int32.ofInt ((if isVoid then 0 else 1) - (arity.toNat : Int))

theorem toInt_stackAdjustment (arity : UInt16) (isVoid : Bool) :
    (stackAdjustment arity isVoid).toInt = (if isVoid then 0 else 1) - (arity.toNat : Int) := by
  have := arity.toNat_lt
  unfold stackAdjustment
  apply Int32.toInt_ofInt_of_le <;> split <;> omega

end CilThunk
