import CilThunk.Code.Buffer
import CilThunk.Intrinsic
/-!
# Method bodies

The finished form of one method, with all that a module writer wants to know of it.  A thunk fills in little: it has
no locals, no handlers and no debug information, and its call refers to a row of the StandAloneSig table.
-/
namespace CilThunk

/-- The identity of a body for the debugger: the method's number within a generation of the module. -/
structure DebugId where
  ordinal : Int32
  generation : UInt32
  deriving DecidableEq, Repr

/-- The identity of a method that is not followed through later generations. -/
def DebugId.untracked (generation : UInt32) : DebugId := ⟨-1, generation⟩

/-- A local variable and the stretch of code it is valid in. -/
structure LocalVariable where
  name : String
  slot : UInt16
  scopeStart : UInt32
  scopeEnd : UInt32
  deriving DecidableEq, Repr

/-- The place in the source text that an offset of the code comes from. -/
structure SequencePoint where
  offset : UInt32
  line : UInt32
  column : UInt16
  deriving DecidableEq, Repr

/-- A stretch of code and the slots of the locals declared in it. -/
structure LocalScope where
  start : UInt32
  stop : UInt32
  locals : List UInt16
  deriving DecidableEq, Repr

/-- A guarded stretch of code and the handler for it. -/
structure HandlerRegion where
  tryOffset : UInt32
  tryLength : UInt32
  handlerOffset : UInt32
  handlerLength : UInt32
  deriving DecidableEq, Repr

structure MethodBody where
  code : List UInt8
  maxStack : UInt16
  parent : UInt32
  debugId : DebugId
  locals : List LocalVariable := []
  sequencePoints : List SequencePoint := []
  handlers : List HandlerRegion := []
  scopes : List LocalScope := []
  hasDynamicLocals : Bool := false
  stateMachine? : Option String := none
  slot? : Option Slot := none
  convention : Convention := .default
  deriving DecidableEq

namespace MethodBody

def size (b : MethodBody) : Nat := b.code.length

def thunk (code : SealedCode) (parent generation : UInt32) (slot : Slot) (convention : Convention) : MethodBody where
  code := code.bytes
  maxStack := code.maxStack
  parent := parent
  debugId := .untracked generation
  slot? := some slot
  convention := convention

end MethodBody
end CilThunk
