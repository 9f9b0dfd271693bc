import CilThunk.Code.Buffer
import CilThunk.Intrinsic
/-!
# Log records

Lowering reports what it does as records, in order.  A record says what happened; its level, the part of the program
it comes from and its text follow from that.
-/
namespace CilThunk

inductive Level
  | warn
  | debug
  | trace
  deriving DecidableEq, Repr

def Level.text : Level → String
  | warn => "WARN"
  | debug => "DEBUG"
  | trace => "TRACE"

inductive Record
  | emitted (e : Emission)
  /-- Debug code was asked for, and thunks have none. -/
  | uninstrumented (name : String)
  /-- A name that goes on after the stem, but not with a known ending. -/
  | unknownEnding (name : String)
  | lowered (name : String) (kind : Kind) (convention : Convention) (slot : Slot) (maxStack : UInt16) (size : Nat)
  /-- A stored body took the place of another. -/
  | replaced (method : UInt32)
  deriving DecidableEq

namespace Record

def level : Record → Level
  | emitted _ => .trace
  | uninstrumented _ => .warn
  | unknownEnding _ => .debug
  | lowered .. => .debug
  | replaced _ => .warn

/-- The part of the program that logs it. -/
def target : Record → String
  | emitted _ => "calli::il::builder"
  | uninstrumented _ => "calli::intrinsic::assemble"
  | unknownEnding _ => "calli::intrinsic::assemble"
  | lowered .. => "calli::intrinsic::assemble"
  | replaced _ => "calli::module"

open Text in
def text : Record → String
  | emitted e =>
    Code.label e.offset ++ ": " ++ e.instruction.text ++ " (stack " ++ signed e.delta.toInt ++ ")"
  | uninstrumented name => "`" ++ name ++ "`: intrinsics are always lowered without debug instrumentation"
  | unknownEnding name => "`" ++ name ++ "` has no recognized convention suffix; using default"
  | lowered name kind convention slot maxStack size =>
    "lowered `" ++ name ++ "`: " ++ kind.text ++ ", convention " ++ convention.text ++ ", sig " ++
      decimal slot.row.toNat ++ ", maxstack " ++ decimal maxStack.toNat ++ ", " ++ decimal size ++ " bytes"
  | replaced method => "method body for MethodDef row " ++ decimal method.toNat ++ " replaced"

end Record

/-- The records of all that was appended to a buffer. -/
def Buffer.records (b : Buffer) : List Record := b.log.toList.map .emitted

end CilThunk
