import CilThunk.Code.Instruction
import CilThunk.Settings
/-!
# The code buffer

Code is built by operations, each of which appends one instruction and charges its effect to the evaluation stack.
The buffer keeps the depth of the stack and the greatest depth so far, which becomes the body's stack bound, and a
site for every call, since the effect of a call cannot be read off the code.

An operation appends first and charges then: if the charge faults, the instruction is in the code and in the log, and
the buffer is handed back beside the fault as it stands.
-/
namespace CilThunk

/-- A call in the code: where it is, the signature it refers to and its effect on the stack. -/
structure CallSite where
  offset : Nat
  token : Token
  adjustment : Int32
  deriving DecidableEq, Repr

inductive Operation
  | loadArgument (index : UInt16)
  | tailMark
  | call (adjustment : Int32) (token : Token)
  | leave (isVoid : Bool)
  deriving DecidableEq, Repr

namespace Operation

def instruction : Operation → Instruction
  | loadArgument index => .ldarg index
  | tailMark => .tail
  | call _ token => .calli token
  | leave _ => .ret

/-- What the operation does to the depth of the stack.  A return takes the value it returns. -/
def delta : Operation → Int32
  | loadArgument _ => 1
  | tailMark => 0
  | call adjustment _ => adjustment
  | leave isVoid => if isVoid then 0 else -1

def callSites (offset : Nat) : Operation → Array CallSite
  | call adjustment token => #[⟨offset, token, adjustment⟩]
  | _ => #[]

end Operation

/-- A log entry: an instruction, where it was appended and what it was charged. -/
structure Emission where
  offset : Nat
  instruction : Instruction
  delta : Int32
  deriving DecidableEq, Repr

structure Buffer where
  optimization : Optimization
  code : Array UInt8 := #[]
  log : Array Emission := #[]
  callSites : Array CallSite := #[]
  depth : Int := 0
  maxDepth : Int := 0
  deriving DecidableEq, Repr

/-- Finished code: what a body is made of and what it is verified against. -/
structure SealedCode where
  bytes : List UInt8
  maxStack : UInt16
  callSites : List CallSite
  deriving DecidableEq, Repr

namespace Buffer

def offset (b : Buffer) : Nat := b.code.size

def instructions (b : Buffer) : List Instruction := b.log.toList.map (·.instruction)

/-- Appends an instruction, at no charge. -/
def append (b : Buffer) (op : Operation) : Buffer :=
  let start := b.offset
  { b with
    code := b.code ++ op.instruction.bytes
    log := b.log.push ⟨start, op.instruction, op.delta⟩
    callSites := b.callSites ++ op.callSites start }

/-- Charges a change of depth.  Below zero the new depth is kept and the bound is not touched. -/
def charge (b : Buffer) (delta : Int32) : Buffer × Option Fault :=
  let depth := b.depth + delta.toInt
  if ¬ FitsInt32 depth then (b, some .addOverflow)
  else if depth < 0 then ({ b with depth := depth }, some (.stackUnderflow depth delta.toInt))
  else ({ b with depth := depth, maxDepth := max b.maxDepth depth }, none)

def emit (b : Buffer) (op : Operation) : Buffer × Option Fault := (b.append op).charge op.delta

/-- Operations in order, up to and including the first that faults. -/
def emitAll (b : Buffer) : List Operation → Buffer × Option Fault
  | [] => (b, none)
  | op :: ops =>
    match b.emit op with
    | (b, none) => b.emitAll ops
    | (b, some fault) => (b, some fault)

/-- Freezes the code, unless its stack bound has no place in a method header. -/
def freeze (b : Buffer) : Except Fault SealedCode :=
  if b.maxDepth ≤ 65535 then .ok ⟨b.code.toList, UInt16.ofNat b.maxDepth.toNat, b.callSites.toList⟩
  else .error (.maxStackTooLarge b.maxDepth)

end Buffer
end CilThunk
