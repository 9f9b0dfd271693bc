import CilThunk.Body
import CilThunk.Code.LittleEndian
/-!
# The stream of method bodies

Bodies are written one after the other, each behind a header.  A small one gets a header of one byte: the low two bits
are `10`, the other six its size.  All others get twelve bytes (ECMA-335 II.25.4), which have to start at a multiple of
four, so zeros are written up to there.  Sections for handlers are not written, and a body that needs them is outside
the contract.
-/
namespace CilThunk
namespace BodyStream

open LittleEndian

/-- Whether the header of one byte is enough: it has no room for a stack bound over eight or for locals. -/
def fitsTiny (b : MethodBody) : Bool :=
  b.size < 64 && b.maxStack ≤ 8 && b.locals.isEmpty && b.handlers.isEmpty

def tinyHeader (b : MethodBody) : List UInt8 := [UInt8.ofNat (4 * b.size + 2)]

/-- The format `11`, three words of header, and bit four for locals that start out as zero. -/
def fatFlags (b : MethodBody) : UInt16 := if b.locals.isEmpty then 0x3003 else 0x3013

/-- Flags, stack bound, size and the token of the locals' signature, zero for none. -/
def fatHeader (b : MethodBody) (localSignature? : Option Token) : List UInt8 :=
  bytes16 (fatFlags b) ++ bytes16 b.maxStack ++ bytes32 (UInt32.ofNat b.size) ++
    bytes32 ((localSignature?.map (·.raw)).getD 0)

/-- How many zeros there are from a position to the next multiple of four. -/
def padding (position : Nat) : Nat := (4 - position % 4) % 4

/-- What is written of a body: the zeros before it, its header and its code. -/
structure Entry where
  padding : Nat
  header : List UInt8
  code : List UInt8
  deriving DecidableEq, Repr

def Entry.bytes (e : Entry) : List UInt8 := List.replicate e.padding 0 ++ e.header ++ e.code

def Entry.length (e : Entry) : Nat := e.padding + e.header.length + e.code.length

/-- The entry of a body at a position of the stream. -/
def entry (position : Nat) (b : MethodBody) (localSignature? : Option Token) : Except Fault Entry :=
  if b.handlers.isEmpty then
    .ok (if fitsTiny b then ⟨0, tinyHeader b, b.code⟩
      else ⟨padding position, fatHeader b localSignature?, b.code⟩)
  else .error .handlersUnsupported

def encode (b : MethodBody) : Except Fault (List UInt8) := (entry 0 b none).map Entry.bytes

/-- The entries of bodies in a row, each with the position of its header, as far as there is no fault. -/
def entries (position : Nat) : List (MethodBody × Option Token) → Except Fault (List (Nat × Entry))
  | [] => .ok []
  | (b, localSignature?) :: rest =>
    match entry position b localSignature? with
    | .error fault => .error fault
    | .ok e =>
      match entries (position + e.length) rest with
      | .error fault => .error fault
      | .ok es => .ok ((position + e.padding, e) :: es)

/-- The stream with bodies written behind it, and where their headers are. -/
def write (out : List UInt8) (bodies : List (MethodBody × Option Token)) : Except Fault (List UInt8 × List Nat) :=
  (entries out.length bodies).map (fun es => (out ++ es.flatMap (·.2.bytes), es.map (·.1)))

end BodyStream
end CilThunk
