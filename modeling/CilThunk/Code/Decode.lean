import CilThunk.Code.Instruction
/-!
# Reading code back

`fetch` reads one instruction off the front of the code and says how many bytes it took, so that the next one starts
where this one ended.  Loads are read in every form, also in a longer one than `Instruction.bytes` would choose.
Code that stops inside an instruction is told from code that can be no instruction, and the offset of the failure goes
with it: of the operand that is missing, or of the instruction that is none.
-/
namespace CilThunk

inductive DecodeError
  /-- No instruction starts so.  Two-byte codes are given as one number, the first byte on top. -/
  | invalidOpcode (offset : Nat) (opcode : UInt16)
  /-- The code ends where a byte has to be. -/
  | unexpectedEnd (offset : Nat)
  deriving DecidableEq, Repr

open Text in
def DecodeError.message : DecodeError → String
  | invalidOpcode offset opcode => "invalid opcode " ++ hexMarked 2 opcode.toNat ++ " at offset " ++ decimal offset
  | unexpectedEnd offset => "unexpected end of code at offset " ++ decimal offset

namespace Code

/-- An instruction at the front of some code, its length there, and the code after it. -/
structure Fetched where
  instruction : Instruction
  width : Nat
  rest : List UInt8
  deriving DecidableEq, Repr

open LittleEndian in
/-- The instruction at the front of the code, where the code starts at `offset` of the whole. -/
def fetch (offset : Nat) : List UInt8 → Except DecodeError Fetched
  | [] => .error (.unexpectedEnd offset)
  | op :: rest =>
    if 0x02 ≤ op ∧ op ≤ 0x05 then .ok ⟨.ldarg (op - 0x02).toUInt16, 1, rest⟩
    else if op = 0x0E then
      match rest with
      | n :: rest => .ok ⟨.ldarg n.toUInt16, 2, rest⟩
      | [] => .error (.unexpectedEnd (offset + 1))
    else if op = 0x29 then
      match rest with
      | b₀ :: b₁ :: b₂ :: b₃ :: rest => .ok ⟨.calli ⟨ofBytes32 b₀ b₁ b₂ b₃⟩, 5, rest⟩
      | _ => .error (.unexpectedEnd (offset + 1))
    else if op = 0x2A then .ok ⟨.ret, 1, rest⟩
    else if op = 0xFE then
      match rest with
      | [] => .error (.unexpectedEnd (offset + 1))
      | second :: rest =>
        if second = 0x09 then
          match rest with
          | lo :: hi :: rest => .ok ⟨.ldarg (ofBytes16 lo hi), 4, rest⟩
          | _ => .error (.unexpectedEnd (offset + 2))
        else if second = 0x14 then .ok ⟨.tail, 2, rest⟩
        else .error (.invalidOpcode offset (0xFE00 + second.toUInt16))
    else .error (.invalidOpcode offset op.toUInt16)

/-- The width is exactly what was read, and it is never zero. -/
theorem fetch_width {offset : Nat} {code : List UInt8} {f : Fetched} (h : fetch offset code = .ok f) :
    0 < f.width ∧ code.length = f.width + f.rest.length := by
  unfold fetch at h
  repeat' split at h
  all_goals cases h
  all_goals simp +arith

theorem fetch_shortens {offset : Nat} {code : List UInt8} {f : Fetched} (h : fetch offset code = .ok f) :
    f.rest.length < code.length := by
  have := fetch_width h
  omega

/-- The instructions of the code from `offset` on, after those read before, which come last one first. -/
def decodeOnto (read : List (Nat × Instruction)) (offset : Nat) (code : List UInt8) :
    Except DecodeError (List (Nat × Instruction)) :=
  match code with
  | [] => .ok read.reverse
  | op :: tail =>
    match h : fetch offset (op :: tail) with
    | .error e => .error e
    | .ok f =>
      have := fetch_shortens h
      decodeOnto ((offset, f.instruction) :: read) (offset + f.width) f.rest
termination_by code.length
decreasing_by exact this

/-- All instructions of a body, each with the offset it starts at. -/
def decode (code : List UInt8) : Except DecodeError (List (Nat × Instruction)) := decodeOnto [] 0 code

/-- The one instruction at an offset of the code, wherever the others start. -/
def decodeAt (code : List UInt8) (offset : Nat) : Except DecodeError Instruction :=
  (fetch offset (code.drop offset)).map (·.instruction)

end Code
end CilThunk
