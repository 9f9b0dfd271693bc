import CilThunk.Code.Buffer
import CilThunk.Code.Decode
/-!
# Verification of finished code

The code is read back and run on stack heights alone.  A body is accepted if its one return is its last instruction,
with at most the returned value on the stack; each `tail.` is followed by a call and then the return; each call has
a site of its offset and token, the first such site giving its effect; and no height falls below zero or exceeds the
declared bound.  The first instruction to break a rule is blamed.

Heights are 32-bit: `charge` faults where a sum leaves that range, or where the number of values that were missing
cannot be told because the effect has no negation.
-/
namespace CilThunk

inductive VerifyError
  | undecodable (e : DecodeError)
  | emptyBody
  | stackUnderflow (offset : Nat) (required actual : Int)
  | maxStackExceeded (offset : Nat) (height : Int) (limit : UInt16)
  | unknownCallSite (offset : Nat) (token : Token)
  | misplacedTailMark (offset : Nat)
  | unbalancedReturn (offset : Nat) (height : Int)
  | codeAfterReturn (offset : Nat)
  | missingReturn
  deriving DecidableEq, Repr

namespace VerifyError

open Code Text in
def message : VerifyError → String
  | undecodable e => e.message
  | emptyBody => "empty method body"
  | stackUnderflow offset required actual =>
    "stack underflow at " ++ label offset ++ ": requires " ++ integer required ++ ", only " ++ integer actual ++
      " on stack"
  | maxStackExceeded offset height limit =>
    "stack height " ++ integer height ++ " at " ++ label offset ++ " exceeds max stack " ++ decimal limit.toNat
  | unknownCallSite offset token =>
    "calli at " ++ label offset ++ " references unknown call site " ++ token.text
  | misplacedTailMark offset => "tail. prefix at " ++ label offset ++ " is not followed by calli and ret"
  | unbalancedReturn offset height => "ret at " ++ label offset ++ " with " ++ integer height ++ " values on the stack"
  | codeAfterReturn offset => "instruction after ret at " ++ label offset
  | missingReturn => "method body does not end with ret"

end VerifyError

namespace Verify

/-- The height after an effect of `delta` at `offset`. -/
def charge (limit : UInt16) (offset : Nat) (height : Int) (delta : Int32) : Except (Halt VerifyError) Int :=
  let next := height + delta.toInt
  if ¬ FitsInt32 next then .error (.broken .addOverflow)
  else if next < 0 then
    if FitsInt32 (-delta.toInt) then .error (.refused (.stackUnderflow offset (-delta.toInt) height))
    else .error (.broken .negateOverflow)
  else if limit.toNat < next then .error (.refused (.maxStackExceeded offset next limit))
  else .ok next

/-- The site of a call: the first of its offset and token. -/
def siteOf? (sites : List CallSite) (offset : Nat) (token : Token) : Option CallSite :=
  sites.find? (fun site => site.offset == offset && site.token == token)

/-- The code after a `tail.` goes on with a call and a return. -/
def isTailCall : List (Nat × Instruction) → Bool
  | (_, .calli _) :: (_, .ret) :: _ => true
  | _ => false

/-- The rest of a body, from stack height `height` on. -/
def run (limit : UInt16) (sites : List CallSite) (height : Int) :
    List (Nat × Instruction) → Except (Halt VerifyError) Unit
  | [] => .error (.refused .missingReturn)
  | (offset, .ret) :: rest =>
    if 1 < height then .error (.refused (.unbalancedReturn offset height))
    else
      match rest with
      | [] => .ok ()
      | (next, _) :: _ => .error (.refused (.codeAfterReturn next))
  | (offset, .ldarg _) :: rest =>
    match charge limit offset height 1 with
    | .error halt => .error halt
    | .ok height => run limit sites height rest
  | (offset, .tail) :: rest =>
    if isTailCall rest then run limit sites height rest
    else .error (.refused (.misplacedTailMark offset))
  | (offset, .calli token) :: rest =>
    match siteOf? sites offset token with
    | none => .error (.refused (.unknownCallSite offset token))
    | some site =>
      match charge limit offset height site.adjustment with
      | .error halt => .error halt
      | .ok height => run limit sites height rest

end Verify

def verify (code : List UInt8) (maxStack : UInt16) (sites : List CallSite) : Except (Halt VerifyError) Unit :=
  match Code.decode code with
  | .error e => .error (.refused (.undecodable e))
  | .ok [] => .error (.refused .emptyBody)
  | .ok is => Verify.run maxStack sites 0 is

def SealedCode.verify (c : SealedCode) : Except (Halt VerifyError) Unit :=
  CilThunk.verify c.bytes c.maxStack c.callSites

end CilThunk
