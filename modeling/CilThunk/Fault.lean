import CilThunk.Text.Number
/-!
# Faults — broken contracts

An operation that is called outside its contract, or whose 32-bit arithmetic leaves its range, ends with a fault.
A fault is no answer about the input: it says that the caller is wrong.  What was done before the fault stays done,
so operations that can fault part-way hand back their state beside it.
-/
namespace CilThunk

inductive Fault
  /-- A row number that needs more than the 24 bits a token has for it. -/
  | rowTooLarge (row : UInt32)
  | zeroFirstRow
  | notAnIntrinsic (name : String)
  /-- An evaluation stack that fell below empty, with its depth after the change and the change. -/
  | stackUnderflow (depth delta : Int)
  /-- A stack bound that a method header has no room for. -/
  | maxStackTooLarge (depth : Int)
  | handlersUnsupported
  | addOverflow
  | negateOverflow
  deriving DecidableEq, Repr

namespace Fault

open Text in
def message : Fault → String
  | rowTooLarge row => "row " ++ hexMarked 1 row.toNat ++ " does not fit in a token"
  | zeroFirstRow => "StandAloneSig rows are 1-based"
  | notAnIntrinsic name => "`" ++ name ++ "` is not an intrinsic"
  | stackUnderflow depth delta =>
    "evaluation stack underflow (" ++ integer depth ++ " after " ++ signed delta ++ ")"
  | maxStackTooLarge depth => "max stack " ++ integer depth ++ " exceeds the method header limit"
  | handlersUnsupported => "exception handler sections are not supported"
  | addOverflow => "attempt to add with overflow"
  | negateOverflow => "attempt to negate with overflow"

end Fault

/-- Why a computation ended without a value: it refused its input, or it was called outside its contract. -/
inductive Halt (ε : Type) where
  | refused (e : ε)
  | broken (f : Fault)
  deriving DecidableEq, Repr

/-- What a signed 32-bit word can hold. -/
def FitsInt32 (i : Int) : Prop := -2147483648 ≤ i ∧ i ≤ 2147483647

instance (i : Int) : Decidable (FitsInt32 i) := inferInstanceAs (Decidable (_ ∧ _))

end CilThunk
