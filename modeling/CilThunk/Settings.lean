/-!
# Settings of a lowering run

The fields a settings document may give, and what holds where it does not give them.  The generation and the first
signature row are what a module starts with: the one goes into the debug identity of every body, the other is where
signatures are recorded from.  `verify` asks for a check of finished code, which no thunk fails.  Of the optimization
level no more than a remark is made, and `trace` and `format` decide what the command line prints.
-/
namespace CilThunk

/-- The optimization level a method is compiled at.  Thunks are the same at both. -/
inductive Optimization
  | release
  | debug
  deriving DecidableEq, Repr

/-- How the command line prints bodies: as a listing or as JSON. -/
inductive Format
  | human
  | json
  deriving DecidableEq, Repr

structure Settings where
  optimization : Optimization := .release
  trace : Bool := false
  generation : UInt32 := 0
  firstSlot : UInt32 := 1
  verify : Bool := true
  format : Format := .human
  deriving DecidableEq, Repr

end CilThunk
