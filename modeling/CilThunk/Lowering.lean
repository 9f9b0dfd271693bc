import CilThunk.Module
/-!
# Lowering — from declarations to thunks

A thunk loads every argument in order, calls by the signature of a fresh row of the StandAloneSig table, and
returns what the call returns.  `emitThunk` appends it to a buffer, `finish` turns the buffer into a stored body, and
`assemble` is the two in a row; `lower` passes by what is no intrinsic.

The row is taken right before the call is appended and its signature recorded before the code is verified, so that a
rejected body leaves no gap in the table.  Each step hands back the module as it stands also when it stops early.
-/
namespace CilThunk

/-- What a step leaves: the module, its log records in order, and its value or why it stopped. -/
structure Outcome (α : Type) where
  module : Module
  records : List Record
  result : Except (Halt LowerError) α

/-- What appending a thunk leaves: the buffer and the module as they stand, and the row and convention of its call. -/
structure Appended where
  buffer : Buffer
  module : Module
  result : Except (Halt LowerError) (Slot × Convention)

namespace Lowering

/-- The loads of arguments `0` to `arity - 1`. -/
def loads (arity : UInt16) : List Operation :=
  (List.range arity.toNat).map (fun i => .loadArgument (UInt16.ofNat i))

def lead (d : Declaration) (isTail : Bool) : List Operation :=
  loads d.arity ++ if isTail then [.tailMark] else []

def callAndLeave (d : Declaration) (token : Token) : List Operation :=
  [.call (stackAdjustment d.arity d.isVoid) token, .leave d.isVoid]

def emitThunk (b : Buffer) (m : Module) (d : Declaration) (isTail : Bool) : Appended :=
  match b.emitAll (lead d isTail) with
  | (b, some fault) => ⟨b, m, .error (.broken fault)⟩
  | (b, none) =>
    match m.allocate with
    | .error e => ⟨b, m, .error (.refused e)⟩
    | .ok (slot, m) =>
      match slot.token with
      | .error fault => ⟨b, m, .error (.broken fault)⟩
      | .ok token =>
        match b.emitAll (callAndLeave d token) with
        | (b, some fault) => ⟨b, m, .error (.broken fault)⟩
        | (b, none) => ⟨b, m, .ok (slot, d.convention)⟩

def finish (m : Module) (s : Settings) (d : Declaration) (b : Buffer) (slot : Slot) (convention : Convention) :
    Outcome MethodBody :=
  match b.freeze with
  | .error fault => ⟨m, [], .error (.broken fault)⟩
  | .ok code =>
    let m := m.record ⟨slot, convention, d.arity, d.isVoid⟩
    match if s.verify then code.verify else .ok () with
    | .error (.refused e) => ⟨m, [], .error (.refused (.rejected d.name e))⟩
    | .error (.broken fault) => ⟨m, [], .error (.broken fault)⟩
    | .ok () =>
      let body := MethodBody.thunk code d.owner m.generation slot convention
      let (m, replaced) := m.store d.owner body
      ⟨m, replaced, .ok body⟩

/-- What is remarked of the settings before anything is assembled. -/
def remarks (s : Settings) (d : Declaration) : List Record :=
  if s.optimization = .debug then [.uninstrumented d.name] else []

/-- Makes and stores the thunk of an intrinsic.  Any other method is outside its contract. -/
def assemble (m : Module) (s : Settings) (d : Declaration) : Outcome MethodBody :=
  if d.kind.isIntrinsic then
    let e := emitThunk { optimization := .release } m d d.kind.isTail
    let before := remarks s d ++ e.buffer.records
    match e.result with
    | .error halt => ⟨e.module, before, .error halt⟩
    | .ok (slot, convention) =>
      let f := finish e.module s d e.buffer slot convention
      match f.result with
      | .error halt => ⟨f.module, before ++ f.records, .error halt⟩
      | .ok body =>
        ⟨f.module, before ++ f.records ++ [.lowered d.name d.kind convention slot body.maxStack body.size], .ok body⟩
  else ⟨m, remarks s d, .error (.broken (.notAnIntrinsic d.name))⟩

/-- Neither the stem alone nor a known ending. -/
def hasUnknownEnding (d : Declaration) : Bool :=
  d.convention == .default && !directStem.toList.isSuffixOf d.name.toList

/-- Makes the thunk of a method if it is an intrinsic, and does nothing about any other. -/
def lower (m : Module) (s : Settings) (d : Declaration) : Outcome (Option MethodBody) :=
  if d.kind.isIntrinsic then
    let o := assemble m s d
    ⟨o.module, (if hasUnknownEnding d then [.unknownEnding d.name] else []) ++ o.records, o.result.map some⟩
  else ⟨m, [], .ok none⟩

end Lowering
end CilThunk
