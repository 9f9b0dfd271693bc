import CilThunk.Body
import CilThunk.Json
/-!
# Bodies as JSON

Every part of a body is an object with its fields in a fixed order, row numbers are plain numbers, what is absent is
`null`, and the code is a list of numbers.
-/
namespace CilThunk

def LocalVariable.toJson (v : LocalVariable) : Json :=
  .obj [("name", .str v.name), ("slot", .num v.slot.toNat), ("scope_start", .num v.scopeStart.toNat),
    ("scope_end", .num v.scopeEnd.toNat)]

def SequencePoint.toJson (p : SequencePoint) : Json :=
  .obj [("offset", .num p.offset.toNat), ("line", .num p.line.toNat), ("column", .num p.column.toNat)]

def HandlerRegion.toJson (r : HandlerRegion) : Json :=
  .obj [("try_offset", .num r.tryOffset.toNat), ("try_length", .num r.tryLength.toNat),
    ("handler_offset", .num r.handlerOffset.toNat), ("handler_length", .num r.handlerLength.toNat)]

def LocalScope.toJson (s : LocalScope) : Json :=
  .obj [("start_offset", .num s.start.toNat), ("end_offset", .num s.stop.toNat),
    ("locals", .arr (s.locals.map (fun l => .num l.toNat)))]

def DebugId.toJson (d : DebugId) : Json :=
  .obj [("ordinal", .num d.ordinal.toInt), ("generation", .num d.generation.toNat)]

namespace MethodBody

def jsonFields (b : MethodBody) : List (String × Json) :=
  [("max_stack", .num b.maxStack.toNat),
   ("parent", .num b.parent.toNat),
   ("method_id", b.debugId.toJson),
   ("locals", .arr (b.locals.map LocalVariable.toJson)),
   ("sequence_points", .arr (b.sequencePoints.map SequencePoint.toJson)),
   ("exception_handlers", .arr (b.handlers.map HandlerRegion.toJson)),
   ("local_scopes", .arr (b.scopes.map LocalScope.toJson)),
   ("has_dynamic_locals", .bool b.hasDynamicLocals),
   ("state_machine_type_name", .ofOption .str b.stateMachine?),
   ("standalone_signature", .ofOption (fun s : Slot => .num s.row.toNat) b.slot?),
   ("calling_convention", .str b.convention.tag)]

def toJson (b : MethodBody) : Json :=
  .obj (("il_bits", .arr (b.code.map (fun byte => .num byte.toNat))) :: b.jsonFields)

def listToJson (bs : List MethodBody) : Json := .arr (bs.map toJson)

end MethodBody
end CilThunk
