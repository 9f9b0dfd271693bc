import CilThunk.Body.Json
import CilThunk.CommandLine.Run
import CilThunk.Proofs.Json.Reader
/-!
# JsonReader — bodies read back from JSON

A reader that goes by the names of fields, in whatever order they stand.  A number has to fit the word it is read as, the
row of a signature is not zero, and a convention is known by its tag.  Every part of a body is recovered from its JSON
(`Recovers`), so that both texts of a list of bodies tell the list (`bodies_of_text`).
-/
namespace CilThunk
namespace Json

/-! ## Parts -/

section Parts

variable {α : Type}

/-- The field of that name, read. -/
def at? (name : String) (read : Json → Option α) : Json → Option α
  | obj fields => (fields.find? (fun f => f.1 = name)).bind (fun f => read f.2)
  | _ => none

def string? : Json → Option String
  | str s => some s
  | _ => none

def flag? : Json → Option Bool
  | bool b => some b
  | _ => none

/-- A number from `low` on and below `high`. -/
def within? (low high : Int) (ofInt : Int → α) : Json → Option α
  | num i => if low ≤ i ∧ i < high then some (ofInt i) else none
  | _ => none

def byte? : Json → Option UInt8 := within? 0 256 (fun i => UInt8.ofNat i.toNat)

def word16? : Json → Option UInt16 := within? 0 65536 (fun i => UInt16.ofNat i.toNat)

def word32? : Json → Option UInt32 := within? 0 4294967296 (fun i => UInt32.ofNat i.toNat)

def int32? : Json → Option Int32 := within? (-2147483648) 2147483648 Int32.ofInt

def listOf? (read : Json → Option α) : Json → Option (List α)
  | arr items => items.mapM read
  | _ => none

/-- What may be absent. -/
def optional? (read : Json → Option α) : Json → Option (Option α)
  | null => some none
  | j => (read j).map some

/-! ## Recovery -/

/-- A reader undoes a writer. -/
def Recovers (write : α → Json) (read : Json → Option α) : Prop := ∀ a, read (write a) = some a

theorem Recovers.injective {write : α → Json} {read : Json → Option α} (h : Recovers write read) :
    Function.Injective write := fun a b hab => Option.some.inj ((h a).symm.trans ((congrArg read hab).trans (h b)))

@[simp]
theorem at?_cons_self (name : String) (read : Json → Option α) (v : Json) (rest : List (String × Json)) :
    at? name read (obj ((name, v) :: rest)) = read v := by
  simp [at?]

@[simp]
theorem at?_cons_of_ne {name other : String} (h : other ≠ name) (read : Json → Option α) (v : Json)
    (rest : List (String × Json)) :
    at? name read (obj ((other, v) :: rest)) = at? name read (obj rest) := by
  simp [at?, h]

theorem within?_num {low high : Int} {ofInt : Int → α} {toInt : α → Int} (hofInt : ∀ a, ofInt (toInt a) = a)
    (hrange : ∀ a, low ≤ toInt a ∧ toInt a < high) :
    Recovers (fun a => num (toInt a)) (within? low high ofInt) := by
  intro a
  rw [within?, if_pos (hrange a), hofInt]

theorem recovers_string : Recovers str string? := fun _ => rfl

theorem recovers_flag : Recovers bool flag? := fun _ => rfl

theorem recovers_byte : Recovers (fun a : UInt8 => num a.toNat) byte? :=
  within?_num (fun a => by simp) fun a => by have := a.toNat_lt; omega

theorem recovers_word16 : Recovers (fun a : UInt16 => num a.toNat) word16? :=
  within?_num (fun a => by simp) fun a => by have := a.toNat_lt; omega

theorem recovers_word32 : Recovers (fun a : UInt32 => num a.toNat) word32? :=
  within?_num (fun a => by simp) fun a => by have := a.toNat_lt; omega

theorem recovers_int32 : Recovers (fun a : Int32 => num a.toInt) int32? :=
  within?_num (fun a => by simp) fun a => ⟨a.le_toInt, a.toInt_lt⟩

variable {write : α → Json} {read : Json → Option α}

theorem Recovers.listOf (h : Recovers write read) : Recovers (fun as => arr (as.map write)) (listOf? read) := by
  intro as
  rw [listOf?, List.mapM_map]
  induction as with
  | nil => rfl
  | cons a as ih => simp [h a, ih]

theorem Recovers.optional (h : Recovers write read) (hnull : ∀ a, write a ≠ null) :
    Recovers (ofOption write) (optional? read) := by
  intro a?
  cases a? with
  | none => rfl
  | some a =>
    rw [ofOption, optional?]
    · rw [h a, Option.map_some]
    · exact hnull a

end Parts
end Json

open Json

/-! ## Records -/

def LocalVariable.ofJson (j : Json) : Option LocalVariable := do
  let name ← j.at? "name" string?
  let slot ← j.at? "slot" word16?
  let scopeStart ← j.at? "scope_start" word32?
  let scopeEnd ← j.at? "scope_end" word32?
  return { name, slot, scopeStart, scopeEnd }

theorem recovers_localVariable : Recovers LocalVariable.toJson LocalVariable.ofJson := by
  intro v
  simp [LocalVariable.toJson, LocalVariable.ofJson, recovers_string v.name, recovers_word16 v.slot,
    recovers_word32 v.scopeStart, recovers_word32 v.scopeEnd]

def SequencePoint.ofJson (j : Json) : Option SequencePoint := do
  let offset ← j.at? "offset" word32?
  let line ← j.at? "line" word32?
  let column ← j.at? "column" word16?
  return { offset, line, column }

theorem recovers_sequencePoint : Recovers SequencePoint.toJson SequencePoint.ofJson := by
  intro p
  simp [SequencePoint.toJson, SequencePoint.ofJson, recovers_word32 p.offset, recovers_word32 p.line,
    recovers_word16 p.column]

def HandlerRegion.ofJson (j : Json) : Option HandlerRegion := do
  let tryOffset ← j.at? "try_offset" word32?
  let tryLength ← j.at? "try_length" word32?
  let handlerOffset ← j.at? "handler_offset" word32?
  let handlerLength ← j.at? "handler_length" word32?
  return { tryOffset, tryLength, handlerOffset, handlerLength }

theorem recovers_handlerRegion : Recovers HandlerRegion.toJson HandlerRegion.ofJson := by
  intro r
  simp [HandlerRegion.toJson, HandlerRegion.ofJson, recovers_word32 r.tryOffset, recovers_word32 r.tryLength,
    recovers_word32 r.handlerOffset, recovers_word32 r.handlerLength]

def LocalScope.ofJson (j : Json) : Option LocalScope := do
  let start ← j.at? "start_offset" word32?
  let stop ← j.at? "end_offset" word32?
  let locals ← j.at? "locals" (listOf? word16?)
  return { start, stop, locals }

theorem recovers_localScope : Recovers LocalScope.toJson LocalScope.ofJson := by
  intro s
  simp [LocalScope.toJson, LocalScope.ofJson, recovers_word32 s.start, recovers_word32 s.stop,
    recovers_word16.listOf s.locals]

def DebugId.ofJson (j : Json) : Option DebugId := do
  let ordinal ← j.at? "ordinal" int32?
  let generation ← j.at? "generation" word32?
  return { ordinal, generation }

theorem recovers_debugId : Recovers DebugId.toJson DebugId.ofJson := by
  intro d
  simp [DebugId.toJson, DebugId.ofJson, recovers_int32 d.ordinal, recovers_word32 d.generation]

def Slot.ofJson (j : Json) : Option Slot := j.word32?.bind Slot.ofRow?

theorem recovers_slot : Recovers (fun s : Slot => .num s.row.toNat) Slot.ofJson := by
  intro s
  rw [Slot.ofJson, recovers_word32 s.row]
  exact dif_neg s.row_ne_zero

namespace Convention

def all : List Convention := [default, c, standard, fastCall, hasThis, thisCall]

def ofJson : Json → Option Convention
  | .str tag => all.find? (fun k => k.tag = tag)
  | _ => none

end Convention

theorem recovers_convention : Recovers (fun k : Convention => .str k.tag) Convention.ofJson := by
  intro k
  cases k <;> decide

/-! ## Bodies -/

namespace MethodBody

def ofJson (j : Json) : Option MethodBody := do
  let code ← j.at? "il_bits" (listOf? byte?)
  let maxStack ← j.at? "max_stack" word16?
  let parent ← j.at? "parent" word32?
  let debugId ← j.at? "method_id" DebugId.ofJson
  let locals ← j.at? "locals" (listOf? LocalVariable.ofJson)
  let sequencePoints ← j.at? "sequence_points" (listOf? SequencePoint.ofJson)
  let handlers ← j.at? "exception_handlers" (listOf? HandlerRegion.ofJson)
  let scopes ← j.at? "local_scopes" (listOf? LocalScope.ofJson)
  let hasDynamicLocals ← j.at? "has_dynamic_locals" flag?
  let stateMachine? ← j.at? "state_machine_type_name" (optional? string?)
  let slot? ← j.at? "standalone_signature" (optional? Slot.ofJson)
  let convention ← j.at? "calling_convention" Convention.ofJson
  return { code, maxStack, parent, debugId, locals, sequencePoints, handlers, scopes, hasDynamicLocals, stateMachine?,
           slot?, convention }

theorem recovers_body : Recovers toJson ofJson := by
  intro b
  simp [toJson, jsonFields, ofJson, recovers_byte.listOf b.code, recovers_word16 b.maxStack, recovers_word32 b.parent,
    recovers_debugId b.debugId, recovers_localVariable.listOf b.locals,
    recovers_sequencePoint.listOf b.sequencePoints, recovers_handlerRegion.listOf b.handlers,
    recovers_localScope.listOf b.scopes, recovers_flag b.hasDynamicLocals,
    (recovers_string.optional nofun) b.stateMachine?, (recovers_slot.optional nofun) b.slot?,
    recovers_convention b.convention]

def listOfJson : Json → Option (List MethodBody) := listOf? ofJson

theorem recovers_list : Recovers listToJson listOfJson := recovers_body.listOf

open CommandLine in
/-- **Both texts of a list of bodies are read as its JSON, and the list is recovered from that**, so that no two lists
are printed the same way. -/
theorem bodies_of_text :
    -- what is read as a value is what spells it
    (∀ (text : String) (j : Json), Json.parse text = some j ↔ IsTextOf text j) ∧
    (∀ bs : List MethodBody,
      Json.parse (listToJson bs).compact = some (listToJson bs) ∧
      Json.parse (listToJson bs).pretty = some (listToJson bs) ∧
      listOfJson (listToJson bs) = some bs) ∧
    (∀ bs bs' : List MethodBody, (listToJson bs).compact = (listToJson bs').compact ↔ bs = bs') ∧
    (∀ bs bs' : List MethodBody, (listToJson bs).pretty = (listToJson bs').pretty ↔ bs = bs') ∧
    -- what a run prints, with its line break
    ∀ (m : Module) (headers : Bool),
      (∃ text, report m .json headers = .ok text ∧ Json.parse text = some (listToJson m.bodies.bodies)) ∧
      ∀ (m' : Module) (headers' : Bool),
        report m .json headers = report m' .json headers' ↔ m.bodies.bodies = m'.bodies.bodies := by
  have hcompact : Function.Injective fun bs => (listToJson bs).compact :=
    compact_injective.comp recovers_list.injective
  have hpretty : Function.Injective fun bs => (listToJson bs).pretty :=
    pretty_injective.comp recovers_list.injective
  refine ⟨fun text j => parse_eq_some_iff, fun bs => ⟨?_, ?_, recovers_list bs⟩, fun bs bs' => hcompact.eq_iff,
    fun bs bs' => hpretty.eq_iff, fun m headers => ⟨⟨_, rfl, ?_⟩, fun m' headers' => ⟨fun h => ?_, fun h => ?_⟩⟩⟩
  · exact parse_eq_some_iff.2 (isTextOf_compact _)
  · exact parse_eq_some_iff.2 (isTextOf_pretty _)
  · exact parse_eq_some_iff.2 (isTextOf_pretty _).newline
  · have hprinted := congrArg String.toList (Except.ok.inj h)
    rw [String.toList_append, String.toList_append] at hprinted
    exact hpretty (String.toList_inj.1 (List.append_cancel_right hprinted))
  · unfold report
    rw [h]

end MethodBody
end CilThunk
