import CilThunk.Decimal.Shortest
import CilThunk.Settings
import CilThunk.Text.Quoted
import CilThunk.Toml.Document
/-!
# Settings as a document

The fields of a settings document overlay the defaults, one after the other in the order of its entries; the first
that does not fit is reported.  That the first signature row is not zero is asked last, of the settings as a whole.

A field of a fixed set of words takes the word as a string, or as the one key of a table whose value is empty.
-/
namespace CilThunk

/-- What a field takes. -/
inductive Expected
  | u32
  | boolean
  deriving DecidableEq, Repr

inductive SettingsError
  /-- The text is no document. -/
  | syntaxError
  | unknownField (name : String)
  /-- A value of another type, told by what was found. -/
  | invalidType (found : String) (expected : Expected)
  /-- An integer out of range. -/
  | invalidValue (i : Int) (expected : Expected)
  /-- A word that is none of those a field takes. -/
  | unknownWord (word : String) (words : List String)
  /-- Neither a word nor a table where a word is to be. -/
  | noWord
  /-- A table where a word is to be that has not exactly one key, or one with something in it. -/
  | malformedWord
  | zeroFirstSlot
  deriving DecidableEq, Repr

def Expected.text : Expected → String
  | u32 => "u32"
  | boolean => "a boolean"

namespace SettingsError

/-- The part of the text that tells the cause; a text that is no document has none. -/
def cause? : SettingsError → Option String
  | syntaxError => none
  | unknownField name =>
    some ("unknown field `" ++ name ++ "`, expected one of `optimization`, `trace`, `generation`, " ++
      "`first_signature_slot`, `verify`, `format`")
  | invalidType found expected => some ("invalid type: " ++ found ++ ", expected " ++ expected.text)
  | invalidValue i expected =>
    some ("invalid value: integer `" ++ Text.integer i ++ "`, expected " ++ expected.text)
  | unknownWord word words =>
    some ("unknown variant `" ++ word ++ "`, expected " ++ " or ".intercalate (words.map (fun w => "`" ++ w ++ "`")))
  | noWord => some "wanted string or table"
  | malformedWord => none
  | zeroFirstSlot => some "first_signature_slot must be at least 1"

/-- The message, where the position in the document goes without saying. -/
def message : SettingsError → String
  | zeroFirstSlot => "first_signature_slot must be at least 1"
  | e =>
    match e.cause? with
    | some cause => "TOML parse error\n" ++ cause
    | none => "TOML parse error"

end SettingsError

namespace Settings

/-- A value as messages about types name it.  Tables and dates are maps, arrays of any kind are sequences. -/
def describe : Toml.Value → String
  | .string s => "string " ++ Text.quoted s
  | .integer i => "integer `" ++ Text.integer i ++ "`"
  | .float x => "floating point `" ++ x.text ++ "`"
  | .boolean b => "boolean `" ++ (if b then "true" else "false") ++ "`"
  | .datetime _ => "map"
  | .array _ => "sequence"
  | .table .. => "map"
  | .tables .. => "sequence"

def u32Of : Toml.Value → Except SettingsError UInt32
  | .integer i => if 0 ≤ i ∧ i ≤ 4294967295 then .ok (UInt32.ofNat i.toNat) else .error (.invalidValue i .u32)
  | v => .error (.invalidType (describe v) .u32)

def boolOf : Toml.Value → Except SettingsError Bool
  | .boolean b => .ok b
  | v => .error (.invalidType (describe v) .boolean)

/-- Whether a value has nothing in it. -/
def isEmpty : Toml.Value → Bool
  | .table _ [] => true
  | .array [] => true
  | _ => false

/-- What a word stands for, among those that a field takes. -/
def lookup {α : Type} (words : List (String × α)) (word : String) : Except SettingsError α :=
  match words.find? (fun w => w.1 = word) with
  | some w => .ok w.2
  | none => .error (.unknownWord word (words.map (·.1)))

def wordOf {α : Type} (words : List (String × α)) : Toml.Value → Except SettingsError α
  | .string s => lookup words s
  | .table _ [(word, v)] =>
    match lookup words word with
    | .error e => .error e
    | .ok a => if isEmpty v then .ok a else .error .malformedWord
  | .table .. => .error .malformedWord
  | _ => .error .noWord

def optimizations : List (String × Optimization) := [("release", .release), ("debug", .debug)]

def formats : List (String × Format) := [("human", .human), ("json", .json)]

/-- Sets one field. -/
def set (s : Settings) (name : String) (v : Toml.Value) : Except SettingsError Settings :=
  match name with
  | "optimization" => (wordOf optimizations v).map (fun x => { s with optimization := x })
  | "trace" => (boolOf v).map (fun x => { s with trace := x })
  | "generation" => (u32Of v).map (fun x => { s with generation := x })
  | "first_signature_slot" => (u32Of v).map (fun x => { s with firstSlot := x })
  | "verify" => (boolOf v).map (fun x => { s with verify := x })
  | "format" => (wordOf formats v).map (fun x => { s with format := x })
  | name => .error (.unknownField name)

/-- Sets the fields of a document, in order. -/
def setAll (s : Settings) : Toml.Entries → Except SettingsError Settings
  | [] => .ok s
  | (name, v) :: rest =>
    match s.set name v with
    | .error e => .error e
    | .ok s => s.setAll rest

/-- The settings that the entries of a document give. -/
def ofEntries (entries : Toml.Entries) : Except SettingsError Settings :=
  match setAll {} entries with
  | .error e => .error e
  | .ok s => if s.firstSlot = 0 then .error .zeroFirstSlot else .ok s

def parse (text : String) : Except SettingsError Settings :=
  match Toml.parse text with
  | none => .error .syntaxError
  | some entries => ofEntries entries

end Settings
end CilThunk
