import CilThunk.Text.Number
/-!
# JSON values and their two texts

A value, written without blanks (`compact`) or over lines, two blanks to a level (`pretty`).  An object keeps its
fields in the order given.  In a string only what has to be escaped is: the quote, the backslash and the control
characters below the blank, in the short form where there is one.
-/
namespace CilThunk

inductive Json
  | null
  | bool (b : Bool)
  | num (i : Int)
  | str (s : String)
  | arr (items : List Json)
  | obj (fields : List (String × Json))

namespace Json

/-- `null` for what is absent. -/
def ofOption {α : Type} (f : α → Json) : Option α → Json
  | none => null
  | some a => f a

def escape (c : Char) : String :=
  match c with
  | '"' => "\\\""
  | '\\' => "\\\\"
  | '\x08' => "\\b"
  | '\x0c' => "\\f"
  | '\n' => "\\n"
  | '\r' => "\\r"
  | '\t' => "\\t"
  | c => if c.toNat < 0x20 then "\\u" ++ Text.hexPadded 4 c.toNat else c.toString

def quote (s : String) : String := "\"" ++ String.join (s.toList.map escape) ++ "\""

/-- The value of a field is smaller than the list of fields. -/
theorem sizeOf_field {fields : List (String × Json)} {f : String × Json} (h : f ∈ fields) :
    sizeOf f.2 < sizeOf fields := by
  have := List.sizeOf_lt_of_mem h
  have : sizeOf f = 1 + sizeOf f.1 + sizeOf f.2 := rfl
  omega

def compact : Json → String
  | null => "null"
  | bool b => if b then "true" else "false"
  | num i => Text.integer i
  | str s => quote s
  | arr items => "[" ++ ",".intercalate (items.map compact) ++ "]"
  | obj fields => "\x7b" ++ ",".intercalate (fields.map (fun f => quote f.1 ++ ":" ++ compact f.2)) ++ "\x7d"
decreasing_by
  · simp_wf
    have := List.sizeOf_lt_of_mem ‹_›
    omega
  · simp_wf
    have := sizeOf_field ‹_›
    omega

/-- The blanks that a line at some level starts with. -/
def indent (level : Nat) : String := String.ofList (List.replicate (2 * level) ' ')

/-- Items over lines of the level below `level`, between brackets of which the second stands at `level`. -/
def spread (level : Nat) (opening closing : String) : List String → String
  | [] => opening ++ closing
  | items =>
    opening ++ "\n" ++ indent (level + 1) ++ (",\n" ++ indent (level + 1)).intercalate items ++
      "\n" ++ indent level ++ closing

/-- The text over lines of a value that stands at `level`. -/
def prettyAt (level : Nat) : Json → String
  | null => "null"
  | bool b => if b then "true" else "false"
  | num i => Text.integer i
  | str s => quote s
  | arr items => spread level "[" "]" (items.map (prettyAt (level + 1)))
  | obj fields => spread level "\x7b" "\x7d" (fields.map (fun f => quote f.1 ++ ": " ++ prettyAt (level + 1) f.2))
termination_by j => sizeOf j
decreasing_by
  · simp_wf
    have := List.sizeOf_lt_of_mem ‹_›
    omega
  · simp_wf
    have := sizeOf_field ‹_›
    omega

def pretty (j : Json) : String := prettyAt 0 j

end Json
end CilThunk
