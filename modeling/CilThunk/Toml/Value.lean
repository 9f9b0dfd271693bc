import CilThunk.Decimal.Binary64
/-!
# Values of a settings document

The values that TOML has.  A table keeps its entries in an order and how it came to be, since that decides which lines
may still add to it; an array of tables is never without a last one, the one that lines add to.
-/
namespace CilThunk
namespace Toml

/-- How a table came to be. -/
inductive Origin
  /-- It has a heading of its own, or is the document. -/
  | heading
  /-- It stands inside the name of a heading, before a dot. -/
  | implied
  /-- It stands inside a key, before a dot. -/
  | dotted
  /-- It is written as a value, between braces. -/
  | inline
  deriving DecidableEq, Repr

/-- A date, a time or both are kept as they are written. -/
inductive Value
  | string (s : String)
  | integer (i : Int)
  | float (x : Binary64)
  | boolean (b : Bool)
  | datetime (text : String)
  | array (items : List Value)
  | table (origin : Origin) (entries : List (String × Value))
  | tables (earlier : List (List (String × Value))) (last : List (String × Value))

/-- The entries of a table.  A key stands where a line first gave it; if that was inside the name of a heading and a
heading of its own came later, it stands where that one does. -/
abbrev Entries := List (String × Value)

/-- A reader takes a value off the front of a text and leaves the rest, or refuses the text. -/
abbrev Reader (α : Type) := List Char → Option (α × List Char)

end Toml
end CilThunk
