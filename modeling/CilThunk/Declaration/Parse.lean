import CilThunk.Declaration
import CilThunk.Fault
import CilThunk.Text.Blank
/-!
# Declarations as text

A declaration is `name/arity`, with `:void` or `:value` behind it if what is returned is to be said; blanks may stand
around each part.  A source has one declaration a line, blank lines and comments from `#` on aside.  The methods of a
source are numbered in order, while errors count all lines.  (A carriage return before a line break is a blank at the
end of its line.)
-/
namespace CilThunk

inductive DeclarationError
  /-- Not a name, a slash and something behind it. -/
  | malformed (line : Nat) (text : String)
  | invalidArity (line : Nat) (arity : String)
  | unknownReturn (line : Nat) (kind : String)
  deriving DecidableEq, Repr

def DeclarationError.message : DeclarationError → String
  | malformed line text =>
    "line " ++ Text.decimal line ++ ": expected `Name/arity[:void]`, found `" ++ text ++ "`"
  | invalidArity line arity => "line " ++ Text.decimal line ++ ": invalid arity `" ++ arity ++ "`"
  | unknownReturn line kind =>
    "line " ++ Text.decimal line ++ ": unknown return kind `" ++ kind ++ "` (expected `void` or `value`)"

namespace Declaration

open Text

/-- The number that decimal digits spell. -/
def ofDigits (digits : List Char) : Nat := digits.foldl (fun n c => 10 * n + (c.toNat - '0'.toNat)) 0

/-- A number of parameters: decimal digits, a plus sign before them if one likes, and 16 bits at most. -/
def readArity (s : List Char) : Option UInt16 :=
  let digits := match s with
    | '+' :: rest => rest
    | s => s
  if digits ≠ [] ∧ digits.all Char.isDigit ∧ ofDigits digits ≤ 65535 then some (UInt16.ofNat (ofDigits digits))
  else none

/-- A name has at least one character and no blank. -/
def isName (name : List Char) : Bool := !name.isEmpty && !name.any isBlank

/-- What stands behind the slash: the arity and what is said about the return, if anything is. -/
def arityAndReturn (rest : List Char) : List Char × Option (List Char) :=
  match cut ':' rest with
  | some (arity, returned) => (trim arity, some (trim returned))
  | none => (trim rest, none)

def readReturn : Option (List Char) → Option Bool
  | none => some false
  | some kind =>
    if kind = "value".toList then some false
    else if kind = "void".toList then some true
    else none

def parse (text : String) (method : UInt32) (line : Nat) : Except DeclarationError Declaration :=
  match cut '/' text.toList with
  | none => .error (.malformed line text)
  | some (before, rest) =>
    let name := trim before
    if isName name then
      let (arity, returned) := arityAndReturn rest
      match readArity arity with
      | none => .error (.invalidArity line (String.ofList arity))
      | some n =>
        match readReturn returned with
        | none => .error (.unknownReturn line (String.ofList (returned.getD [])))
        | some isVoid => .ok { method := method, name := String.ofList name, arity := n, isVoid := isVoid }
    else .error (.malformed line text)

/-- What a line of a source declares: its text before the comment, without the blanks around it. -/
def content (line : List Char) : List Char := trim (line.takeWhile (· != '#'))

/-- The declarations of some lines, of which the first has number `line` and the next method row `method`. -/
def parseLines (line method : Nat) : List (List Char) → Except (Halt DeclarationError) (List Declaration)
  | [] => .ok []
  | first :: rest =>
    if content first = [] then parseLines (line + 1) method rest
    else if 4294967295 < method then .error (.broken .addOverflow)
    else
      match parse (String.ofList (content first)) (UInt32.ofNat method) line with
      | .error e => .error (.refused e)
      | .ok d =>
        match parseLines (line + 1) (method + 1) rest with
        | .error halt => .error halt
        | .ok ds => .ok (d :: ds)

/-- The declarations of a source, of which the first is that of method `firstMethod`. -/
def parseAll (source : String) (firstMethod : UInt32) : Except (Halt DeclarationError) (List Declaration) :=
  parseLines 1 firstMethod.toNat (source.toList.splitOn '\n')

end Declaration
end CilThunk
