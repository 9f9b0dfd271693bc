import CilThunk.Toml.Scalar
import CilThunk.Toml.Table
/-!
# Settings documents

A document is read line by line: a key and its value, a heading, or nothing.  Keys go into the table of the last
heading, and before the first into the document itself.  Arrays and tables between braces may be nested below eighty
levels, and a key may have fewer than eighty parts.

Loops over the parts of a text run on a number of rounds that the length of the text bounds, as each round takes at
least one character.
-/
namespace CilThunk
namespace Toml

def spacedMark (c : Char) (s : List Char) : Option (List Char) := expect c (skipSpaces s)

/-! ## Keys -/

def isBareKey (c : Char) : Bool := c.isAlphanum || c == '-' || c == '_'

/-- A key without a dot: a string in one line, or letters, digits, dashes and underscores. -/
def simpleKey : Reader String
  | '"' :: rest => basicRest [] rest
  | '\'' :: rest => literalRest rest
  | s =>
    match s.takeWhile isBareKey with
    | [] => none
    | name => some (String.ofList name, s.dropWhile isBareKey)

def keyParts : Nat → Reader (List String)
  | 0, _ => none
  | rounds + 1, s =>
    match simpleKey (skipSpaces s) with
    | none => none
    | some (name, s) =>
      match spacedMark '.' s with
      | none => some ([name], skipSpaces s)
      | some s => (keyParts rounds s).map (fun (names, s) => (name :: names, s))

/-- A key has at most seventy-nine parts. -/
def key (s : List Char) : Option (List String × List Char) := keyParts 79 s

/-! ## Values -/

def items (item : Reader Value) : Nat → Reader (List Value)
  | 0, _ => none
  | rounds + 1, s =>
    match skipLines false s with
    | none => none
    | some (']' :: s) => some ([], s)
    | some s =>
      match item s with
      | none => none
      | some (v, s) =>
        match skipLines false s with
        | some (']' :: s) => some ([v], s)
        | some (',' :: s) => (items item rounds s).map (fun (vs, s) => (v :: vs, s))
        | _ => none

/-- The fields of a table between braces, behind the opening one.  A comma must be followed by a field. -/
def fields (item : Reader Value) : Nat → Reader (List (List String × Value))
  | 0, _ => none
  | rounds + 1, s =>
    match key s with
    | none => none
    | some (path, s) =>
      match spacedMark '=' s with
      | none => none
      | some s =>
        match item (skipSpaces s) with
        | none => none
        | some (v, s) =>
          match skipSpaces s with
          | '\x7d' :: s => some ([(path, v)], s)
          | ',' :: s => (fields item rounds s).map (fun (fs, s) => ((path, v) :: fs, s))
          | _ => none

/-- A value, in which arrays and tables are nested `depth` levels at most. -/
def value (depth : Nat) (s : List Char) : Option (Value × List Char) :=
  match s with
  | '"' :: _ => (string s).map (fun (t, s) => (.string t, s))
  | '\'' :: _ => (string s).map (fun (t, s) => (.string t, s))
  | '[' :: rest =>
    match depth with
    | 0 => none
    | depth + 1 => (items (value depth) (rest.length + 1) rest).map (fun (vs, s) => (.array vs, s))
  | '\x7b' :: rest =>
    match depth with
    | 0 => none
    | depth + 1 =>
      match skipSpaces rest with
      | '\x7d' :: s => some (.table .inline [], s)
      | _ =>
        match fields (value depth) (rest.length + 1) rest with
        | none => none
        | some (fs, s) => (inlineTable fs).map (·, s)
  | c :: _ => if c.isDigit || c == '+' || c == '-' then numeric s else word s
  | [] => none

/-! ## Lines -/

/-- The document so far, and the path of the last heading. -/
structure State where
  entries : Entries := []
  heading : List String := []

def State.set (state : State) (path : List String) (v : Value) : Option State :=
  match splitLast path with
  | none => none
  | some (path, key) =>
    (descend false (setAt path key v) state.heading .heading state.entries).map (fun es => { state with entries := es })

/-- Starts a heading, whose table `start` opens in that of the path before its last key. -/
def State.enter (state : State) (start : String → Entries → Option Entries) (path : List String) : Option State :=
  match splitLast path with
  | none => none
  | some (parents, key) =>
    (descend false (fun _ es => start key es) parents .heading state.entries).map (fun es => ⟨es, path⟩)

/-- What a line does, and the text behind it. -/
def line (state : State) (s : List Char) : Option (State × List Char) :=
  match s with
  | '[' :: '[' :: rest => do
    let (path, s) ← key rest
    let s ← expect ']' s
    let s ← expect ']' s
    let s ← endOfLine s
    let state ← state.enter addTable path
    return (state, s)
  | '[' :: rest => do
    let (path, s) ← key rest
    let s ← expect ']' s
    let s ← endOfLine s
    let state ← state.enter openTable path
    return (state, s)
  | s =>
    match endOfLine s with
    | some s => some (state, s)
    | none => do
      let (path, s) ← key s
      let s ← expect '=' s
      let (v, s) ← value 79 (skipSpaces s)
      let s ← endOfLine s
      let state ← state.set path v
      return (state, s)

def lines : Nat → State → List Char → Option State
  | 0, _, _ => none
  | rounds + 1, state, s =>
    match skipSpaces s with
    | [] => some state
    | s =>
      match line state s with
      | none => none
      | some (state, s) => lines rounds state s

/-- The entries of a document.  A byte order mark in front of it is passed over. -/
def parse (text : String) : Option Entries :=
  let s := match text.toList with
    | '\uFEFF' :: s => s
    | s => s
  (lines (s.length + 1) {} s).map (·.entries)

end Toml
end CilThunk
