import CilThunk.Toml.Value
/-!
# Tables under construction

What a heading and what a key do to the tables of a document.  Both name a place by a path of keys.  A heading goes
through any table on its way and opens one at its end: a new one, or one that was only implied so far, which then
moves behind the others of its parent; a heading for an array of tables adds a table to it.  A dotted key goes only
through tables that no heading or braces have opened, and sets a key that was not set before in a table that dotted
keys alone have made.  Where a path meets an array of tables it goes on in the last of them.
-/
namespace CilThunk
namespace Toml

/-- Changes what a key stands for; a new key goes behind the others. -/
def alter (key : String) (change : Option Value → Option Value) : Entries → Option Entries
  | [] => (change none).map (fun v => [(key, v)])
  | (k, v) :: rest =>
    if k = key then (change (some v)).map (fun v => (k, v) :: rest)
    else (alter key change rest).map ((k, v) :: ·)

def remove (key : String) (entries : Entries) : Entries := entries.filter (fun e => e.1 ≠ key)

def find? (key : String) (entries : Entries) : Option Value := (entries.find? (fun e => e.1 = key)).map (·.2)

/-- Whether a dotted key may go through a table of this origin. -/
def Origin.isOpen : Origin → Bool
  | heading => false
  | implied => true
  | dotted => true
  | inline => false

/-- Changes the table at the end of a path.  Missing tables on the way are made: dotted ones for a dotted key, implied
ones for a heading. -/
def descend (isDotted : Bool) (change : Origin → Entries → Option Entries) :
    List String → Origin → Entries → Option Entries
  | [], origin, entries => change origin entries
  | key :: path, _, entries =>
    let fresh : Origin := if isDotted then .dotted else .implied
    alter key (fun
      | none => (descend isDotted change path fresh []).map (.table fresh)
      | some (.table origin inner) =>
        if origin = .inline ∨ (isDotted = true ∧ origin.isOpen = false) then none
        else (descend isDotted change path origin inner).map (.table origin)
      | some (.tables earlier last) => (descend isDotted change path .heading last).map (.tables earlier)
      | some _ => none) entries

def setNew (key : String) (value : Value) : Entries → Option Entries :=
  alter key (fun
    | none => some value
    | some _ => none)

/-- Sets the key at the end of a dotted path.  The table it goes into is made by dotted keys if the path has a dot, and
by anything else if it has none. -/
def setAt (path : List String) (key : String) (value : Value) : Origin → Entries → Option Entries :=
  descend true (fun origin entries =>
    if (origin == .dotted) == path.isEmpty then none else setNew key value entries) path

def openTable (key : String) (entries : Entries) : Option Entries :=
  match find? key entries with
  | none => some (entries ++ [(key, .table .heading [])])
  | some (.table .implied inner) => some (remove key entries ++ [(key, .table .heading inner)])
  | some _ => none

/-- Adds a table to an array of tables, which it starts if there is none. -/
def addTable (key : String) : Entries → Option Entries :=
  alter key (fun
    | none => some (.tables [] [])
    | some (.tables earlier last) => some (.tables (earlier ++ [last]) [])
    | some _ => none)

/-- Splits a path into what leads to its last key and that key. -/
def splitLast : List String → Option (List String × String)
  | [] => none
  | [key] => some ([], key)
  | key :: rest => (splitLast rest).map (fun p => (key :: p.1, p.2))

def inlineTable (fields : List (List String × Value)) : Option Value :=
  let add (entries : Entries) (field : List String × Value) : Option Entries :=
    match splitLast field.1 with
    | none => none
    | some (path, key) => setAt path key field.2 .inline entries
  (fields.foldlM add []).map (.table .inline)

end Toml
end CilThunk
