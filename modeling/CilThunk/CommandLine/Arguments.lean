import CilThunk.Settings
import CilThunk.Text.Blank
/-!
# Command-line arguments

The first word is the command; what follows are operands and, for lowering, options in any order.  A word that starts
with a dash is an option, except a dash alone; after `--` all words are operands.  A long option takes its value behind
an equals sign or as the next word, the short one also right behind its letter.  Options stand for themselves only,
once each, and no value may be missing or, for a file, empty.
-/
namespace CilThunk
namespace CommandLine

structure LowerRequest where
  /-- Operands, each a source of declarations of its own lines. -/
  declarations : List String := []
  file? : Option String := none
  config? : Option String := none
  format? : Option Format := none
  verify : Bool := false
  trace : Bool := false
  headers : Bool := false
  deriving DecidableEq, Repr

inductive Command
  | lower (request : LowerRequest)
  | classify (names : List String)
  deriving DecidableEq, Repr

inductive UsageError
  | missingCommand
  | unknownCommand (word : String)
  | unknownOption (word : String)
  | repeatedOption (name : String)
  | missingValue (name : String)
  | unexpectedValue (name : String)
  | invalidFormat (value : String)
  deriving DecidableEq, Repr

/-- Why arguments are no command: help was asked for, or they are wrong. -/
inductive Refusal
  | help
  | misuse (e : UsageError)
  deriving DecidableEq, Repr

namespace UsageError

def message : UsageError → String
  | missingCommand => "a subcommand is required but one was not provided"
  | unknownCommand word => "unrecognized subcommand '" ++ word ++ "'"
  | unknownOption word => "unexpected argument '" ++ word ++ "' found"
  | repeatedOption name => "the argument '--" ++ name ++ "' cannot be used multiple times"
  | missingValue name => "a value is required for '--" ++ name ++ "' but none was supplied"
  | unexpectedValue name => "unexpected value for '--" ++ name ++ "' found; no more were expected"
  | invalidFormat value => "invalid value '" ++ value ++ "' for '--format'"

end UsageError

/-! ## Words -/

inductive Word
  | operand
  | endOfOptions
  | long (name : String) (value? : Option String)
  /-- The characters behind a single dash, at least one. -/
  | short (letter : Char) (rest : List Char)

def Word.of (word : String) : Word :=
  match word.toList with
  | '-' :: '-' :: rest =>
    match Text.cut '=' rest with
    | some (name, value) => .long (String.ofList name) (some (String.ofList value))
    | none => if rest.isEmpty then .endOfOptions else .long (String.ofList rest) none
  | '-' :: letter :: rest => .short letter rest
  | _ => .operand

/-- A word that may be the value of the option before it. -/
def isValue (word : String) : Bool :=
  match Word.of word with
  | .operand => true
  | _ => false

/-! ## Options -/

inductive ValueOption
  | file
  | config
  | format
  deriving DecidableEq, Repr

inductive Flag
  | verify
  | trace
  | headers
  deriving DecidableEq, Repr

def ValueOption.name : ValueOption → String
  | file => "file"
  | config => "config"
  | format => "format"

def ValueOption.ofName? (name : String) : Option ValueOption := [file, config, format].find? (fun o => o.name = name)

def Flag.name : Flag → String
  | verify => "verify"
  | trace => "trace"
  | headers => "headers"

def Flag.ofName? (name : String) : Option Flag := [verify, trace, headers].find? (fun f => f.name = name)

def formatOf? : String → Option Format
  | "human" => some .human
  | "json" => some .json
  | _ => none

namespace LowerRequest

def raise (r : LowerRequest) (f : Flag) : Except UsageError LowerRequest :=
  match f with
  | .verify => if r.verify then .error (.repeatedOption f.name) else .ok { r with verify := true }
  | .trace => if r.trace then .error (.repeatedOption f.name) else .ok { r with trace := true }
  | .headers => if r.headers then .error (.repeatedOption f.name) else .ok { r with headers := true }

def set (r : LowerRequest) (o : ValueOption) (value : String) : Except UsageError LowerRequest :=
  match o with
  | .file =>
    if r.file?.isSome then .error (.repeatedOption o.name)
    else if value.isEmpty then .error (.missingValue o.name)
    else .ok { r with file? := some value }
  | .config =>
    if r.config?.isSome then .error (.repeatedOption o.name)
    else if value.isEmpty then .error (.missingValue o.name)
    else .ok { r with config? := some value }
  | .format =>
    if r.format?.isSome then .error (.repeatedOption o.name)
    else
      match formatOf? value with
      | some format => .ok { r with format? := some format }
      | none => .error (.invalidFormat value)

end LowerRequest

/-! ## Commands -/

/-- The value that follows the letter of a short option, an equals sign between them or not. -/
def attached : List Char → String
  | '=' :: value => String.ofList value
  | value => String.ofList value

/-- The option that a word gives, with its value if the word holds it; an option that wants the next word for its value
has none. -/
def optionOf (r : LowerRequest) (word : String) : Except Refusal (LowerRequest ⊕ ValueOption) :=
  let done (x : Except UsageError LowerRequest) : Except Refusal (LowerRequest ⊕ ValueOption) :=
    match x with
    | .ok r => .ok (.inl r)
    | .error e => .error (.misuse e)
  match Word.of word with
  | .long "help" none => .error .help
  | .long name value? =>
    match Flag.ofName? name, ValueOption.ofName? name, value? with
    | some flag, _, none => done (r.raise flag)
    | some flag, _, some _ => done (.error (.unexpectedValue flag.name))
    | none, some option, some value => done (r.set option value)
    | none, some option, none => .ok (.inr option)
    | none, none, _ => done (.error (.unknownOption word))
  | .short 'f' [] => .ok (.inr .file)
  | .short 'f' rest => done (r.set .file (attached rest))
  | .short 'h' _ => .error .help
  | _ => done (.error (.unknownOption word))

/-- The request that words add up to, from the one made of the words before. -/
def lowerWords (r : LowerRequest) : List String → Except Refusal LowerRequest
  | [] => .ok r
  | word :: rest =>
    match Word.of word with
    | .operand => lowerWords { r with declarations := r.declarations ++ [word] } rest
    | .endOfOptions => .ok { r with declarations := r.declarations ++ rest }
    | _ =>
      match optionOf r word with
      | .error refusal => .error refusal
      | .ok (.inl r) => lowerWords r rest
      | .ok (.inr option) =>
        match rest with
        | [] => .error (.misuse (.missingValue option.name))
        | value :: rest =>
          if isValue value then
            match r.set option value with
            | .error e => .error (.misuse e)
            | .ok r => lowerWords r rest
          else .error (.misuse (.missingValue option.name))

def classifyWords : List String → Except Refusal (List String)
  | [] => .ok []
  | word :: rest =>
    match Word.of word with
    | .operand => (classifyWords rest).map (word :: ·)
    | .endOfOptions => .ok rest
    | .long "help" none => .error .help
    | .short 'h' _ => .error .help
    | _ => .error (.misuse (.unknownOption word))

/-- The names that may stand first. -/
def commandNames : List String := ["lower", "classify", "help"]

/-- What `help` answers to the words behind it: each has to name a command of the one before it, and no command has
commands of its own.  A dash means nothing here. -/
def helpWords : List String → Refusal
  | [] => .help
  | word :: rest =>
    if word ∈ commandNames then
      match rest with
      | [] => .help
      | next :: _ => .misuse (.unknownCommand next)
    else .misuse (.unknownCommand word)

def parse : List String → Except Refusal Command
  | [] => .error (.misuse .missingCommand)
  | "lower" :: words => (lowerWords {} words).map .lower
  | "classify" :: words => (classifyWords words).map .classify
  | "help" :: words => .error (helpWords words)
  | word :: _ =>
    match Word.of word with
    | .operand => .error (.misuse (.unknownCommand word))
    | .long "help" none => .error .help
    | .short 'h' _ => .error .help
    | _ => .error (.misuse (.unknownOption word))

end CommandLine
end CilThunk
