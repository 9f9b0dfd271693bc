import CilThunk.Body.Json
import CilThunk.Body.Stream
import CilThunk.CommandLine.Arguments
import CilThunk.Declaration.Parse
import CilThunk.Listing
import CilThunk.Lowering
import CilThunk.Settings.File
/-!
# Running a command

`classify` tells of each name what it denotes.  `lower` loads its settings, reads the declarations of its operands and
then those of its file, numbering on, lowers them in order and prints all bodies at the end.  What goes wrong on the
way is told in one line, and then nothing is printed at all; log records and skipped methods are told as they come.

A run needs no more of the world than what a path leads to, which is a parameter.
-/
namespace CilThunk
namespace CommandLine

/-- What a run leaves: its exit code and what it wrote. -/
structure Transcript where
  code : UInt8
  stdout : String
  stderr : String
  deriving DecidableEq, Repr

inductive RunError
  | settings (e : LoadError)
  | operands (e : DeclarationError)
  | unreadable (path : String) (e : ReadError)
  | source (path : String) (e : DeclarationError)
  | noDeclarations
  | lowering (e : LowerError)
  deriving DecidableEq

def RunError.message : RunError → String
  | settings e => e.message
  | operands e => "declaration arguments: " ++ e.message
  | unreadable path e => "failed to read " ++ path ++ ": " ++ e.message
  | source path e => path ++ ": " ++ e.message
  | noDeclarations => "no declarations given"
  | lowering e => e.message

/-! ## What to lower, and how -/

/-- The settings of the file a request names, or the defaults, with the request's own on top. -/
def settingsOf (files : FileReader) (r : LowerRequest) : Except LoadError Settings :=
  let loaded : Except LoadError Settings :=
    match r.config? with
    | some path => Settings.load files path
    | none => .ok {}
  match loaded with
  | .error e => .error e
  | .ok s =>
    .ok { s with format := r.format?.getD s.format, verify := s.verify || r.verify, trace := s.trace || r.trace }

/-- Declarations of which an error is to be told in some way. -/
def parsed (wrap : DeclarationError → RunError) (source : String) (firstMethod : UInt32) :
    Except (Halt RunError) (List Declaration) :=
  match Declaration.parseAll source firstMethod with
  | .ok ds => .ok ds
  | .error (.refused e) => .error (.refused (wrap e))
  | .error (.broken fault) => .error (.broken fault)

def operandDeclarations (operands : List String) : Except (Halt RunError) (List Declaration) :=
  parsed .operands ("\n".intercalate operands) 1

/-- The declarations of a file, numbered on behind `count` others.  The count is taken to 32 bits, and one more has to
fit in them. -/
def fileDeclarations (files : FileReader) (path : String) (count : Nat) : Except (Halt RunError) (List Declaration) :=
  match files.text path with
  | .error e => .error (.refused (.unreadable path e))
  | .ok text =>
    if UInt32.ofNat count = 4294967295 then .error (.broken .addOverflow)
    else parsed (.source path) text (UInt32.ofNat count + 1)

/-- All declarations of a request, of which there has to be one. -/
def declarationsOf (files : FileReader) (r : LowerRequest) : Except (Halt RunError) (List Declaration) :=
  match operandDeclarations r.declarations with
  | .error halt => .error halt
  | .ok fromOperands =>
    let fromFile : Except (Halt RunError) (List Declaration) :=
      match r.file? with
      | some path => fileDeclarations files path fromOperands.length
      | none => .ok []
    match fromFile with
    | .error halt => .error halt
    | .ok fromFile =>
      if (fromOperands ++ fromFile).isEmpty then .error (.refused .noDeclarations) else .ok (fromOperands ++ fromFile)

/-! ## Lowering -/

inductive Notice
  | logged (r : Record)
  /-- A method that is no intrinsic was passed by. -/
  | skipped (name : String)
  deriving DecidableEq

/-- Lowering in progress: the module, what was told, and whether it stopped. -/
structure Progress where
  module : Module
  notices : List Notice
  result : Except (Halt LowerError) Unit

def noticesOf (d : Declaration) (o : Outcome (Option MethodBody)) : List Notice :=
  o.records.map .logged ++
    match o.result with
    | .ok none => [.skipped d.name]
    | _ => []

/-- Lowers declarations in order, up to the first that stops it. -/
def lowerAll (m : Module) (s : Settings) : List Declaration → Progress
  | [] => ⟨m, [], .ok ()⟩
  | d :: ds =>
    let o := Lowering.lower m s d
    match o.result with
    | .error halt => ⟨o.module, noticesOf d o, .error halt⟩
    | .ok _ =>
      let p := lowerAll o.module s ds
      { p with notices := noticesOf d o ++ p.notices }

/-! ## What is printed -/

/-- A log line: level and origin in brackets, the level as wide as the widest. -/
def logLine (r : Record) : String :=
  "[" ++ r.level.text ++ String.ofList (List.replicate (5 - r.level.text.length) ' ') ++ " " ++ r.target ++ "] " ++
    r.text ++ "\n"

/-- The line of a notice.  Records below warnings are only told if the run is traced. -/
def noticeLine (trace : Bool) : Notice → String
  | .logged r => if trace || r.level == .warn then logLine r else ""
  | .skipped name => "skipping `" ++ name ++ "`: not an indirect-call intrinsic\n"

def errorLine (e : RunError) : String := "error: " ++ e.message ++ "\n"

def encodedLine (b : MethodBody) : Except Fault String :=
  (BodyStream.encode b).map (fun bytes =>
    "  [" ++ Text.decimal b.parent.toNat ++ "] " ++ " ".intercalate (bytes.map Text.hexByte) ++ "\n")

def encodedLines (bs : List MethodBody) : Except Fault String :=
  (bs.mapM encodedLine).map (fun lines => "== Encoded ==\n" ++ String.join lines)

/-- All bodies of a module.  Headers go with a listing only. -/
def report (m : Module) (format : Format) (headers : Bool) : Except Fault String :=
  match format with
  | .json => .ok ((MethodBody.listToJson m.bodies.bodies).pretty ++ "\n")
  | .human =>
    let listing := Listing.listing m.signatures m.bodies.bodies
    if headers then (encodedLines m.bodies.bodies).map (listing ++ ·) else .ok listing

/-! ## Commands -/

/-- A run that ends with an error, behind what was told before it. -/
def failed (told : String) : Halt RunError → Transcript
  | .refused e => ⟨1, "", told ++ errorLine e⟩
  | .broken fault => ⟨101, "", told ++ fault.message ++ "\n"⟩

def lower (files : FileReader) (r : LowerRequest) : Transcript :=
  match settingsOf files r with
  | .error e => failed "" (.refused (.settings e))
  | .ok s =>
    match declarationsOf files r with
    | .error halt => failed "" halt
    | .ok ds =>
      match Module.ofSettings s with
      | .error fault => failed "" (.broken fault)
      | .ok m =>
        let p := lowerAll m s ds
        let told := String.join (p.notices.map (noticeLine s.trace))
        match p.result with
        | .error (.refused e) => failed told (.refused (.lowering e))
        | .error (.broken fault) => failed told (.broken fault)
        | .ok () =>
          match report p.module s.format r.headers with
          | .error fault => failed told (.broken fault)
          | .ok text => ⟨0, text, told⟩

def classifyLine (name : String) : String :=
  name ++ ": " ++ (Kind.ofName name).text ++ ", " ++ (Convention.ofName name).text ++ "\n"

def classify (names : List String) : Transcript := ⟨0, String.join (names.map classifyLine), ""⟩

def usage : String :=
  "Lower indirect-call intrinsics to CIL method bodies\n\nUsage: calli <COMMAND>\n\nCommands:\n" ++
    "  lower [DECLS]... [-f|--file FILE] [--config FILE] [--format human|json] [--verify] [--trace] [--headers]\n" ++
    "  classify [NAMES]...\n"

def run (files : FileReader) (arguments : List String) : Transcript :=
  match parse arguments with
  | .ok (.lower r) => lower files r
  | .ok (.classify names) => classify names
  | .error .help => ⟨0, usage, ""⟩
  | .error (.misuse e) => ⟨2, "", "error: " ++ e.message ++ "\n\n" ++ usage⟩

end CommandLine
end CilThunk
