import CilThunk.Files
import CilThunk.Settings.Document
/-!
# Settings in a file
-/
namespace CilThunk

inductive LoadError
  | unreadable (path : String) (e : ReadError)
  | unfit (path : String) (e : SettingsError)
  deriving DecidableEq, Repr

def LoadError.message : LoadError → String
  | unreadable path e => "failed to read " ++ path ++ ": " ++ e.message
  | unfit path e => "failed to parse " ++ path ++ ": " ++ e.message

/-- The settings that the file at a path gives. -/
def Settings.load (files : FileReader) (path : String) : Except LoadError Settings :=
  match files.text path with
  | .error e => .error (.unreadable path e)
  | .ok text =>
    match parse text with
    | .error e => .error (.unfit path e)
    | .ok s => .ok s

end CilThunk
