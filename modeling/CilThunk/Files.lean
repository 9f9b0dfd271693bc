/-!
# Reading files

Why a file could not be read as text.  The bytes come from outside; that they are text is decided here.
-/
namespace CilThunk

inductive ReadError
  | notFound
  | isDirectory
  | notADirectory
  | notText
  /-- Any other reason, in the system's words. -/
  | system (text : String)
  deriving DecidableEq, Repr

def ReadError.message : ReadError → String
  | notFound => "No such file or directory (os error 2)"
  | isDirectory => "Is a directory (os error 21)"
  | notADirectory => "Not a directory (os error 20)"
  | notText => "stream did not contain valid UTF-8"
  | system text => text

/-- The bytes at a path, or why there are none. -/
abbrev FileReader := String → Except ReadError ByteArray

def FileReader.text (files : FileReader) (path : String) : Except ReadError String :=
  match files path with
  | .error e => .error e
  | .ok bytes =>
    match String.fromUTF8? bytes with
    | some text => .ok text
    | none => .error .notText

end CilThunk
