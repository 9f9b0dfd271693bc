import CilThunk.CommandLine.Run
/-!
# The program

Reads the files that the arguments name, runs the command on them and writes what it leaves.
-/
namespace CilThunk

def CommandLine.Command.paths : CommandLine.Command → List String
  | .lower r => r.config?.toList ++ r.file?.toList
  | .classify _ => []

/-- Why the system would not read a file.  Error numbers come with either sign. -/
def ReadError.ofSystem : IO.Error → ReadError
  | .noFileOrDirectory .. => .notFound
  | .inappropriateType _ code _ => if code = 21 ∨ code = 0 - 21 then .isDirectory else .notADirectory
  | e => .system e.toString

def readFile (path : String) : IO (Except ReadError ByteArray) := do
  match ← (IO.FS.readBinFile path).toBaseIO with
  | .ok bytes => return .ok bytes
  | .error e => return .error (.ofSystem e)

end CilThunk

open CilThunk in
def main (arguments : List String) : IO UInt32 := do
  let paths := match CommandLine.parse arguments with
    | .ok command => command.paths
    | .error _ => []
  let contents ← paths.mapM (fun path => return (path, ← readFile path))
  let files : FileReader := fun path => (contents.lookup path).getD (.error .notFound)
  let t := CommandLine.run files arguments
  (← IO.getStderr).putStr t.stderr
  (← IO.getStdout).putStr t.stdout
  return t.code.toUInt32
