import Stencil.CommandLine.Run

/-!
# The program

Reads the files that the arguments name, and the standard input if anything is to come from
there, and leaves everything else to `Inputs.run`.
-/

namespace Stencil.CommandLine

def standardInputPath : String := "/dev/stdin"

def FileError.ofSystem : IO.Error → FileError
  | .noFileOrDirectory .. => .notFound
  | .inappropriateType _ 20 _ => .notDirectory
  | .inappropriateType .. => .isDirectory
  | .invalidArgument _ 36 _ => .nameTooLong
  | error => .other (toString error)

/-- Reads a file; the standard input is left to be read with what else comes from there. -/
def readSystemFile (path : String) : IO (Except String File) := do
  if path = standardInputPath then return .ok .standardInput
  try
    return .ok (.stored (← IO.FS.readBinFile path))
  catch error =>
    return .error (FileError.ofSystem error).message

/-- The complaints of the readers of this library, which say no more than that a text is refused. -/
def Complaints.brief : Complaints where
  arguments _ := "Usage: json-template [OPTIONS] <TEMPLATE>\n"
  config _ := "not a document with known entries"
  data
    | .json, _ => "not a JSON text"
    | .toml, _ => "not a TOML document"

/-- What a request can see of the system.  Nothing is logged. -/
def systemInputs (request : Option Request) : IO Inputs := do
  match request with
  | some (.expand template arguments) =>
    let paths := template :: (arguments.config.toList ++ arguments.data.toList)
    let contents ← paths.mapM fun path => return (path, ← readSystemFile path)
    let standard ←
      if arguments.data.isNone || paths.contains standardInputPath then
        (← IO.getStdin).readBinToEnd
      else pure .empty
    let read path := (contents.lookup path).getD (.error FileError.notFound.message)
    return ⟨read, standard, .brief, fun _ => []⟩
  | _ => return ⟨fun _ => .error FileError.notFound.message, .empty, .brief, fun _ => []⟩

/-- Writes what a run leaves for the standard output. -/
def deliverOutput (bytes : ByteArray) : IO (Option Failure) := do
  try
    let stream ← IO.getStdout
    stream.write bytes
    stream.flush
    return none
  catch error =>
    return some (.output (FileError.ofSystem error).message)

def execute (arguments : List String) : IO UInt32 := do
  let inputs ← systemInputs (Request.parse? arguments)
  let result := inputs.run ⟨none, ""⟩ arguments
  let refused ← deliverOutput result.output
  let errors ← IO.getStderr
  errors.putStr result.errors
  match refused with
  | none => return result.code.toUInt32
  | some failure =>
    if result.code = 0 then errors.putStr failure.report
    return 1

end Stencil.CommandLine

def main (arguments : List String) : IO UInt32 :=
  Stencil.CommandLine.execute arguments
