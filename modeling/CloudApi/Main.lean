import CloudApi.CommandLine.Run

/-! # The program

Reads the arguments, the variables and at most one file, and writes what the command answers. -/

namespace CloudApi.CommandLine

/-- The variables that commands read. -/
def variableNames : List String :=
  ["STRATUS_PROVIDER", "AWS_REGION", "AWS_DEFAULT_REGION", "EC2_URL", "CLOUDSTACK_API_URL",
   "AWS_ACCESS_KEY_ID", "AWS_SECRET_ACCESS_KEY", "CLOUDSTACK_API_KEY", "CLOUDSTACK_SECRET_KEY"]

/-- The number of the system's error for reading a directory. -/
def isDirectoryNumber : UInt32 := 21

/-- The number of the system's error for a name that is too long. -/
def nameTooLongNumber : UInt32 := 36

/-- The code of an error stands for the number, which comes with either sign. -/
def hasNumber (code number : UInt32) : Bool := code = number || code = 0 - number

/-- Why the system did not read a file. -/
def fileError : IO.Error → FileError
  | .noFileOrDirectory .. => .notFound
  | .permissionDenied .. => .denied
  | .inappropriateType _ code _ =>
    if hasNumber code isDirectoryNumber then .isDirectory else .notADirectory
  | .invalidArgument _ code problem =>
    if hasNumber code nameTooLongNumber then .nameTooLong else .other problem
  | e => .other (toString e)

/-- Read a file. -/
def readFile (path : String) : IO (Except FileError ByteArray) :=
  try
    return .ok (← IO.FS.readBinFile path)
  catch e => return .error (fileError e)

/-- The file that arguments name, if they are those of a command that reads one. -/
def fileOf (lookup : String → Option String) (args : List String) : Option String :=
  match Command.parse lookup args with
  | .ok (.decode _ _ _ path) => some path
  | _ => none

end CloudApi.CommandLine

open CloudApi.CommandLine in
/-- Carry out the command line. -/
def main (args : List String) : IO UInt32 := do
  let values ← variableNames.mapM fun name => return (name, ← IO.getEnv name)
  let lookup (name : String) : Option String := (values.lookup name).join
  let bytes ← (fileOf lookup args).mapM readFile
  let output := run lookup (fun _ => bytes.getD (.error .notFound)) args
  IO.print output.stdout
  IO.eprint output.stderr
  return output.exit.toUInt32
