/-
The program.

This is the only module that touches the world outside: it passes arguments, variables
and the contents of files to the stages of a run, writes the file that is asked for,
and prints the outcome. Notices are stamped with the time since the start.
-/
import SymbolDocs.CommandLine.Run

set_option autoImplicit false

namespace SymbolDocs.CommandLine

/-! ## Files -/

/-- The number by which the system says that something is a directory. -/
def directoryCode : UInt32 := 21

/-- The fault that a failed action on a file stands for, if it is a known one. -/
def FileFault.ofError? : IO.Error → Option FileFault
  | .noFileOrDirectory .. => some .notFound
  | .noSuchThing .. => some .notFound
  | .inappropriateType _ code _ =>
    if code = directoryCode then some .isDirectory else some .notDirectory
  | _ => none

/-- Does something with a file and answers a known fault as a value. -/
def attempt {α : Type} (action : IO α) : IO (Except FileFault α) := do
  try
    let result ← action
    return .ok result
  catch e =>
    match FileFault.ofError? e with
    | some fault => return .error fault
    | none => throw e

def readBytes (path : Path) : IO (Except FileFault (List UInt8)) :=
  attempt do
    let bytes ← IO.FS.readBinFile path.text
    return bytes.toList

def writeText (path : Path) (text : String) : IO (Except FileFault Unit) :=
  attempt (IO.FS.writeFile path.text text)

/-! ## Stages -/

/-- The variables that settings are made from. -/
def settingsFromEnvironment : IO Settings := do
  let language ← IO.getEnv "SOURCEDOCS_LANGUAGE"
  let placeholder ← IO.getEnv "SOURCEDOCS_NO_NAME"
  let pathPrefix ← IO.getEnv "SOURCEDOCS_PATH_PREFIX"
  return .ofEnvironment fun name =>
    if name = "SOURCEDOCS_LANGUAGE" then language
    else if name = "SOURCEDOCS_NO_NAME" then placeholder
    else if name = "SOURCEDOCS_PATH_PREFIX" then pathPrefix
    else none

/-- The outcome of a run on the files of this machine. -/
def perform (arguments : List String) : IO Outcome := do
  match start arguments with
  | .error outcome => return outcome
  | .ok invocation =>
    let settings ← settingsFromEnvironment
    let directory ← IO.currentDir
    let content ← readBytes (.ofString invocation.records)
    match invocation.report settings directory.toString content with
    | .error outcome => return outcome
    | .ok report =>
      match report.target? with
      | none => return report.printed
      | some path =>
        let result ← writeText path report.document
        return report.written path result

/-- How this program words its notices. -/
def consoleStyle : Notice.Style :=
  { runChannel := "sourcedocs.cli", detail := Markup.Fault.message }

/-- Prints an outcome and gives the status with which the program ends. -/
def Outcome.print (outcome : Outcome) (stamp : String) : IO UInt32 := do
  IO.print outcome.output
  for remark in outcome.remarks do
    IO.eprint (remark.render consoleStyle stamp)
  match outcome.ending with
  | .exit status => return status.toUInt32
  | .failure failure =>
    IO.eprintln failure.message
    return 1

end SymbolDocs.CommandLine

def main (arguments : List String) : IO UInt32 := do
  let began ← IO.monoMsNow
  let outcome ← SymbolDocs.CommandLine.perform arguments
  let ended ← IO.monoMsNow
  outcome.print (toString (ended - began) ++ "ms")
