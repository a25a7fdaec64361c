import PriorArt.CommandLine.Arguments
import PriorArt.CommandLine.Command

/-!
# The program

Reads the files that the arguments name, makes the inquiry and writes its report. The program has no
network of its own: every request finds its connection closed.
-/

open PriorArt PriorArt.CommandLine

def readText (path : String) : IO (Except FileFault String) := do
  try
    return .ok (← IO.FS.readFile path)
  catch
    | .noFileOrDirectory .. => return .error ⟨"NotFound"⟩
    | .permissionDenied .. => return .error ⟨"PermissionDenied"⟩
    | _ => return .error ⟨"Other"⟩

def readInputs (arguments : Arguments) : IO Inputs := do
  let config ← readText arguments.config
  let disclosure ← readText arguments.disclosure
  let priorContext ← arguments.priorContext.mapM readText
  return { config := config.toOption, disclosure, priorContext, caseId := arguments.caseId }

def errorText : CommandError → String
  | .config .unreadable => "Failed to read config file."
  | .config .unparsable => "Failed to parse config file."
  | .config (.invalid defect) => defect.message
  | .file fault => "File error: " ++ fault.kind
  | .badPriorContext => "The prior context is not valid JSON."
  | .run error => error.message

def fail (error : CommandError) : IO UInt32 := do
  IO.eprintln (errorText error)
  return 1

def runCommand (arguments : Arguments) : IO UInt32 := do
  match Job.prepare (← readInputs arguments) with
  | .error error => fail error
  | .ok job =>
    match (job.run (fun _ => .closed) (fun _ => .closed)).result with
    | .error error => fail (.run error)
    | .ok report =>
      let text := report.toJson.indented 0
      match arguments.output with
      | some path => IO.FS.writeFile path text
      | none => IO.println text
      return 0

def usage : String :=
  "Usage: prior-art-search --config <FILE> --disclosure <FILE> --case-id <ID> " ++
    "[--prior-context <FILE>] [--output <FILE>]"

def main (args : List String) : IO UInt32 := do
  match Arguments.parse args with
  | .ok arguments => runCommand arguments
  | .error .helpRequested => IO.println usage; return 0
  | .error .versionRequested => IO.println "prior-art-search 0.1.0"; return 0
  | .error _ => IO.eprintln usage; return 2
