/-
# The program

The outer layer of the command line: it reads the environment and the settings file, runs
the arguments, and shows the report.  It has no network, so that every request to the
workflow service counts as undelivered, and no port can be listened on; a program with a
network hands other surroundings to the same run.
-/
import ChatRelay.CommandLine.Run

namespace ChatRelay.CommandLine

/-- The variables that the program looks at. -/
def variableNames : List String :=
  Reading.configVariable :: logVariable ::
    ["PORT", "SLACK_BOT_TOKEN", "SLACK_SIGNING_SECRET", "SLACK_VERIFICATION_TOKEN",
     "SKIP_SLACK_VERIFICATION", "SLACK_API_URL", "GITHUB_TOKEN", "GITHUB_ORG",
     "GITHUB_API_URL", "GITHUB_REF"]

def processEnvironment : IO Environment := do
  let values ← variableNames.filterMapM fun name => do
    return (← IO.getEnv name).map fun value => (name, value)
  return .ofList values

def readFault : IO.Error → Fault
  | .noFileOrDirectory _ _ _ => .unreadable "No such file or directory (os error 2)"
  | .permissionDenied _ _ _ => .unreadable "Permission denied (os error 13)"
  | .inappropriateType _ _ _ => .unreadable "Is a directory (os error 21)"
  | e => .unreadable e.toString

def fileContent (path : String) : IO (Except Fault (List UInt8)) := do
  try
    let bytes ← IO.FS.readBinFile path
    return .ok bytes.toList
  catch e => return .error (readFault e)

def processSurroundings (env : Environment) : Surroundings IO where
  environment := env
  contentOf := fileContent
  toGithub _ := return .unreachable ["there is no network"]
  listen _ := return .refused "there is no network"

end ChatRelay.CommandLine

open ChatRelay.CommandLine

/-- Run the program and show its report. -/
def main (args : List String) : IO UInt32 := do
  let report ← run (processSurroundings (← processEnvironment)) args
  (← IO.getStderr).putStr report.errorText
  (← IO.getStdout).putStr report.outputText
  return report.exitCode.toUInt32
