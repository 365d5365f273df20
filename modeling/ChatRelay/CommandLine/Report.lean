/-
# What a run of the program shows

A run shows some output, some lines of a log, and, if it fails, why.  The log and the
reason for a failure are written apart from the output, the reason last.
-/
import ChatRelay.CommandLine.Command
import ChatRelay.CommandLine.Log
import ChatRelay.Failure
import ChatRelay.Settings.Relay

namespace ChatRelay.CommandLine

/-! ## The log -/

/-- A warning about a configuration in the log. -/
def LogLine.ofWarning (w : Warning) : LogLine :=
  let level : LogLevel :=
    match w.level with
    | .warning => .warning
    | .error => .error
  { level, source := "chatops::cmd::serve", message := w.message }

/-! ## Reports -/

inductive Ending where
  | done
  | failed (failure : Failure)
  | misused (command : Command)
  /-- It breaks off at something that it cannot do. -/
  | broken (reason : String)
deriving DecidableEq, Repr

/-- What a run shows. -/
structure Report where
  /-- What is to be said before anything else. -/
  remarks : List String := []
  log : List LogLine := []
  output : List String := []
  ending : Ending := .done
deriving DecidableEq, Repr

namespace Report

/-- The report of a run that only fails. -/
def failed (f : Failure) : Report := { ending := .failed f }

/-- The report of a run that only shows a value. -/
def ofJson (v : Json) : Report := { output := [v.pretty] }

/-- The report with some lines of the log before it. -/
def after (r : Report) (log : List LogLine) : Report := { r with log := log ++ r.log }

/-- The report with what a filter shows of its log. -/
def filtered (r : Report) (f : LogFilter) : Report :=
  { r with remarks := f.remarks, log := r.log.filter f.shows }

def exitCode (r : Report) : Nat :=
  match r.ending with
  | .done => 0
  | .failed _ => 1
  | .misused _ => 2
  | .broken _ => 101

def textOf (lines : List String) : String := String.join (lines.map (· ++ "\n"))

def outputText (r : Report) : String := textOf r.output

/-- The lines that say how the run ends. -/
def endingLines (r : Report) : List String :=
  match r.ending with
  | .done => []
  | .failed f => ["error: " ++ f.chain]
  | .misused c => ["error: these arguments are not understood", c.usageLine]
  | .broken reason => [reason]

/-- The text of the log and of the reason for a failure. -/
def errorText (r : Report) : String :=
  textOf (r.remarks ++ r.log.map LogLine.render ++ r.endingLines)

end Report

end ChatRelay.CommandLine
