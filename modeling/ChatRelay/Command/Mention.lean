/-
# Mention commands

Text addressed to the bot is cut into words.  The first word is a verb, and three of the
verbs start a workflow: a deployment names an environment and a service, a build and a test
name a service.  Further words are ignored.  The service is the repository, and the verb
decides which of its workflow files is run.
-/
import ChatRelay.Command.Dispatch
import ChatRelay.Text.Blank

namespace ChatRelay

/-! ## The reference to the bot -/

/-- What follows a leading `<@…>`, if the text starts with one. -/
def afterReference? : List Char → Option (List Char)
  | '<' :: '@' :: rest =>
    match rest.dropWhile (· != '>') with
    | _ :: after => some after
    | [] => none
  | _ => none

/-- The text without blanks at its ends and without one leading reference to the bot. -/
def stripMention (text : String) : String :=
  let s := Text.trim text.toList
  String.ofList
    (match afterReference? s with
    | some after => Text.trim after
    | none => s)

/-! ## Verbs -/

/-- The first word of a mention command. -/
inductive Verb where
  | deploy
  | build
  | test
  | help
deriving DecidableEq, Repr

namespace Verb

def all : List Verb := [deploy, build, test, help]

def name : Verb → String
  | deploy => "deploy"
  | build => "build"
  | test => "test"
  | help => "help"

/-- The verb of a word; the case of its letters counts. -/
def ofName? (s : String) : Option Verb := all.find? fun v => v.name == s

/-- The workflow file that a verb starts. -/
def workflowFile? : Verb → Option String
  | deploy => some "deploy.yml"
  | build => some "build.yml"
  | test => some "test.yml"
  | help => none

theorem ofName?_name (v : Verb) : ofName? v.name = some v := by
  cases v <;> decide

end Verb

/-! ## Commands -/

/-- A command addressed to the bot. -/
inductive MentionCommand where
  | deploy (environment service : String)
  | build (service : String)
  | test (service : String)
  | help
deriving DecidableEq, Repr

/-- Why a text is not a mention command. -/
inductive Rejection where
  | empty
  | unknownVerb (token : String)
  /-- The verb lacks some of its arguments. -/
  | usage (verb : Verb)
deriving DecidableEq, Repr

namespace MentionCommand

/-- The command of a verb and the words after it. -/
def ofArguments? : Verb → List String → Option MentionCommand
  | .deploy, environment :: service :: _ => some (deploy environment service)
  | .build, service :: _ => some (build service)
  | .test, service :: _ => some (test service)
  | .help, _ => some help
  | _, _ => none

def ofWords : List String → Except Rejection MentionCommand
  | [] => .error .empty
  | first :: arguments =>
    match Verb.ofName? first with
    | none => .error (.unknownVerb first)
    | some verb =>
      match ofArguments? verb arguments with
      | some command => .ok command
      | none => .error (.usage verb)

def parse (text : String) : Except Rejection MentionCommand := ofWords (Text.words text)

def verb : MentionCommand → Verb
  | deploy _ _ => .deploy
  | build _ => .build
  | test _ => .test
  | help => .help

/-- The service that a command is about, with the inputs of its workflow. -/
def target? : MentionCommand → Option (String × Inputs)
  | deploy environment service =>
    some (service, Inputs.ofList [("environment", environment), ("service", service)])
  | build service => some (service, Inputs.ofList [("service", service)])
  | test service => some (service, Inputs.ofList [("service", service)])
  | help => none

/-- The workflow run that a command asks for, in an organization and on a ref. -/
def toDispatch? (organization gitRef : String) (c : MentionCommand) : Option DispatchRequest := do
  let workflow ← c.verb.workflowFile?
  let (service, inputs) ← c.target?
  return ⟨organization, service, workflow, gitRef, inputs⟩

end MentionCommand

end ChatRelay
