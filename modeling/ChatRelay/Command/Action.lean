/-
# Slash commands

The slash command names a repository and a workflow, followed by the inputs of the run as
words that alternate between names and values.
-/
import ChatRelay.Command.Dispatch
import ChatRelay.Text.Blank

namespace ChatRelay

/-- The one slash command that is answered. -/
def slashCommand : String := "/devops-action"

/-- The arguments of the slash command. -/
structure ActionCommand where
  repository : String
  workflow : String
  inputs : Inputs
deriving DecidableEq, Repr

namespace ActionCommand

/-- The command of a list of words, if there are at least two. -/
def ofWords? : List String → Option ActionCommand
  | repository :: workflow :: rest => some ⟨repository, workflow, Inputs.ofTokens rest⟩
  | _ => none

def parse? (text : String) : Option ActionCommand := ofWords? (Text.words text)

/-- The workflow run that a command asks for, in an organization and on a ref. -/
def toDispatch (organization gitRef : String) (c : ActionCommand) : DispatchRequest :=
  ⟨organization, c.repository, c.workflow, gitRef, c.inputs⟩

end ActionCommand

end ChatRelay
