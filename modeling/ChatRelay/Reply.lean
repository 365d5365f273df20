/-
# Replies

What the relay says in chat about each outcome, kept apart from the decisions that lead
there.  There are two families: replies to mentions, which are posted to the channel, and
replies to the slash command, which only its user sees.
-/
import ChatRelay.Command.Mention
import ChatRelay.Command.Action

namespace ChatRelay

/-! ## Replies to mentions -/

inductive Reply where
  | prompt
  | help
  | unknownCommand (token : String)
  | usage (verb : Verb)
  | dispatched (command : MentionCommand)
  | dispatchFailed (command : MentionCommand) (reason : String)
deriving DecidableEq, Repr

def helpText : String :=
  "🤖 *GitHub Action Bot Commands*\n\n" ++
  "*Available Commands:*\n" ++
  "• `deploy <environment> <service>` - Deploy a service to an environment\n" ++
  "• `build <service>` - Build a service\n" ++
  "• `test <service>` - Run tests for a service\n" ++
  "• `help` - Show this help message\n\n" ++
  "*Slash Commands:*\n" ++
  "• `/devops-action <repository> <workflow> [parameters...]`" ++
  " - Trigger a specific GitHub Action\n\n" ++
  "*Examples:*\n" ++
  "• `@bot deploy staging user-service`\n" ++
  "• `@bot build payment-service`\n" ++
  "• `@bot test notification-service`\n" ++
  "• `/devops-action user-service deploy.yml environment staging`\n\n" ++
  "*Need help?* Contact the DevOps team! 🚀"

/-- What is said when there was no command. -/
def promptText : String :=
  "Please provide a command. Available commands: `deploy`, `build`, `test`"

def Verb.usage : Verb → String
  | deploy => "Usage: `deploy <environment> <service>`"
  | build => "Usage: `build <service>`"
  | test => "Usage: `test <service>`"
  | help => helpText

/-- What a verb starts, as the object of a sentence. -/
def Verb.outcome : Verb → String
  | deploy => "deployment"
  | build => "build"
  | test => "tests"
  | help => "command"

namespace Reply

/-- The reply to a text that is not a command. -/
def ofRejection : Rejection → Reply
  | .empty => prompt
  | .unknownVerb token => unknownCommand token
  | .usage verb => usage verb

/-- What is said when a workflow was started. -/
def successText : MentionCommand → String
  | .deploy environment service =>
    s!"🚀 Deployment of `{service}` to `{environment}` environment has been triggered!"
  | .build service => s!"🔨 Build for `{service}` has been triggered!"
  | .test service => s!"🧪 Tests for `{service}` have been triggered!"
  | .help => helpText

/-- What is said when a workflow could not be started. -/
def failureText (command : MentionCommand) (reason : String) : String :=
  s!"❌ Failed to trigger {command.verb.outcome}: {reason}"

def render : Reply → String
  | prompt => promptText
  | help => helpText
  | unknownCommand token => s!"Unknown command: {token}. Type `help` for available commands."
  | usage verb => verb.usage
  | dispatched command => successText command
  | dispatchFailed command reason => failureText command reason

end Reply

/-! ## Replies to the slash command -/

inductive SlashReply where
  | unknownCommand
  /-- There are fewer than two words. -/
  | usage
  | dispatched (command : ActionCommand)
  | dispatchFailed (command : ActionCommand) (reason : String)
deriving DecidableEq, Repr

namespace SlashReply

def render : SlashReply → String
  | unknownCommand => "Unknown command"
  | usage => "Usage: `/devops-action <repository> <workflow> [parameters...]`"
  | dispatched command =>
    s!"✅ GitHub Action `{command.workflow}` triggered for repository `{command.repository}`"
  | dispatchFailed _ reason => s!"Failed to trigger GitHub Action: {reason}"

end SlashReply

end ChatRelay
