/-
# Dry runs

What a command would do, found without a dispatcher: the request that would be made, and
the reply once it is accepted.
-/
import ChatRelay.Reply
import ChatRelay.Settings.Relay

namespace ChatRelay

/-- What a command would do. -/
structure DryRun where
  dispatch : Option DispatchRequest
  /-- The reply, given that the request is accepted. -/
  reply : String
deriving DecidableEq, Repr

/-- The owner that is shown where the settings name none. -/
def unsetOrganization : String := "<GITHUB_ORG>"

namespace DryRun

/-- What the text of a mention would do. -/
def ofMention (organization gitRef text : String) : DryRun :=
  match MentionCommand.parse (stripMention text) with
  | .error rejection => ⟨none, (Reply.ofRejection rejection).render⟩
  | .ok command =>
    match command.toDispatch? organization gitRef with
    | some request => ⟨some request, (Reply.dispatched command).render⟩
    | none => ⟨none, Reply.help.render⟩

/-- What the text of the slash command would do. -/
def ofSlash (organization gitRef text : String) : DryRun :=
  match ActionCommand.parse? text with
  | some command =>
    ⟨some (command.toDispatch organization gitRef), (SlashReply.dispatched command).render⟩
  | none => ⟨none, SlashReply.usage.render⟩

/-- What a text would do under some settings, whether or not they are complete. -/
def ofSettings (s : Settings) (slash : Bool) (text : String) : DryRun :=
  let organization := s.github.org.getD unsetOrganization
  let gitRef := s.github.defaultRef.getD defaultRef
  if slash then ofSlash organization gitRef text else ofMention organization gitRef text

end DryRun

end ChatRelay
