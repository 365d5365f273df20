import ChatRelay.Text.Blank
import ChatRelay.Digest.Hmac
import ChatRelay.Json.Basic
import ChatRelay.Json.Source
import ChatRelay.Yaml.Node
import ChatRelay.Url.Parse
import ChatRelay.Settings.Environment
import ChatRelay.Settings.Relay
import ChatRelay.Verifier
import ChatRelay.Router
import ChatRelay.DryRun
import ChatRelay.Github.Client
import ChatRelay.Slack.Client
import ChatRelay.Server.Basic
import ChatRelay.CommandLine.Run
import ChatRelay.Main
import ChatRelay.Proofs.Router.Run
import ChatRelay.Proofs.Text.Decimal
import ChatRelay.Proofs.Text.Hex
import ChatRelay.Proofs.Verifier.Signature
import ChatRelay.Proofs.Server.Task
import ChatRelay.Server.Session
import ChatRelay.Proofs.Server.Related
import ChatRelay.Proofs.Server.Session
import ChatRelay.Proofs.Server.Scripted
import ChatRelay.Proofs.Server.Gate
import ChatRelay.Proofs.Url.Host
import ChatRelay.Proofs.Web.Exchange
import ChatRelay.Proofs.Server.Trail
import ChatRelay.Proofs.Server.Calls
import ChatRelay.Proofs.Server.Response
import ChatRelay.Proofs.Server.Refinement
import ChatRelay.Proofs.Text.Percent
import ChatRelay.Proofs.Text.Blank
import ChatRelay.Proofs.Url.Segment
import ChatRelay.Proofs.Server.Sending
import ChatRelay.Proofs.Github.Address
import ChatRelay.Proofs.Github.Endpoint
import ChatRelay.Proofs.Server.Outcome
import ChatRelay.Proofs.Github.Start
import ChatRelay.Proofs.Json.Member
import ChatRelay.Proofs.Slack.Event
import ChatRelay.Proofs.Server.Acknowledge
import ChatRelay.Proofs.Settings.Setting
import ChatRelay.Proofs.Settings.Overlay
import ChatRelay.Proofs.Settings.Layers
import ChatRelay.Proofs.Settings.Requirement
import ChatRelay.Proofs.Verifier.Credential
import ChatRelay.Proofs.Verifier.Mode
import ChatRelay.Proofs.Json.Grammar
import ChatRelay.Proofs.Json.Numeral
import ChatRelay.Proofs.Json.Lexeme
import ChatRelay.Proofs.Json.Lexing
import ChatRelay.Proofs.Json.Literal
import ChatRelay.Proofs.Json.Writing
import ChatRelay.Proofs.Json.RoundTrip
import ChatRelay.Proofs.Json.Same
import ChatRelay.Proofs.Verifier.Binding
import ChatRelay.Proofs.Text.Spacing
import ChatRelay.Proofs.CommandLine.Dispatch
import ChatRelay.Proofs.CommandLine.DryRun
import ChatRelay.Proofs.Server.Independence
import ChatRelay.Proofs.Server.Status
import ChatRelay.Proofs.Command.Grammar
import ChatRelay.Proofs.CommandLine.Secrecy
import ChatRelay.Proofs.Slack.Presentation
import ChatRelay.Proofs.Server.Presentation
import ChatRelay.Proofs.Command.Reference
import ChatRelay.Proofs.Command.Pairing
import ChatRelay.Proofs.Form.Fault
import ChatRelay.Proofs.Form.Content
import ChatRelay.Proofs.Form.Writing
import ChatRelay.Proofs.Reply.Distinct
import ChatRelay.Proofs.Table.Layout
import ChatRelay.Proofs.CommandLine.ServiceCall
import ChatRelay.Proofs.CommandLine.Outcome
