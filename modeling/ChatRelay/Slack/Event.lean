/-
# Events of the chat service

An event is an envelope with a type.  Two types matter: the challenge by which the service
checks the relay's address, and the callback that wraps what happened in a channel.  All of
an envelope has to be JSON that could be kept, whatever its type.  An envelope, and the
callback inside it, may also be written as arrays.
-/
import ChatRelay.Json.Typed

namespace ChatRelay.Slack

open Json (Source)

/-- What happened in a channel. -/
structure Callback where
  kind : String
  text : String
  user : String
  channel : String
deriving DecidableEq, Repr

/-- Read a callback; all fields but the kind may be missing. -/
def Callback.ofJson? (v : Source) : Option Callback := do
  let text := Source.orElse Source.text? ""
  match ← v.fields? ["type", "text", "user", "channel"] with
  | [kind, message, user, channel] =>
    return ⟨← Source.required Source.text? kind, ← text message, ← text user, ← text channel⟩
  | _ => none

inductive Event where
  /-- The service checks the relay's address. -/
  | challenge (text : String)
  | callback (callback : Callback)
  | other
deriving DecidableEq, Repr

namespace Event

/-- The type of an envelope, and the envelope without it. -/
def envelope? : Source → Option (String × Source)
  | .array (type :: rest) => type.text?.map fun s => (s, .array rest)
  | .object members => do
    let isType (m : List UInt8 × Source) : Bool := Json.textOf? m.1 == some "type"
    match members.filter isType with
    | [(_, type)] => type.text?.map fun s => (s, .object (members.filter fun m => !isType m))
    | _ => none
  | _ => none

/-- Whether an envelope without its type is an array that holds something: where there are no
fields, that is too much. -/
def isOverlong : Source → Bool
  | .array items => !items.isEmpty
  | _ => false

def ofJson? (v : Source) : Option Event := do
  let (type, content) ← envelope? v
  if type = "url_verification" then
    match ← content.fields? ["challenge"] with
    | [text] => (Source.required Source.text? text).map challenge
    | _ => none
  else if type = "event_callback" then
    match ← content.fields? ["event"] with
    | [event] => (Source.required Callback.ofJson? event).map callback
    | _ => none
  else if isOverlong content then none
  else return other

/-- Read an event from the bytes of a request. -/
def decode? (body : List UInt8) : Option Event := (Json.readKept? body).bind ofJson?

end Event

end ChatRelay.Slack
