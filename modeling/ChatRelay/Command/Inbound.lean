/-
# Inbound commands

One chat request: its text, who sent it and from where, and in which of the two styles it
was made.
-/
import ChatRelay.Json.Basic
import ChatRelay.Json.Typed

namespace ChatRelay

open Json (Source)

/-- The two ways in which a command reaches the relay. -/
inductive Style where
  | mention
  | slashCommand
deriving DecidableEq, Repr

namespace Style

def all : List Style := [mention, slashCommand]

def name : Style → String
  | mention => "mention"
  | slashCommand => "slash_command"

def ofName? (s : String) : Option Style := all.find? fun v => v.name == s

def toJson (s : Style) : Json := .text s.name

def ofJson? (v : Source) : Option Style := v.name?.bind ofName?

end Style

structure Inbound where
  style : Style
  text : String
  user : String
  channel : String
deriving DecidableEq, Repr

end ChatRelay
