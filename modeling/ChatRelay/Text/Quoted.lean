/-
# Quoted texts

A text is shown to people between quotes.  Quotes and backslashes inside it are escaped,
and so are the characters that would not be seen.
-/
import ChatRelay.Text.Printable

namespace ChatRelay.Text.Quoted

/-- How a character is written between quotes. -/
def escape (c : Char) : List Char :=
  if c = '"' then ['\\', '"']
  else if c = '\\' then ['\\', '\\']
  else if c = '\n' then ['\\', 'n']
  else if c = '\r' then ['\\', 'r']
  else if c = '\t' then ['\\', 't']
  else if c = '\x00' then ['\\', '0']
  else if isShown c then [c]
  else ['\\', 'u', '\x7b'] ++ Nat.toDigits 16 c.toNat ++ ['\x7d']

def quote (s : String) : String := String.ofList ('"' :: s.toList.flatMap escape ++ ['"'])

end ChatRelay.Text.Quoted
