/-
# Failures

A failure is a cause at the bottom with the contexts that were added to it on its way out.
The people of a chat see the outermost context only; on the command line everything is
shown, from the outermost context down to the last cause.
-/
import ChatRelay.Fault

namespace ChatRelay

/-! ## Causes -/

/-- What is at the bottom of a failure. -/
inductive Cause where
  | fault (fault : Fault)
  | other (message : String) (causes : List String)
deriving DecidableEq, Repr

namespace Cause

def message : Cause → String
  | fault f => f.message
  | other message _ => message

/-- The texts behind a cause, from the outer to the inner ones. -/
def causes : Cause → List String
  | fault _ => []
  | other _ causes => causes

end Cause

/-! ## Failures -/

/-- What went wrong, and the contexts in which it did. -/
structure Failure where
  /-- The contexts, the outermost first. -/
  contexts : List String
  cause : Cause
deriving DecidableEq, Repr

namespace Failure

/-- The failure of a fault, without contexts. -/
def ofFault (f : Fault) : Failure := ⟨[], .fault f⟩

/-- A failure that is only known by a text. -/
def ofText (s : String) : Failure := ⟨[], .other s []⟩

def within (f : Failure) (context : String) : Failure :=
  { f with contexts := context :: f.contexts }

/-- The wording of a failure: its outermost context. -/
def message (f : Failure) : String := f.contexts.headD f.cause.message

/-- The wording of a failure with all that is behind it. -/
def chain (f : Failure) : String :=
  ": ".intercalate (f.contexts ++ f.cause.message :: f.cause.causes)

end Failure

end ChatRelay
