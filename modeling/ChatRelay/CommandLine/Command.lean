/-
# The commands of the program

The program has commands and some of these have commands of their own.  Each says which
options it takes and how many other arguments, its operands.  Four options are common to
all commands.
-/

namespace ChatRelay.CommandLine

/-! ## Options -/

inductive Opt where
  | config
  | json
  | version
  | help
  | port
  | org
  | gitRef
  | slash
deriving DecidableEq, Repr

namespace Opt

def name : Opt → String
  | config => "config"
  | json => "json"
  | version => "version"
  | help => "help"
  | port => "port"
  | org => "org"
  | gitRef => "ref"
  | slash => "slash"

def letter? : Opt → Option Char
  | json => some 'j'
  | version => some 'V'
  | help => some 'h'
  | _ => none

def takesValue : Opt → Bool
  | config => true
  | port => true
  | org => true
  | gitRef => true
  | _ => false

/-- The options of all commands. -/
def common : List Opt := [config, json, version, help]

end Opt

/-! ## Operands -/

/-- What a command takes besides options. -/
inductive Operands where
  | none
  | command
  | exactly (names : List String)
  | atLeast (names : List String)
  /-- Some text: from its first word on, everything belongs to it. -/
  | text
deriving DecidableEq, Repr

/-- Whether there may be one more operand after some. -/
def Operands.allowsMore : Operands → Nat → Bool
  | .none, _ => false
  | .command, _ => false
  | .exactly names, n => n < names.length
  | .atLeast _, _ => true
  | .text, _ => true

/-! ## Commands -/

/-- The program and its commands. -/
inductive Command where
  | program
  | serve
  | config
  | configCheck
  | workflows
  | workflowsList
  | workflowsDispatch
  | route
deriving DecidableEq, Repr

namespace Command

/-- The words that call a command. -/
def words : Command → List String
  | program => ["chatops"]
  | serve => ["chatops", "serve"]
  | config => ["chatops", "config"]
  | configCheck => ["chatops", "config", "check"]
  | workflows => ["chatops", "workflows"]
  | workflowsList => ["chatops", "workflows", "list"]
  | workflowsDispatch => ["chatops", "workflows", "dispatch"]
  | route => ["chatops", "route"]

/-- The options of a command besides the common ones. -/
def ownOptions : Command → List Opt
  | serve => [.port]
  | workflowsList => [.org]
  | workflowsDispatch => [.org, .gitRef]
  | route => [.slash]
  | _ => []

def options (c : Command) : List Opt := Opt.common ++ c.ownOptions

def option? (c : Command) (name : String) : Option Opt := c.options.find? fun o => o.name == name

def letter? (c : Command) (letter : Char) : Option Opt :=
  c.options.find? fun o => o.letter? == some letter

/-- What a command takes besides options. -/
def operands : Command → Operands
  | program => .command
  | serve => .none
  | config => .command
  | configCheck => .none
  | workflows => .command
  | workflowsList => .exactly ["REPO"]
  | workflowsDispatch => .atLeast ["REPO", "WORKFLOW"]
  | route => .text

/-- A command's own command of a name. -/
def command? : Command → String → Option Command
  | program, "serve" => some serve
  | program, "config" => some config
  | program, "workflows" => some workflows
  | program, "route" => some route
  | config, "check" => some configCheck
  | workflows, "list" => some workflowsList
  | workflows, "dispatch" => some workflowsDispatch
  | _, _ => none

/-- Whether a word asks a command for help: a command with commands of its own has one
for that. -/
def hasHelp (c : Command) (word : String) : Bool := c.operands == .command && word == "help"

def version : String := "0.1.0"

/-- A command with its version. -/
def versionLine (c : Command) : String := "-".intercalate c.words ++ " " ++ version

def usageLine (c : Command) : String :=
  let operands :=
    match c.operands with
    | .none => []
    | .command => ["<COMMAND>"]
    | .exactly names => names.map fun n => "<" ++ n ++ ">"
    | .atLeast names => (names.map fun n => "<" ++ n ++ ">") ++ ["[INPUTS]..."]
    | .text => ["<TEXT>..."]
  "Usage: " ++ " ".intercalate (c.words ++ "[OPTIONS]" :: operands)

end Command

end ChatRelay.CommandLine
