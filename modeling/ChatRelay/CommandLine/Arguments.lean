/-
# Reading arguments

Arguments are read from left to right.  An option is written `--name`, its value follows
as the next argument or after an equals sign; options without a value can be written as
letters after one dash.  An option counts once at each command on the way to the last one,
and the value that stands nearest to that one counts.  After `--` there are operands only.
The text of a dry run begins at the first argument that is no option of the command, and
everything after that belongs to it.
-/
import ChatRelay.CommandLine.Command
import ChatRelay.Settings.Environment

namespace ChatRelay.CommandLine

open Text

/-! ## What is asked for -/

/-- What the program is to do. -/
inductive Job where
  /-- Run the relay, on a port other than the configured one if there is one. -/
  | serve (port : Option UInt16)
  | checkConfig
  | listWorkflows (repository : String) (org : Option String)
  | startWorkflow (repository workflow : String) (inputs : List String)
      (org gitRef : Option String)
  | route (slash : Bool) (text : String)
deriving DecidableEq, Repr

/-- A job, with what is common to all jobs. -/
structure Invocation where
  config : Option String
  json : Bool
  job : Job
deriving DecidableEq, Repr

/-- Why there is nothing to do. -/
inductive Halt where
  | version (command : Command)
  | help (command : Command)
  | misuse (command : Command)
deriving DecidableEq, Repr

/-- What comes of asking for help with the command that words lead to.  A word that calls
no command is misuse; the help is itself the last word of a command that has commands. -/
def Halt.ofHelp (c : Command) : List String → Halt
  | [] => .help c
  | word :: rest =>
    match c.command? word with
    | some c => ofHelp c rest
    | none => if c.hasHelp word && rest.isEmpty then .help c else .misuse c

/-! ## Reading -/

/-- Options with their values; those without a value have the empty one. -/
abbrev Given : Type := List (Opt × String)

structure Reading where
  command : Command := .program
  given : Given := []
  /-- The options before its name and before the ones on the way to it, the last first. -/
  outer : List Given := []
  operands : List String := []
deriving DecidableEq, Repr

/-- The port that a text names: an integer in decimal with an optional sign. -/
def port? (s : String) : Option UInt16 :=
  match Decimal.readInt64 s.toList with
  | .ok i => if 0 ≤ i ∧ i ≤ maxPort then some (UInt16.ofNat i.toNat) else none
  | .error _ => none

/-- Whether an option can have a value. -/
def Opt.accepts : Opt → String → Bool
  | .config, value => !value.isEmpty
  | .port, value => (port? value).isSome
  | _, _ => true

/-- Whether an argument looks like an option; a single dash does not. -/
def isOptionLike (arg : String) : Bool :=
  match arg.toList with
  | '-' :: _ :: _ => true
  | _ => false

/-- How an argument that looks like an option is made up. -/
inductive OptionForm where
  /-- The mark after which there are operands only. -/
  | mark
  | name (name : String) (value : Option String)
  | letters (letters : List Char)
deriving DecidableEq, Repr

/-- Take apart an argument that looks like an option. -/
def OptionForm.of? (arg : String) : Option OptionForm :=
  match arg.toList with
  | ['-', '-'] => some .mark
  | '-' :: '-' :: cs =>
    let name := String.ofList (cs.takeWhile (· != '='))
    match cs.dropWhile (· != '=') with
    | [] => some (.name name none)
    | _ :: value => some (.name name (some (String.ofList value)))
  | '-' :: c :: cs => some (.letters (c :: cs))
  | _ => none

namespace Reading

/-- The reading stops because the command is not used as it should be. -/
def misuse {α : Type} (r : Reading) : Except Halt α := .error (.misuse r.command)

/-- Note an option with its value. -/
def give (r : Reading) (o : Opt) (value : String) : Except Halt Reading :=
  match o with
  | .version => .error (.version r.command)
  | .help => .error (.help r.command)
  | _ =>
    if (r.given.lookup o).isSome || !o.accepts value then r.misuse
    else .ok { r with given := (o, value) :: r.given }

/-- Note the options of some letters. -/
def giveLetters (r : Reading) (letters : List Char) : Except Halt Reading :=
  letters.foldlM (fun r c =>
    match r.command.letter? c with
    | some o => r.give o ""
    | none => r.misuse) r

/-- Note an operand. -/
def operate (r : Reading) (arg : String) : Except Halt Reading :=
  if r.command.operands.allowsMore r.operands.length then
    .ok { r with operands := r.operands ++ [arg] }
  else r.misuse

/-- Note arguments that are operands, all of them. -/
def operateAll (r : Reading) (args : List String) : Except Halt Reading :=
  args.foldlM operate r

/-- Go on to a command of the present one. -/
def enter (r : Reading) (c : Command) : Reading :=
  { r with command := c, given := [], outer := r.given :: r.outer }

/-- Whether the operands are a text. -/
def readsText (r : Reading) : Bool := r.command.operands == .text

/-- Whether an argument is text because it is no option of a command that takes text. -/
def isText (r : Reading) (form : OptionForm) : Bool :=
  r.readsText &&
    match form with
    | .mark => false
    | .name name _ => (r.command.option? name).isNone
    | .letters cs => cs.any fun c => (r.command.letter? c).isNone

def read (r : Reading) : List String → Except Halt Reading
  | [] => .ok r
  | arg :: rest =>
    match OptionForm.of? arg with
    | none =>
      if r.readsText then r.operateAll (arg :: rest)
      else
        match r.command.command? arg with
        | some c => (r.enter c).read rest
        | none =>
          if r.command.hasHelp arg then .error (.ofHelp r.command rest)
          else do (← r.operate arg).read rest
    | some form =>
      if r.isText form then r.operateAll (arg :: rest)
      else
        match form with
        | .mark => r.operateAll rest
        | .letters cs => do (← r.giveLetters cs).read rest
        | .name name value =>
          match r.command.option? name, value, rest with
          | none, _, _ => r.misuse
          | some o, none, rest =>
            if o.takesValue then
              match rest with
              | [] => r.misuse
              | v :: rest =>
                if isOptionLike v then r.misuse else do (← r.give o v).read rest
            else do (← r.give o "").read rest
          | some o, some v, rest =>
            if o.takesValue then do (← r.give o v).read rest else r.misuse

/-! ## The end of the arguments -/

/-- The value of an option that counts. -/
def value? (r : Reading) (o : Opt) : Option String :=
  (r.given :: r.outer).findSome? fun given => given.lookup o

def isGiven (r : Reading) (o : Opt) : Bool := (r.value? o).isSome

/-- The job, if the command has all its operands. -/
def job? (r : Reading) : Option Job :=
  match r.command, r.operands with
  | .serve, _ => some (.serve ((r.value? .port).bind port?))
  | .configCheck, _ => some .checkConfig
  | .workflowsList, [repository] => some (.listWorkflows repository (r.value? .org))
  | .workflowsDispatch, repository :: workflow :: inputs =>
    some (.startWorkflow repository workflow inputs (r.value? .org) (r.value? .gitRef))
  | .route, word :: words => some (.route (r.isGiven .slash) (" ".intercalate (word :: words)))
  | _, _ => none

/-- The variable that names the settings file where the arguments do not. -/
def configVariable : String := "CHATOPS_CONFIG"

/-- Whether the variable for the settings file can be used: it must not be empty where it
is looked at, that is, at each command that the option is not given at. -/
def allowsVariable (r : Reading) (env : Environment) : Bool :=
  env configVariable ≠ some "" ||
    (r.given :: r.outer).all fun given => (given.lookup .config).isSome

def invocation (r : Reading) (env : Environment) : Except Halt Invocation :=
  match r.job? with
  | none => r.misuse
  | some job =>
    if r.allowsVariable env then
      .ok ⟨(r.value? .config).or (env configVariable), r.isGiven .json, job⟩
    else r.misuse

end Reading

def Invocation.ofArguments (env : Environment) (args : List String) : Except Halt Invocation := do
  (← Reading.read {} args).invocation env

end ChatRelay.CommandLine
