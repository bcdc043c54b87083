import Snowbridge.CommandLine.Usage

/-!
# Arguments

Reading of a list of arguments against the options and operands of a command. An option has a long
name and perhaps a letter; its value stands in the same argument or in the next. Letters of options
without a value may share an argument. After two dashes only operands follow.

A value in an argument of its own is looked at when the next option or operand comes, or at the end,
so an argument that is not known is reported before a faulty value in front of it.
-/

namespace Snowbridge.CommandLine

/-! ## Forms -/

/-- The value of an option: how it is shown, whether it may be given again, and what it does to the
settings. -/
structure ValueForm (σ : Type) where
  placeholder : String
  repeatable : Bool := false
  store : String → σ → Except ValueFault σ

inductive OptionAction (σ : Type) where
  | turnOn (change : σ → σ)
  | takeValue (form : ValueForm σ)
  | stop (answer : UsageError)

structure OptionForm (σ : Type) where
  name : String
  letter : Option Char := none
  action : OptionAction σ

/-- The options and operands of a command, and the names of the commands that may follow. -/
structure CommandForm (σ : Type) where
  options : List (OptionForm σ)
  operands : List (String → σ → σ) := []
  commands : List String := []

/-- An option as its usage shows it. -/
def OptionForm.usage {σ : Type} (o : OptionForm σ) : String :=
  match o.action with
  | .takeValue v => "--" ++ o.name ++ " <" ++ v.placeholder ++ ">"
  | _ => "--" ++ o.name

/-- An option whose settings are the first of a pair. -/
def OptionForm.onFirst {α β : Type} (o : OptionForm α) : OptionForm (α × β) where
  name := o.name
  letter := o.letter
  action :=
    match o.action with
    | .turnOn change => .turnOn fun (a, b) => (change a, b)
    | .takeValue v =>
      .takeValue ⟨v.placeholder, v.repeatable, fun text (a, b) => (v.store text a).map (·, b)⟩
    | .stop answer => .stop answer

/-! ## Shapes -/

inductive Argument where
  | dashes
  | long (name : String) (value : Option String)
  | letters (letters : List Char)
  | plain (text : String)

/-- The text before the first `c` and the text after it. -/
def cutAt (c : Char) (cs : List Char) : List Char × Option (List Char) :=
  (cs.takeWhile (· != c), (cs.dropWhile (· != c)).tail?)

/-- The shape of an argument. One dash alone is plain. -/
def Argument.ofText (s : String) : Argument :=
  match s.toList with
  | ['-', '-'] => .dashes
  | '-' :: '-' :: cs =>
    let (name, value) := cutAt '=' cs
    .long (String.ofList name) (value.map String.ofList)
  | '-' :: c :: cs => .letters (c :: cs)
  | _ => .plain s

/-! ## Reading -/

/-- What has been read. An option may still wait for its value, or have one that was not looked
at. -/
structure Scan (σ : Type) where
  settings : σ
  given : List String := []
  waiting : Option (OptionForm σ × ValueForm σ × Option String) := none
  operands : Nat := 0
  onlyOperands : Bool := false

variable {σ : Type}

namespace Scan

/-- The next argument may be a value. -/
def awaitsValue (s : Scan σ) : Bool :=
  match s.waiting with
  | some (_, _, none) => true
  | _ => false

/-- Stores the value of an option. -/
def store (s : Scan σ) (o : OptionForm σ) (v : ValueForm σ) (value : String) :
    Except UsageError (Scan σ) :=
  if !v.repeatable && s.given.contains o.name then .error (.repeated o.usage)
  else
    match v.store value s.settings with
    | .ok settings => .ok { s with settings, given := o.name :: s.given }
    | .error .notAChoice => .error (.invalidChoice o.usage value)
    | .error (.malformed reason) => .error (.invalidValue o.usage value reason)

/-- Stores the value that was not looked at. An option without its value is refused. -/
def settle (s : Scan σ) : Except UsageError (Scan σ) :=
  match s.waiting with
  | none => .ok s
  | some (o, _, none) => .error (.missingValue o.usage)
  | some (o, v, some value) => { s with waiting := none }.store o v value

/-- An option without a value. It may be given once. -/
def turnOn (s : Scan σ) (o : OptionForm σ) (change : σ → σ) : Except UsageError (Scan σ) :=
  if s.given.contains o.name then .error (.repeated o.usage)
  else .ok { s with settings := change s.settings, given := o.name :: s.given }

end Scan

namespace CommandForm

/-- An option with its long name. -/
def readLong (f : CommandForm σ) (s : Scan σ) (name : String) (value : Option String) :
    Except UsageError (Scan σ) :=
  match f.options.find? (·.name == name) with
  | none => .error (.unknownArgument ("--" ++ name))
  | some o =>
    match o.action, value with
    | .takeValue v, some text => s.settle.bind fun s => s.store o v text
    | .takeValue v, none => s.settle.map fun s => { s with waiting := some (o, v, none) }
    | _, some text => .error (.unwantedValue o.usage text)
    | .turnOn change, none => s.settle.bind fun s => s.turnOn o change
    | .stop answer, none => s.settle.bind fun _ => .error answer

/-- Options with their letters. The value of an option may follow its letter, with an equals sign or
without. -/
def readLetters (f : CommandForm σ) (s : Scan σ) : List Char → Except UsageError (Scan σ)
  | [] => .ok s
  | c :: cs =>
    match f.options.find? (·.letter == some c) with
    | none => .error (.unknownArgument (String.ofList ['-', c]))
    | some o =>
      match o.action, cs with
      | .turnOn change, _ =>
        (s.settle.bind fun s => s.turnOn o change).bind fun s => readLetters f s cs
      | .stop answer, _ => s.settle.bind fun _ => .error answer
      | .takeValue v, [] => s.settle.map fun s => { s with waiting := some (o, v, none) }
      | .takeValue v, '=' :: text => s.settle.bind fun s => s.store o v (String.ofList text)
      | .takeValue v, text => s.settle.bind fun s => s.store o v (String.ofList text)

/-- An operand. One too many is taken for an unknown command where commands may follow. -/
def readOperand (f : CommandForm σ) (s : Scan σ) (text : String) : Except UsageError (Scan σ) :=
  match f.operands[s.operands]? with
  | some store =>
    s.settle.map fun s => { s with settings := store text s.settings, operands := s.operands + 1 }
  | none =>
    if f.commands.isEmpty || (s.onlyOperands && f.commands.contains text) then
      .error (.unknownArgument text)
    else .error (.unknownCommand text)

/-- An argument that names no command. -/
def readArgument (f : CommandForm σ) (s : Scan σ) (arg : String) : Except UsageError (Scan σ) :=
  if s.onlyOperands then f.readOperand s arg
  else
    match Argument.ofText arg, s.waiting with
    | .dashes, _ => .ok { s with onlyOperands := true }
    | .long name value, _ => f.readLong s name value
    | .letters cs, _ => f.readLetters s cs
    | .plain text, some (o, v, none) => .ok { s with waiting := some (o, v, some text) }
    | .plain text, _ => f.readOperand s text

/-- Reads arguments up to the end or to the name of a command; then come the arguments after it. -/
def read (f : CommandForm σ) (s : Scan σ) :
    List String → Except UsageError (Scan σ × Option (String × List String))
  | [] => .ok (s, none)
  | arg :: args =>
    if !s.onlyOperands && !s.awaitsValue && f.commands.contains arg then .ok (s, some (arg, args))
    else
      match f.readArgument s arg with
      | .error e => .error e
      | .ok s => read f s args

end CommandForm

end Snowbridge.CommandLine
