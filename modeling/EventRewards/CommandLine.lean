import EventRewards.Number.Decimal
import EventRewards.Text.Blank

/-!
# The command line

`serve` starts the service, with a host and a port if they are given, and `check` judges a scenario
file.  Words are taken one by one; an option keeps its value back until the next option or the end
settles it, so that a word that nobody expects, or a value where none is taken, is refused before a
faulty value is.
-/

namespace EventRewards

inductive Command where
  | serve (host : Option String) (port : Option Nat)
  | check (scenario : String)
  deriving DecidableEq, Repr

/-- Why a command line is not carried out. -/
inductive Refusal where
  | unknownArgument
  | unknownCommand
  | missingArgument
  | missingValue
  | badValue
  | tooManyValues
  | repeated
  | helpAsked
  | versionAsked
  deriving DecidableEq, Repr

namespace Refusal

/-- Whether the words asked for this, so that nothing is wrong with them. -/
def isRequest : Refusal → Bool
  | .helpAsked | .versionAsked => true
  | _ => false

def message : Refusal → String
  | .unknownArgument => "unexpected argument"
  | .unknownCommand => "unrecognized subcommand"
  | .missingArgument => "a required argument is missing"
  | .missingValue => "an option or argument has no value"
  | .badValue => "the port must be a number from 0 to 65535"
  | .tooManyValues => "an option takes no value"
  | .repeated => "an option cannot be used twice"
  | .helpAsked => "usage: serve [--host HOST] [--port PORT] | check SCENARIO"
  | .versionAsked => "0.1.0"

end Refusal

namespace CommandLine

/-! ## Words -/

inductive Word where
  /-- Two dashes alone: what follows holds no options. -/
  | separator
  /-- A long option, and the value that is attached to it. -/
  | long (name : String) (value : Option String)
  /-- A cluster of one-letter options. -/
  | short (letters : List Char)
  | plain (text : String)

def Word.ofText (s : String) : Word :=
  match s.toList with
  | ['-', '-'] => .separator
  | '-' :: '-' :: rest =>
    let (name, value) := Text.splitFirst '=' rest
    .long (String.ofList name) (value.map String.ofList)
  | '-' :: c :: rest => .short (c :: rest)
  | _ => .plain s

/-! ## The options of `serve` -/

inductive ServeOption where
  | host
  | port
  deriving DecidableEq

/-- What the words of `serve` have given so far; `pending` is an option that is not settled yet. -/
structure ServeState where
  host : Option String
  port : Option Nat
  pending : Option (ServeOption × Option String)

/-- A port number, perhaps with a sign: from 0 to 65535. -/
def readPort? (s : String) : Option Nat :=
  let (negative, digits) := readSign s.toList
  if digits.isEmpty || !digits.all Char.isDigit then none
  else
    let n := natOfDigits digits
    if 65535 < n || (negative && n ≠ 0) then none else some n

namespace ServeState

def give (s : ServeState) : ServeOption → String → Except Refusal ServeState
  | .host, value => if s.host.isSome then .error .repeated else .ok { s with host := some value }
  | .port, value =>
    if s.port.isSome then .error .repeated
    else
      match readPort? value with
      | some n => .ok { s with port := some n }
      | none => .error .badValue

def settle (s : ServeState) : Except Refusal ServeState :=
  match s.pending with
  | none => .ok s
  | some (_, none) => .error .missingValue
  | some (option, some value) => { s with pending := none }.give option value

def option (s : ServeState) (o : ServeOption) (value : Option String) :
    Except Refusal ServeState := do
  let s ← s.settle
  match value with
  | some v => s.give o v
  | none => return { s with pending := some (o, none) }

def words (s : ServeState) : List String → Except Refusal ServeState
  | [] => s.settle
  | word :: rest =>
    match Word.ofText word with
    | .separator => if rest.isEmpty then s.settle else .error .unknownArgument
    | .long "host" value => do (← s.option .host value).words rest
    | .long "port" value => do (← s.option .port value).words rest
    | .long "help" (some _) => .error .tooManyValues
    -- a faulty value before it is reported first
    | .long "help" none => do
      let _ ← s.settle
      .error .helpAsked
    | .long _ _ => .error .unknownArgument
    | .short ('h' :: _) => do
      let _ ← s.settle
      .error .helpAsked
    | .short _ => .error .unknownArgument
    | .plain text =>
      match s.pending with
      -- the value is not judged before the next word
      | some (o, none) => words { s with pending := some (o, some text) } rest
      | _ => .error .unknownArgument

end ServeState

/-! ## The argument of `check` -/

/-- The path of a scenario, once it is settled: it must not be empty. -/
def settlePath (path : Option String) : Except Refusal (Option String) :=
  if path = some "" then .error .missingValue else .ok path

/-- The path that ends the words of `check`. -/
def finishCheck (path : Option String) : Except Refusal Command := do
  match ← settlePath path with
  | some p => return .check p
  | none => .error .missingArgument

/-- Takes the words of `check` in, `path` being the one that was given so far. -/
def checkWords (path : Option String) : List String → Except Refusal Command
  | [] => finishCheck path
  | word :: rest =>
    match Word.ofText word with
    | .separator =>
      match path, rest with
      | _, [] => finishCheck path
      | none, [p] => finishCheck (some p)
      | _, _ => .error .unknownArgument
    | .long "help" (some _) => .error .tooManyValues
    | .long "help" none => do
      let _ ← settlePath path
      .error .helpAsked
    | .short ('h' :: _) => do
      let _ ← settlePath path
      .error .helpAsked
    | .long _ _ => .error .unknownArgument
    | .short _ => .error .unknownArgument
    | .plain text => if path.isSome then .error .unknownArgument else checkWords (some text) rest

/-! ## Commands -/

def commandNames : List String :=
  ["serve", "check", "help"]

/-- The command that words ask for; none where there are no words. -/
def parse : List String → Except Refusal (Option Command)
  | [] => .ok none
  | word :: rest =>
    if word = "serve" then do
      let s ← ServeState.words ⟨none, none, none⟩ rest
      return some (.serve s.host s.port)
    else if word = "check" then (checkWords none rest).map some
    else if word = "help" then
      match rest with
      | [] => .error .helpAsked
      | [name] => .error (if commandNames.contains name then .helpAsked else .unknownCommand)
      | _ => .error .unknownCommand
    else
      match Word.ofText word with
      | .separator =>
        match rest with
        | [] => .ok none
        | name :: _ =>
          .error (if commandNames.contains name then .unknownArgument else .unknownCommand)
      | .long "help" (some _) => .error .tooManyValues
      | .long "help" none => .error .helpAsked
      | .long "version" (some _) => .error .tooManyValues
      | .long "version" none => .error .versionAsked
      | .short ('h' :: _) => .error .helpAsked
      | .short ('V' :: _) => .error .versionAsked
      | .long _ _ => .error .unknownArgument
      | .short _ => .error .unknownArgument
      | .plain _ => .error .unknownCommand

end CommandLine
end EventRewards
