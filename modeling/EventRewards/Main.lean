import EventRewards.CommandLine
import EventRewards.Http.Exchange
import EventRewards.Http.Service
import EventRewards.Scenario.Document
import Std.Time.DateTime.Timestamp

/-!
# The program

`check` judges a scenario file.  `serve` answers requests that a host program hands over on standard
input, one JSON object on each line; it is also what an empty command line asks for.
-/

namespace EventRewards
namespace Program

def now : IO Instant := do
  let stamp ← Std.Time.Timestamp.now
  match Instant.ofMillis? stamp.toMillisecondsSinceUnixEpoch.val with
  | some t => return t
  | none => throw (IO.userError "the clock is out of range")

/-- A number as digits in base sixteen, up to a width. -/
def hexDigits (width n : Nat) : String :=
  let digits := Nat.toDigits 16 n
  String.ofList (List.replicate (width - digits.length) '0' ++ digits)

/-- A source of ids that differ from those of any other source, drawn from random numbers. -/
def freshIds : IO FreshIds := do
  let high ← IO.rand 0 (Nat.pow 2 48 - 1)
  let middle ← IO.rand 0 (Nat.pow 2 12 - 1)
  let low ← IO.rand 0 (Nat.pow 2 46 - 1)
  return fun k =>
    hexDigits 8 (high / Nat.pow 2 16) ++ "-" ++ hexDigits 4 (high % Nat.pow 2 16) ++ "-4" ++
      hexDigits 3 middle ++ "-" ++ hexDigits 4 (Nat.pow 2 15 + low / Nat.pow 2 32) ++ "-" ++
      hexDigits 12 (low % Nat.pow 2 32 * Nat.pow 2 16 + k)

def environment : IO Environment := do
  let profile := Text.upper ((← IO.getEnv Settings.profileKey).getD "")
  let keys := Settings.keys ++ Settings.keys.map fun key => profile ++ "_" ++ key
  let found ← (Settings.profileKey :: keys).mapM fun key => do
    return (← IO.getEnv key).map fun value => (key, value)
  return found.filterMap id

def json? (text : String) : Option Json :=
  match Json.read ⟨none, .everything⟩ text with
  | .whole j => some j
  | _ => none

partial def serve (settings : Settings) (s : Store) : IO Unit := do
  let line ← (← IO.getStdin).getLine
  if line.isEmpty then return ()
  else
    let stdout ← IO.getStdout
    match (json? line).bind fun j => (Http.Request.decode j).toOption with
    | some r =>
      let (response, left) := Http.handle settings (← now) (← freshIds) r s
      stdout.putStrLn response.toJson.compact
      stdout.flush
      serve settings left
    | none =>
      (← IO.getStderr).putStrLn "a request could not be read"
      serve settings s

def fail (message : String) (code : UInt32) : IO UInt32 := do
  (← IO.getStderr).putStrLn ("Error: " ++ message)
  return code

def check (path : String) : IO UInt32 := do
  let text? : Option String ←
    try
      some <$> IO.FS.readFile path
    catch _ => pure none
  match text? with
  | none => fail (Scenario.unreadableFile path) 1
  | some text =>
    let time ← now
    let fresh ← freshIds
    let (printed, failure?) :=
      match json? text with
      | some doc => Scenario.checkDocument time fresh doc
      | none => ("", some Scenario.invalidDocument)
    (← IO.getStdout).putStr printed
    match failure? with
    | some message => fail message 1
    | none => return 0

def run : Command → IO UInt32
  | .check path => check path
  | .serve host port => do
    let settings := (Settings.ofEnvironment (← environment)).withOverrides host port
    (← IO.getStderr).putStrLn ("serving for " ++ settings.address ++ " (" ++ settings.label ++ ")")
    serve settings .empty
    return 0

end Program
end EventRewards

open EventRewards in
def main (args : List String) : IO UInt32 := do
  match CommandLine.parse args with
  | .ok command => Program.run (command.getD (.serve none none))
  | .error refusal =>
    let stream ← if refusal.isRequest then IO.getStdout else IO.getStderr
    stream.putStrLn refusal.message
    return if refusal.isRequest then 0 else 2
