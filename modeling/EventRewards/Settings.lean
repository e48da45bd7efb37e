import EventRewards.Json.Basic
import EventRewards.Number.Decimal
import EventRewards.Text.Case

/-!
# Settings

The settings of the service come from named values of its environment.  Under a profile each of them
is looked up under the profile's name first, and an empty value counts as none.
-/

namespace EventRewards

abbrev Environment := List (String × String)

structure Settings where
  profile : String
  host : String
  port : Nat
  corsOrigin : String
  boundLogsToEventWindow : Bool
  deriving DecidableEq, Repr

namespace Environment

def get? (env : Environment) (key : String) : Option String :=
  (env.lookup key).filter (!·.isEmpty)

/-- A value under a profile: the profile's own, else the one that all profiles share. -/
def profiled? (env : Environment) (profile key : String) : Option String :=
  if profile.isEmpty then env.get? key
  else (env.get? (profile ++ "_" ++ key)).or (env.get? key)

end Environment

namespace Settings

/-- The name under which the environment gives the profile. -/
def profileKey : String := "QUESTLINE_PROFILE"

/-- The names of the other values, under a profile with the profile's name before them. -/
def keys : List String :=
  ["HOST", "PORT", "CORS_ORIGIN", "BOUND_LOGS_TO_EVENT_WINDOW"]

/-- A port number: digits, perhaps after a plus sign, for at most 65535. -/
def readPort? (s : String) : Option Nat :=
  let digits := match s.toList with
    | '+' :: rest => rest
    | cs => cs
  if digits.isEmpty || !digits.all Char.isDigit then none
  else
    let n := natOfDigits digits
    if n ≤ 65535 then some n else none

/-- A switch in one of the usual spellings, letter case aside. -/
def readSwitch? (s : String) : Option Bool :=
  let word := String.ofList (s.toList.map Char.toLower)
  if ["1", "true", "yes", "on"].contains word then some true
  else if ["0", "false", "no", "off"].contains word then some false
  else none

def default : Settings :=
  { profile := "", host := "0.0.0.0", port := 3001, corsOrigin := "*",
    boundLogsToEventWindow := false }

/-- The settings of a profile; its name is taken in upper case. -/
def forProfile (env : Environment) (name : String) : Settings :=
  let profile := Text.upper name
  let value? := env.profiled? profile
  { profile
    host := (value? "HOST").getD default.host
    port := ((value? "PORT").bind readPort?).getD default.port
    corsOrigin := (value? "CORS_ORIGIN").getD default.corsOrigin
    boundLogsToEventWindow :=
      ((value? "BOUND_LOGS_TO_EVENT_WINDOW").bind readSwitch?).getD default.boundLogsToEventWindow }

/-- The settings of the profile that the environment names. -/
def ofEnvironment (env : Environment) : Settings :=
  forProfile env (Text.upper ((env.lookup profileKey).getD ""))

/-- The settings with a host and a port given on the command line. -/
def withOverrides (s : Settings) (host : Option String) (port : Option Nat) : Settings :=
  { s with host := host.getD s.host, port := port.getD s.port }

def label (s : Settings) : String :=
  if s.profile.isEmpty then "default" else s.profile

def address (s : Settings) : String :=
  s.host ++ ":" ++ toString s.port

def toJson (s : Settings) : Json :=
  .obj [("profile", .str s.profile),
    ("server", .obj [("host", .str s.host), ("port", .int s.port),
      ("cors_origin", .str s.corsOrigin)]),
    ("rewards", .obj [("bound_logs_to_event_window", .bool s.boundLogsToEventWindow)])]

end Settings
end EventRewards
