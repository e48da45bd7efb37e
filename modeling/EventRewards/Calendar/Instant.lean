import EventRewards.Number.Double
import EventRewards.Calendar.Date

/-!
# Instants

An instant in UTC: a day, a second of that day and nanoseconds.  A leap second is the second before
it with 10⁹ to 2·10⁹ nanoseconds.  It may follow any second, though calendars and clocks have leap
seconds at the end of a minute only.  Instants are ordered by day, second and nanoseconds, so a leap
second lies between its neighbours.
-/

namespace EventRewards

def nanosPerSecond : Nat := 1000000000

def secondsPerDay : Nat := 86400

/-- A point in time of the years in use, in UTC. -/
structure Instant where
  day : Int
  second : Nat
  nano : Nat
  day_ge : Civil.firstDay ≤ day
  day_le : day ≤ Civil.lastDay
  second_lt : second < secondsPerDay
  nano_lt : nano < 2 * nanosPerSecond
  deriving DecidableEq

namespace Instant

/-- Whether an instant, if it lies in a leap second, lies in one at the end of a minute. -/
def LeapEndsMinute (t : Instant) : Prop :=
  nanosPerSecond ≤ t.nano → t.second % 60 = 59

instance (t : Instant) : Decidable t.LeapEndsMinute :=
  inferInstanceAs (Decidable (nanosPerSecond ≤ t.nano → t.second % 60 = 59))

/-- The instant with these parts, if it is in use and has no leap second within a minute. -/
def ofParts? (day : Int) (second nano : Nat) : Option Instant :=
  if h : Civil.firstDay ≤ day ∧ day ≤ Civil.lastDay ∧ second < secondsPerDay ∧
      nano < 2 * nanosPerSecond then
    let t : Instant := ⟨day, second, nano, h.1, h.2.1, h.2.2.1, h.2.2.2⟩
    if t.LeapEndsMinute then some t else none
  else none

/-! ## Order -/

/-- Where the instant stands on a line on which every second has room for a leap second. -/
def rank (t : Instant) : Int :=
  (t.day * secondsPerDay + t.second) * (2 * nanosPerSecond : Nat) + t.nano

instance : LE Instant where
  le a b := a.rank ≤ b.rank

instance : LT Instant where
  lt a b := a.rank < b.rank

instance (a b : Instant) : Decidable (a ≤ b) :=
  inferInstanceAs (Decidable (a.rank ≤ b.rank))

instance (a b : Instant) : Decidable (a < b) :=
  inferInstanceAs (Decidable (a.rank < b.rank))

instance : Ord Instant where
  compare a b := compare a.rank b.rank

/-! ## Milliseconds since the epoch -/

def millisPerDay : Int := 86400000

/-- The instant so many milliseconds after 1970-01-01T00:00:00Z, if it is in use. -/
def ofMillis? (millis : Int) : Option Instant :=
  let ofDay := (millis % millisPerDay).toNat
  ofParts? (millis / millisPerDay) (ofDay / 1000) (ofDay % 1000 * 1000000)

/-- Milliseconds since 1970-01-01T00:00:00Z, fractions dropped; a leap second adds its own. -/
def toMillis (t : Instant) : Int :=
  (t.day * secondsPerDay + t.second) * 1000 + (t.nano / 1000000 : Nat)

/-- The instant that a local date and time of day stand for at an offset east of UTC. -/
def ofLocal? (date : Civil) (second nano : Nat) (offset : Int) : Option Instant :=
  if date.isValid then
    let shifted : Int := second - offset
    ofParts? (date.toDays + shifted / secondsPerDay) (shifted % secondsPerDay).toNat nano
  else none

end Instant
end EventRewards
