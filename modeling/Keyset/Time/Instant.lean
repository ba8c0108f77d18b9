import Keyset.Time.Calendar

/-! # Instants

An instant is a second of Universal Time with a fraction in nanoseconds. A fraction of a
whole second or more stands for a leap second that follows the second. Instants reach from the
year -262143 to the year 262142.
-/

namespace Keyset.Time

/-- The first second of the first year. -/
def firstSecond : Int :=
  (Date.dayNumber ⟨-262143, 1, 1⟩) * 86400

/-- The last second of the last year. -/
def lastSecond : Int :=
  (Date.dayNumber ⟨262142, 12, 31⟩) * 86400 + 86399

/-- The seconds and nanoseconds that make an instant. -/
def IsInstant (seconds : Int) (nanos : Nat) : Prop :=
  firstSecond ≤ seconds ∧ seconds ≤ lastSecond ∧ nanos < 2000000000

instance (seconds : Int) (nanos : Nat) : Decidable (IsInstant seconds nanos) :=
  inferInstanceAs (Decidable (_ ∧ _ ∧ _))

/-- A leap second, if this is one, follows the last second of a minute. -/
def LeapEndsMinute (seconds : Int) (nanos : Nat) : Prop :=
  1000000000 ≤ nanos → seconds % 60 = 59

instance (seconds : Int) (nanos : Nat) : Decidable (LeapEndsMinute seconds nanos) :=
  inferInstanceAs (Decidable (_ → _))

/-- Seconds since 1970 and nanoseconds within the second. -/
structure Instant where
  seconds : Int
  nanos : Nat
  isInstant : IsInstant seconds nanos
deriving DecidableEq

namespace Instant

/-- The instant of these seconds and nanoseconds, if there is one. Leap seconds within a minute are
refused, although there are instants in them. -/
def ofSeconds? (seconds : Int) (nanos : Nat) : Option Instant :=
  if possible : IsInstant seconds nanos ∧ LeapEndsMinute seconds nanos then
    some ⟨seconds, nanos, possible.1⟩
  else none

/-- Earlier or later: first by the seconds, then by the nanoseconds. -/
def compare (first second : Instant) : Ordering :=
  (Ord.compare first.seconds second.seconds).then (Ord.compare first.nanos second.nanos)

end Instant

end Keyset.Time
