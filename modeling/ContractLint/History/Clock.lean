/-!
# Clocks

A clock counts how often it was read and says what it shows at each reading, so that the time of
an event is part of what a run is given.
-/

namespace ContractLint

/-- A clock. -/
structure Clock where
  /-- What the clock shows at its readings, counted from one. -/
  shows : Nat → String
  /-- How often the clock was read. -/
  readings : Nat := 0

/-- The time a clock shows now, and the clock after it was read. -/
def Clock.now (clock : Clock) : String × Clock :=
  (clock.shows (clock.readings + 1), { clock with readings := clock.readings + 1 })

end ContractLint
