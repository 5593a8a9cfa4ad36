import GraphIngest.Timestamp

/-!
# The clock

Every record of a time has a reading of its own: the clock is read when a version is appended and
when a refinement moves on. Logic that reads it is stated over any monad with a clock, so that it
runs on the clock of the system and is reasoned about on a sequence of readings.
-/

namespace GraphIngest

/-- Reading the present time. -/
class Clock (m : Type → Type) where
  now : m Timestamp

/-- A further state has nothing to do with the clock. -/
instance {σ : Type} {m : Type → Type} [Monad m] [Clock m] : Clock (StateT σ m) where
  now := StateT.lift Clock.now

/-- The times that a clock is going to show, one for each time that it is read. -/
abbrev Readings := Nat → Timestamp

namespace Readings

/-- The readings behind the first ones. -/
def later (readings : Readings) (n : Nat) : Readings := fun i => readings (n + i)

theorem later_zero (readings : Readings) : readings.later 0 = readings :=
  funext fun i => congrArg readings (Nat.zero_add i)

theorem later_later (readings : Readings) (m n : Nat) :
    (readings.later m).later n = readings.later (m + n) :=
  funext fun i => congrArg readings (Nat.add_assoc m n i).symm

end Readings

end GraphIngest
