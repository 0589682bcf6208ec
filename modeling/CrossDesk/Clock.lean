import Mathlib

/-!
# The steady clock

`std::chrono::steady_clock` counts nanoseconds. A time point is that count since the clock's epoch,
so a default-constructed `time_point{}` is `0`.
-/

namespace CrossDesk

/-- `std::chrono::steady_clock::time_point`, in nanoseconds. -/
abbrev TimePoint := Nat

/-- `std::chrono::seconds(n)` as a duration of the steady clock. -/
def seconds (n : Nat) : Nat := n * 1000000000

/-- `ceil<seconds>(d)`: the least number of whole seconds covering `d` nanoseconds. -/
def ceilSeconds (d : Nat) : Nat := (d + 999999999) / 1000000000

theorem ceilSeconds_pos {d : Nat} : 0 < ceilSeconds d ↔ 0 < d := by
  unfold ceilSeconds
  omega

/-- Waiting the rounded-up number of seconds is enough. -/
theorem le_seconds_ceilSeconds (d : Nat) : d ≤ seconds (ceilSeconds d) := by
  unfold ceilSeconds seconds
  omega

end CrossDesk
