/-! Points in time and spans of time, in nanoseconds. The longest one is a
nanosecond short of 2^64 seconds. -/
namespace TickScript

/-- A span of time, or the time passed on a host's clock, in nanoseconds. -/
abbrev Time := Nat

namespace Time

/-- The first number of nanoseconds that is no longer a time. -/
def bound : Nat := UInt64.size * 1000000000

/-- The sum of two times, if it is one. -/
def add? (a b : Time) : Option Time := if a + b < bound then some (a + b) else none

def ofMillis (ms : Nat) : Time := ms * 1000000

def seconds (t : Time) : Nat := t / 1000000000

/-- The nanoseconds beyond the whole seconds. -/
def subsecond (t : Time) : Nat := t % 1000000000

end Time
end TickScript
