/-
Spans of time.
-/
namespace GraphCalls

/-- Whole seconds, and the nanoseconds beyond them. -/
structure Duration where
  seconds : Nat
  nanoseconds : Nat
deriving DecidableEq

namespace Duration

def ofMilliseconds (ms : Nat) : Duration := ⟨ms / 1000, ms % 1000 * 1000000⟩

/-- The whole milliseconds of a span. -/
def milliseconds (d : Duration) : Nat := d.seconds * 1000 + d.nanoseconds / 1000000

theorem milliseconds_ofMilliseconds (ms : Nat) : (ofMilliseconds ms).milliseconds = ms := by
  simp only [ofMilliseconds, milliseconds]
  omega

end Duration
end GraphCalls
