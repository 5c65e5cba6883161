/-!
Lengths of time: a signed number of nanoseconds, less than `2 ^ 63` milliseconds either way.
-/
namespace CertifiedAccess

/-- The longest span, in nanoseconds. -/
def Span.limit : Int := 9223372036854775807 * 1000000

structure Span where
  nanos : Int
  ge_limit : -Span.limit ≤ nanos
  le_limit : nanos ≤ Span.limit
  deriving DecidableEq

namespace Span

/-- The span of this many nanoseconds, if it is within the limit. -/
def ofNanos? (nanos : Int) : Option Span :=
  if h : -limit ≤ nanos ∧ nanos ≤ limit then some ⟨nanos, h.1, h.2⟩ else none

/-- This many seconds, or the longest span if they are too many. -/
def ofSeconds (seconds : Nat) : Span :=
  if h : (seconds * 1000000000 : Int) ≤ limit then
    ⟨seconds * 1000000000, by unfold limit; omega, h⟩
  else ⟨limit, by decide, by decide⟩

/-- Whole seconds, toward zero. -/
def wholeSeconds (s : Span) : Int := s.nanos.tdiv 1000000000

/-- Nanoseconds beyond the whole seconds, of the same sign. -/
def subNanos (s : Span) : Int := s.nanos.tmod 1000000000

end Span
end CertifiedAccess
