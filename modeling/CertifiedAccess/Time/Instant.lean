import CertifiedAccess.Time.Span

/-!
Instants: seconds since the first of January 1970 and nanoseconds within the second, from the year
-262143 to the year 262142. An instant inside a leap second has its nanoseconds run on past a whole
second, in the last second of a minute.
-/
namespace CertifiedAccess

/-- The first second that can be written: the start of the year -262143. -/
def Instant.firstSecond : Int := -8334601228800

/-- The last second that can be written: the end of the year 262142. -/
def Instant.lastSecond : Int := 8210266876799

structure Instant where
  seconds : Int
  nanos : Nat
  first_le : Instant.firstSecond ≤ seconds
  le_last : seconds ≤ Instant.lastSecond
  nanos_lt : nanos < 2000000000
  leap : 1000000000 ≤ nanos → seconds % 60 = 59
  deriving DecidableEq

namespace Instant

def ofParts? (seconds : Int) (nanos : Nat) : Option Instant :=
  if h : firstSecond ≤ seconds ∧ seconds ≤ lastSecond ∧ nanos < 2000000000 ∧
      (1000000000 ≤ nanos → seconds % 60 = 59) then
    some ⟨seconds, nanos, h.1, h.2.1, h.2.2.1, h.2.2.2⟩
  else none

def isLeap (t : Instant) : Bool := 1000000000 ≤ t.nanos

instance : LT Instant where
  lt a b := a.seconds < b.seconds ∨ a.seconds = b.seconds ∧ a.nanos < b.nanos

instance (a b : Instant) : Decidable (a < b) :=
  inferInstanceAs (Decidable (_ ∨ _))

instance : LE Instant where
  le a b := ¬ b < a

instance (a b : Instant) : Decidable (a ≤ b) :=
  inferInstanceAs (Decidable (¬ _))

/-- Milliseconds since 1970; those of a leap second count on past its second. -/
def milliseconds (t : Instant) : Int := t.seconds * 1000 + (t.nanos / 1000000 : Nat)

/-- The instant at this many milliseconds since 1970, never inside a leap second. -/
def ofMilliseconds? (ms : Int) : Option Instant :=
  ofParts? (ms / 1000) ((ms % 1000).toNat * 1000000)

/-- The instant without what is finer than a millisecond. -/
def toMillisecond (t : Instant) : Instant where
  seconds := t.seconds
  nanos := t.nanos - t.nanos % 1000000
  first_le := t.first_le
  le_last := t.le_last
  nanos_lt := by have := t.nanos_lt; omega
  leap h := t.leap (by omega)

/-- The instant a span away, if it can be written. Leaving a leap second forward skips the second it
repeats; a move that stays inside the leap second only changes the nanoseconds. -/
def add? (t : Instant) (s : Span) : Option Instant :=
  let moved := t.nanos + s.nanos
  if t.isLeap ∧ -1000000000 < s.nanos ∧ moved < 2000000000 then
    ofParts? t.seconds moved.toNat
  else
    let skipped : Int := if t.isLeap ∧ 2000000000 ≤ moved then 1000000000 else 0
    let total := t.seconds * 1000000000 + moved - skipped
    ofParts? (total / 1000000000) (total % 1000000000).toNat

end Instant
end CertifiedAccess
