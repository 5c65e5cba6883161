import CertifiedAccess.Proofs.Milliseconds
import CertifiedAccess.Settings.Authority

/-!
Instants in their order, and on one line by nanoseconds. From an instant outside leap seconds a span leads
to the instant that is so much further on the line, and it leads nowhere exactly where that would be past
the end.
-/
namespace CertifiedAccess

theorem Span.nanos_ofSeconds {seconds : Nat} (bounded : seconds ≤ AuthoritySettings.maxValidity) :
    (Span.ofSeconds seconds).nanos = seconds * 1000000000 := by
  unfold AuthoritySettings.maxValidity at bounded
  have within : (seconds * 1000000000 : Int) ≤ Span.limit := by
    unfold Span.limit
    omega
  rw [ofSeconds, dif_pos within]

namespace Instant

theorem lt_iff {a b : Instant} :
    a < b ↔ a.seconds < b.seconds ∨ a.seconds = b.seconds ∧ a.nanos < b.nanos :=
  Iff.rfl

theorem lt_trans {a b c : Instant} (first : a < b) (second : b < c) : a < c := by
  rw [lt_iff] at *
  omega

theorem lt_of_lt_of_le {a b c : Instant} (before : a < b) (upto : b ≤ c) : a < c := by
  have upto : ¬ c < b := upto
  rw [lt_iff] at *
  omega

theorem le_trans {a b c : Instant} (first : a ≤ b) (second : b ≤ c) : a ≤ c :=
  fun late => second (lt_of_lt_of_le late first)

variable {t later : Instant} {s : Span}

/-- Nanoseconds since 1970; those of a leap second count on past its second. -/
def nanoseconds (t : Instant) : Int := t.seconds * 1000000000 + t.nanos

/-- The last instant outside leap seconds. -/
def last : Instant := (ofParts? lastSecond 999999999).get (by decide)

theorem nanoseconds_last : last.nanoseconds = 8210266876799999999999 := by decide

/-- Outside leap seconds the count tells all instants apart. -/
theorem eq_of_nanoseconds_eq (ordinary : t.isLeap = false) (ordinary' : later.isLeap = false)
    (same : t.nanoseconds = later.nanoseconds) : t = later := by
  rw [isLeap_eq_false_iff] at ordinary ordinary'
  unfold nanoseconds at same
  have seconds : t.seconds = later.seconds := by omega
  have nanos : t.nanos = later.nanos := by omega
  obtain ⟨_, _, _, _, _, _⟩ := t
  obtain ⟨_, _, _, _, _, _⟩ := later
  cases seconds
  cases nanos
  rfl

theorem nanoseconds_le_last (ordinary : t.isLeap = false) : t.nanoseconds ≤ last.nanoseconds := by
  rw [isLeap_eq_false_iff] at ordinary
  have upto : t.seconds ≤ 8210266876799 := t.le_last
  rw [nanoseconds_last, nanoseconds]
  omega

/-- From an ordinary instant all that matters is where the line is cut into seconds again. -/
theorem add?_eq_ofParts? (ordinary : t.isLeap = false) (s : Span) :
    t.add? s = ofParts? ((t.nanoseconds + s.nanos) / 1000000000)
      ((t.nanoseconds + s.nanos) % 1000000000).toNat := by
  simp only [add?, ordinary, Bool.false_eq_true, false_and, if_false, Int.sub_zero, nanoseconds,
    Int.add_assoc]

theorem add?_eq_some_iff (ordinary : t.isLeap = false) :
    t.add? s = some later ↔
      later.isLeap = false ∧ later.nanoseconds = t.nanoseconds + s.nanos := by
  rw [add?_eq_ofParts? ordinary, ofParts?_eq_some_iff, isLeap_eq_false_iff]
  generalize t.nanoseconds + s.nanos = target
  unfold nanoseconds
  omega

theorem add?_eq_none_iff (ordinary : t.isLeap = false) (forward : 0 ≤ s.nanos) :
    t.add? s = none ↔ last.nanoseconds < t.nanoseconds + s.nanos := by
  cases moved : t.add? s with
  | some later =>
    obtain ⟨ordinary', same⟩ := (add?_eq_some_iff ordinary).mp moved
    rw [← same]
    exact iff_of_false nofun (Int.not_lt.mpr (nanoseconds_le_last ordinary'))
  | none =>
    refine iff_of_true rfl ?_
    rw [add?_eq_ofParts? ordinary, ofParts?] at moved
    split at moved
    · contradiction
    · have from_first : -8334601228800 ≤ t.seconds := t.first_le
      rw [nanoseconds_last]
      unfold nanoseconds firstSecond lastSecond at *
      omega

theorem add?_ofSeconds_eq_none_iff {seconds : Nat} (ordinary : t.isLeap = false)
    (bounded : seconds ≤ AuthoritySettings.maxValidity) :
    t.add? (.ofSeconds seconds) = none ↔ last.nanoseconds < t.nanoseconds + seconds * 1000000000 := by
  have length := Span.nanos_ofSeconds bounded
  rw [add?_eq_none_iff ordinary (by omega), length]

theorem nanoseconds_toMillisecond (t : Instant) :
    t.toMillisecond.nanoseconds = t.nanoseconds / 1000000 * 1000000 := by
  unfold nanoseconds toMillisecond
  dsimp only
  omega

/-- The expiry of what lasts this many seconds from `now` on: so much later, down to the millisecond. -/
structure Expires (now : Instant) (seconds : Nat) (expiry : Instant) : Prop where
  ordinary : expiry.isLeap = false
  nanoseconds : expiry.nanoseconds = (now.nanoseconds + seconds * 1000000000) / 1000000 * 1000000

namespace Expires
variable {now expiry expiry' : Instant} {seconds : Nat}

theorem unique (expires : now.Expires seconds expiry) (expires' : now.Expires seconds expiry') :
    expiry = expiry' :=
  eq_of_nanoseconds_eq expires.ordinary expires'.ordinary
    (expires.nanoseconds.trans expires'.nanoseconds.symm)

/-- Never late, and early by less than a millisecond. -/
theorem bounds (expires : now.Expires seconds expiry) :
    expiry.nanoseconds ≤ now.nanoseconds + seconds * 1000000000 ∧
      now.nanoseconds + seconds * 1000000000 < expiry.nanoseconds + 1000000 := by
  rw [expires.nanoseconds]
  omega

theorem of_add? (ordinary : now.isLeap = false) (bounded : seconds ≤ AuthoritySettings.maxValidity)
    {later : Instant} (moved : now.add? (.ofSeconds seconds) = some later) :
    now.Expires seconds later.toMillisecond := by
  rw [add?_eq_some_iff ordinary, Span.nanos_ofSeconds bounded] at moved
  constructor
  · rw [isLeap_toMillisecond]
    exact moved.1
  · rw [nanoseconds_toMillisecond, moved.2]

end Expires
end Instant
end CertifiedAccess
