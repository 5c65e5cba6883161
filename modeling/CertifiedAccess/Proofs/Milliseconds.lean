import CertifiedAccess.Time.Instant

/-!
Instants as counts of milliseconds. A count tells whole milliseconds outside leap seconds apart, and
nothing else; every such instant has a count of 64 bits. What is inside a leap second has the count of an
instant in the second after it.
-/
namespace CertifiedAccess.Instant

/-- A whole millisecond outside leap seconds: what a count of milliseconds can say. -/
def IsMillisecond (t : Instant) : Prop :=
  t.isLeap = false ∧ t.nanos % 1000000 = 0

theorem isLeap_eq_false_iff {t : Instant} : t.isLeap = false ↔ t.nanos < 1000000000 := by
  simp [isLeap]

theorem ofParts?_eq_some_iff {seconds : Int} {nanos : Nat} {t : Instant} :
    ofParts? seconds nanos = some t ↔ t.seconds = seconds ∧ t.nanos = nanos := by
  unfold ofParts?
  constructor
  · intro h
    split at h
    · cases h
      exact ⟨rfl, rfl⟩
    · contradiction
  · rintro ⟨rfl, rfl⟩
    exact dif_pos ⟨t.first_le, t.le_last, t.nanos_lt, t.leap⟩

theorem ofMilliseconds?_eq_some_iff {ms : Int} {t : Instant} :
    ofMilliseconds? ms = some t ↔ t.IsMillisecond ∧ t.milliseconds = ms := by
  unfold ofMilliseconds? IsMillisecond milliseconds
  rw [ofParts?_eq_some_iff, isLeap_eq_false_iff]
  omega

theorem toInt_milliseconds (t : Instant) : t.milliseconds.toInt64.toInt = t.milliseconds := by
  have first : -8334601228800 ≤ t.seconds := t.first_le
  have last : t.seconds ≤ 8210266876799 := t.le_last
  have nanos := t.nanos_lt
  unfold milliseconds
  exact Int64.toInt_ofInt_of_le (by omega) (by omega)

theorem isMillisecond_toMillisecond {t : Instant} (ordinary : t.isLeap = false) :
    t.toMillisecond.IsMillisecond := by
  rw [isLeap_eq_false_iff] at ordinary
  unfold IsMillisecond toMillisecond
  rw [isLeap_eq_false_iff]
  dsimp only
  omega

/-- What a count of milliseconds can say is what cutting to the millisecond leaves outside leap seconds. -/
theorem isMillisecond_iff {t : Instant} :
    t.IsMillisecond ↔ t.isLeap = false ∧ t.toMillisecond = t := by
  refine and_congr_right fun _ => ?_
  obtain ⟨seconds, nanos, first_le, le_last, nanos_lt, leap⟩ := t
  simp only [toMillisecond, mk.injEq, true_and]
  omega

theorem milliseconds_toMillisecond (t : Instant) : t.toMillisecond.milliseconds = t.milliseconds := by
  unfold milliseconds toMillisecond
  dsimp only
  omega

theorem isLeap_toMillisecond (t : Instant) : t.toMillisecond.isLeap = t.isLeap := by
  unfold isLeap toMillisecond
  rw [decide_eq_decide]
  dsimp only
  omega

/-- A count leads back to the instant, cut to the millisecond, exactly outside leap seconds. -/
theorem ofMilliseconds?_eq_toMillisecond_iff {t : Instant} :
    ofMilliseconds? t.milliseconds = some t.toMillisecond ↔ t.isLeap = false := by
  rw [ofMilliseconds?_eq_some_iff]
  constructor
  · rintro ⟨⟨ordinary, -⟩, -⟩
    rwa [isLeap_toMillisecond] at ordinary
  · intro ordinary
    exact ⟨isMillisecond_toMillisecond ordinary, milliseconds_toMillisecond t⟩

/-- Inside a leap second it leads to the second after it, if anywhere. -/
theorem parts_of_leap {t back : Instant} (leap : t.isLeap = true)
    (found : ofMilliseconds? t.milliseconds = some back) :
    back.seconds = t.seconds + 1 ∧ back.nanos + 1000000000 = t.toMillisecond.nanos := by
  obtain ⟨⟨ordinary, whole⟩, same⟩ := ofMilliseconds?_eq_some_iff.mp found
  rw [isLeap_eq_false_iff] at ordinary
  rw [isLeap, decide_eq_true_iff] at leap
  have nanos := t.nanos_lt
  unfold milliseconds at same
  unfold toMillisecond
  dsimp only
  omega

/-- Inside a leap second after which no instant can be written. -/
def IsLastLeap (t : Instant) : Prop := t.isLeap = true ∧ t.seconds = lastSecond

instance (t : Instant) : Decidable t.IsLastLeap := inferInstanceAs (Decidable (_ ∧ _))

theorem exists_ofMilliseconds?_iff (t : Instant) :
    (∃ back, ofMilliseconds? t.milliseconds = some back) ↔ ¬ t.IsLastLeap := by
  have first := t.first_le
  have last := t.le_last
  have nanos := t.nanos_lt
  unfold IsLastLeap isLeap ofMilliseconds? ofParts? milliseconds firstSecond lastSecond at *
  rw [decide_eq_true_iff]
  split
  · refine iff_of_true ⟨_, rfl⟩ ?_
    omega
  · refine iff_of_false ?_ ?_
    · simp
    · omega

/-- No span leads from an ordinary instant into a leap second. -/
theorem isLeap_add? {t later : Instant} {s : Span} (ordinary : t.isLeap = false)
    (moved : t.add? s = some later) : later.isLeap = false := by
  unfold add? at moved
  simp only [ordinary, Bool.false_eq_true, false_and, if_false] at moved
  obtain ⟨-, nanos⟩ := ofParts?_eq_some_iff.mp moved
  rw [isLeap_eq_false_iff, nanos]
  omega

end CertifiedAccess.Instant
