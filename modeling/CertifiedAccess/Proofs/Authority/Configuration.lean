import CertifiedAccess.Authority.Lifecycle
import CertifiedAccess.Proofs.Outcomes

/-!
Authorities from settings. Settings are fit for use when both windows are positive and not longer than ten
years, and then the authority has exactly these windows.
-/
namespace CertifiedAccess

theorem checkWindow_eq_ok_iff {setting : String} {limit seconds : Nat} {u : Unit} :
    checkWindow setting limit seconds = .ok u ↔ 0 < seconds ∧ seconds ≤ limit := by
  unfold checkWindow
  by_cases zero : seconds = 0
  · simp [zero]
  · by_cases long : limit < seconds
    · simp [zero, long]
    · simp [zero, long, Nat.pos_of_ne_zero, Nat.le_of_not_lt]

namespace AuthoritySettings

/-- How long certificates of persistent sessions last, or of the others, in seconds. -/
def validity (s : AuthoritySettings) (persistent : Bool) : Nat :=
  if persistent then s.sessionValidity else s.transientValidity

theorem validity_true (s : AuthoritySettings) : s.validity true = s.sessionValidity := rfl

theorem validity_false (s : AuthoritySettings) : s.validity false = s.transientValidity := rfl

theorem check_eq_ok_iff {s : AuthoritySettings} {u : Unit} :
    s.check = .ok u ↔ ∀ persistent, 0 < s.validity persistent ∧ s.validity persistent ≤ maxValidity := by
  unfold check
  simp only [bind_eq_ok_iff, checkWindow_eq_ok_iff, Bool.forall_bool, exists_const, validity_true,
    validity_false]
  exact and_comm

theorem sessionWindow_of_le {s : AuthoritySettings} (bounded : s.sessionValidity ≤ maxValidity) :
    s.sessionWindow = .ofSeconds s.sessionValidity := by
  rw [sessionWindow, Nat.min_eq_left bounded]

theorem transientWindow_of_le {s : AuthoritySettings} (bounded : s.transientValidity ≤ maxValidity) :
    s.transientWindow = .ofSeconds s.transientValidity := by
  rw [transientWindow, Nat.min_eq_left bounded]

end AuthoritySettings

namespace Authority
variable {σ : Type} [Backend σ] {settings : AuthoritySettings} {key : PrivateKey}
  {authority : Authority σ}

theorem ofSettings_eq_ok_iff :
    ofSettings settings key = .ok authority ↔ settings.check = .ok () ∧
      authority = { (standard key : Authority σ) with
        creation := if settings.singleActiveSession then .singleActive else .allowAll
        sessionWindow := settings.sessionWindow
        transientWindow := settings.transientWindow
        retainSignedOut := settings.retainSignedOut } := by
  simp only [ofSettings, bind_eq_ok_iff, pure_eq_ok_iff]
  constructor
  · rintro ⟨_, fit, rfl⟩
    exact ⟨fit, rfl⟩
  · rintro ⟨fit, rfl⟩
    exact ⟨(), fit, rfl⟩

/-- Windows that are fit for use are not cut. -/
theorem window_of_ofSettings (built : ofSettings settings key = .ok authority) (transient : Bool) :
    settings.validity (!transient) ≤ AuthoritySettings.maxValidity ∧
      authority.window transient = .ofSeconds (settings.validity !transient) := by
  obtain ⟨fit, rfl⟩ := ofSettings_eq_ok_iff.mp built
  obtain ⟨-, bounded⟩ := AuthoritySettings.check_eq_ok_iff.mp fit !transient
  refine ⟨bounded, ?_⟩
  -- the windows are named first: nothing may unfold the literal of the longest one
  cases transient with
  | true =>
    rw [Bool.not_true, AuthoritySettings.validity_false] at bounded ⊢
    rw [← AuthoritySettings.transientWindow_of_le bounded, window, if_pos rfl]
  | false =>
    rw [Bool.not_false, AuthoritySettings.validity_true] at bounded ⊢
    rw [← AuthoritySettings.sessionWindow_of_le bounded, window, if_neg Bool.false_ne_true]

end Authority
end CertifiedAccess
