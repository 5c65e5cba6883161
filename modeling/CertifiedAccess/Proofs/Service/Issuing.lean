import CertifiedAccess.Proofs.Authority.Configuration
import CertifiedAccess.Proofs.Certificate.Disclosure
import CertifiedAccess.Proofs.Certificate.Granting
import CertifiedAccess.Service.Issuer

/-!
Certificates between services. An issuer that settings describe lasts its certificates for the window of these
settings; it says which of the roles, the payload and the window is the first that it cannot serve, and what it
issues is accepted wherever its key is trusted, until the expiry and no longer.
-/
namespace CertifiedAccess

namespace ServiceSettings
variable [SignatureScheme] {s : ServiceSettings}

omit [SignatureScheme] in
theorem certificateWindow_of_le (bounded : s.certificateValidity ≤ maxValidity) :
    s.certificateWindow = .ofSeconds s.certificateValidity := by
  rw [certificateWindow, Nat.min_eq_left bounded]

theorem check_eq_ok_iff {u : Unit} :
    s.check = .ok u ↔ (0 < s.certificateValidity ∧ s.certificateValidity ≤ maxValidity) ∧
      0 < s.maxBodyBytes ∧ ∃ trusted, s.trustedKeys = .ok trusted := by
  unfold check
  rw [bind_eq_ok_iff]
  simp only [checkWindow_eq_ok_iff, exists_and_left, exists_const]
  refine and_congr_right fun _ => ?_
  by_cases empty : s.maxBodyBytes = 0
  · rw [if_pos empty, empty]
    exact iff_of_false nofun fun limits => Nat.lt_irrefl 0 limits.1
  · rw [if_neg empty, and_iff_right (Nat.pos_of_ne_zero empty)]
    exact bind_eq_ok_iff.trans (by simp)

end ServiceSettings

namespace Certificate
open Wire

/-- The reasons to withhold a certificate, for a window in seconds and by the fields of the payload. -/
theorem withheld_iff [SignatureScheme] {ρ : Type} [Role ρ] {roles : List ρ} {s : Schema}
    {payload : s.Value} {now : Instant} {seconds : Nat} {e : CertificateError}
    (ordinary : now.isLeap = false) (bounded : seconds ≤ AuthoritySettings.maxValidity) :
    Withheld roles payload (.ofSeconds seconds) now e ↔
      Instant.last.nanoseconds < now.nanoseconds + seconds * 1000000000 ∧
          e = .expiryOutOfRange now (.ofSeconds seconds) ∨
        now.nanoseconds + seconds * 1000000000 ≤ Instant.last.nanoseconds ∧
          ((∃ id, RoleMask.firstStrange? (roles.map Role.id) = some id ∧
              e = .role (.outOfRange id)) ∨
            RoleMask.firstStrange? (roles.map Role.id) = none ∧
              ∃ cause, firstTooLarge (s.fields payload) = some cause ∧
                e = .wire (.signingFailed cause.message)) := by
  have unreachable := Instant.add?_ofSeconds_eq_none_iff ordinary bounded
  have reachable {later : Instant} (moved : now.add? (.ofSeconds seconds) = some later) :
      now.nanoseconds + seconds * 1000000000 ≤ Instant.last.nanoseconds := by
    rw [moved] at unreachable
    exact Int.not_lt.mp (unreachable.not.mp nofun)
  constructor
  · rintro (late | ⟨moved, first⟩ | ⟨moved, encoded, refused⟩)
    · exact .inl ⟨unreachable.mp late, rfl⟩
    · exact .inr ⟨reachable moved, .inl ⟨_, first, rfl⟩⟩
    · refine .inr ⟨reachable moved, .inr ⟨?_, _, (s.encode_eq_error_iff payload _).mp refused, rfl⟩⟩
      exact RoleMask.exists_ofIds_iff.mp ⟨_, encoded⟩
  · rintro (⟨late, rfl⟩ | ⟨soon, reasons⟩)
    · exact .unreachable (unreachable.mpr late)
    · obtain ⟨later, moved⟩ := Option.ne_none_iff_exists'.mp
        (unreachable.not.mpr (Int.not_lt.mpr soon))
      rcases reasons with ⟨id, first, rfl⟩ | ⟨inside, cause, large, rfl⟩
      · exact .strange moved first
      · obtain ⟨mask, encoded⟩ := RoleMask.exists_ofIds_iff.mpr inside
        exact .unwritten moved encoded ((s.encode_eq_error_iff payload _).mpr large)

end Certificate

namespace Issuer
variable [SignatureScheme]

section
variable {settings : ServiceSettings} {key : PrivateKey} {issuer : Issuer}

theorem ofSettings_eq_ok_iff :
    ofSettings settings key = .ok issuer ↔
      settings.check = .ok () ∧ issuer = ⟨key, settings.certificateWindow⟩ := by
  simp only [ofSettings, bind_eq_ok_iff, pure_eq_ok_iff]
  constructor
  · rintro ⟨_, fit, rfl⟩
    exact ⟨fit, rfl⟩
  · rintro ⟨fit, rfl⟩
    exact ⟨(), fit, rfl⟩

/-- A window that is fit for use is not cut. -/
theorem validity_of_ofSettings (built : ofSettings settings key = .ok issuer) :
    settings.certificateValidity ≤ AuthoritySettings.maxValidity ∧
      issuer.validity = .ofSeconds settings.certificateValidity := by
  obtain ⟨fit, rfl⟩ := ofSettings_eq_ok_iff.mp built
  obtain ⟨⟨-, bounded⟩, -⟩ := ServiceSettings.check_eq_ok_iff.mp fit
  have shorter : ServiceSettings.maxValidity ≤ AuthoritySettings.maxValidity := by decide
  exact ⟨Nat.le_trans bounded shorter, ServiceSettings.certificateWindow_of_le bounded⟩

end

section
variable {ρ π : Type} [Role ρ] [Wire.Codec π] {issuer : Issuer} {client : PublicKey} {roles : List ρ}
  {payload : π} {now : Instant} {bytes : Bytes}

theorem issue_eq_error_iff {e : CertificateError} :
    issuer.issue client roles payload now = .error e ↔
      Certificate.Withheld roles payload issuer.validity now e :=
  Certificate.grant_bind_eq_error_iff fun _ => mapError_eq_error_iff

theorem issue_eq_ok_iff :
    issuer.issue client roles payload now = .ok bytes ↔
      ∃ later mask, now.add? issuer.validity = some later ∧ RoleMask.encode roles = .ok mask ∧
        (Certificate.make issuer.publicKey client later mask payload).sign issuer.key = .ok bytes := by
  simp only [issue, bind_eq_ok_iff, mapError_eq_ok_iff, Certificate.grant_eq_ok_iff]
  constructor
  · rintro ⟨_, ⟨later, mask, moved, encoded, rfl⟩, signed⟩
    exact ⟨later, mask, moved, encoded, signed⟩
  · rintro ⟨later, mask, moved, encoded, signed⟩
    exact ⟨_, ⟨later, mask, moved, encoded, rfl⟩, signed⟩

/-- What is issued is the sealed form of a certificate that can be read back. -/
theorem isGenuine_of_issue [LawfulScheme] [Wire.Canonical π]
    (denotes : SignatureScheme.denotes client = true) (readable : Wire.Canonical.Readable payload)
    (ordinary : now.isLeap = false) (issued : issuer.issue client roles payload now = .ok bytes) :
    ∃ later mask, now.add? issuer.validity = some later ∧ RoleMask.encode roles = .ok mask ∧
      (Certificate.make issuer.publicKey client later mask payload).IsGenuine bytes := by
  obtain ⟨later, mask, moved, encoded, signed⟩ := issue_eq_ok_iff.mp issued
  refine ⟨later, mask, moved, encoded, Certificate.isGenuine_iff.mpr ⟨?_, ?_⟩⟩
  · have ordinary' := Instant.isLeap_add? ordinary moved
    exact Certificate.isReadable_make (LawfulScheme.denotes_publicKey issuer.key) denotes ordinary'
      readable
  · exact Certificate.isSealedAs_of_sign signed

end

/-- Of an issuer that settings describe. A certificate that would last past the last instant is refused, then a
role without a number below 64, then a payload with a field that is too large, and nothing else is; of several
such roles or fields the first is told. What is issued says the client, the payload and exactly the roles, in
ascending order of their numbers, and everybody who trusts the issuer accepts it until it expires, which is when
the window ends, to the millisecond, and refuses it from then on. -/
theorem issue_decides [LawfulScheme] {settings : ServiceSettings} {key : PrivateKey} {issuer : Issuer}
    (built : ofSettings settings key = .ok issuer) {client : PublicKey}
    (denotes : SignatureScheme.denotes client = true) {s : Wire.Schema} {payload : s.Value}
    (legible : s.Legible payload) {now : Instant} (ordinary : now.isLeap = false) {ρ : Type} [Role ρ]
    (roles : List ρ) :
    (∀ e, issuer.issue client roles payload now = .error e ↔
      Instant.last.nanoseconds < now.nanoseconds + settings.certificateValidity * 1000000000 ∧
          e = .expiryOutOfRange now (.ofSeconds settings.certificateValidity) ∨
        now.nanoseconds + settings.certificateValidity * 1000000000 ≤ Instant.last.nanoseconds ∧
          ((∃ id, RoleMask.firstStrange? (roles.map Role.id) = some id ∧
              e = .role (.outOfRange id)) ∨
            RoleMask.firstStrange? (roles.map Role.id) = none ∧
              ∃ cause, Wire.firstTooLarge (s.fields payload) = some cause ∧
                e = .wire (.signingFailed cause.message))) ∧
    (now.nanoseconds + settings.certificateValidity * 1000000000 ≤ Instant.last.nanoseconds →
      (∀ role ∈ roles, (Role.id role).toNat < maxRoles) →
      (∀ octets ∈ s.fields payload, octets.length ≤ Wire.maxFieldLength) →
      ∃ bytes mask expiry, issuer.issue client roles payload now = .ok bytes ∧
        mask.ids.Pairwise (· < ·) ∧
        (∀ id, id ∈ mask.ids ↔ ∃ role ∈ roles, Role.id role = id) ∧
        now.Expires settings.certificateValidity expiry ∧
        ∀ trusted : TrustedKeys, issuer.publicKey ∈ trusted.keys → ∀ t,
          (t ≤ expiry → Certificate.validate trusted bytes t =
            .ok (⟨issuer.publicKey, client, expiry, mask, payload⟩ : Certificate s.Value)) ∧
          (expiry < t → (Certificate.validate trusted bytes t : Except _ (Certificate s.Value)) =
            .error (.rejected (.expired expiry t)))) := by
  obtain ⟨bounded, window⟩ := validity_of_ofSettings built
  have refuses (e : CertificateError) : issuer.issue client roles payload now = .error e ↔
      Certificate.Withheld roles payload issuer.validity now e := issue_eq_error_iff
  simp only [window, Certificate.withheld_iff ordinary bounded] at refuses
  refine ⟨refuses, fun soon inside fits => ?_⟩
  have inside := RoleMask.firstStrange?_eq_none_iff.mpr (List.forall_mem_map.mpr inside)
  have fits := Wire.firstTooLarge_eq_none_iff.mpr fits
  cases issued : issuer.issue client roles payload now with
  | error e =>
    rcases (refuses e).mp issued with ⟨late, -⟩ | ⟨-, ⟨id, strange, -⟩ | ⟨-, cause, large, -⟩⟩
    · exact absurd late (Int.not_lt.mpr soon)
    · rw [inside] at strange
      contradiction
    · rw [fits] at large
      contradiction
  | ok bytes =>
    obtain ⟨later, mask, moved, encoded, sealing⟩ := isGenuine_of_issue denotes
      ((s.readable_iff_legible payload).mpr legible) ordinary issued
    rw [window] at moved
    refine ⟨bytes, mask, later.toMillisecond, rfl, mask.pairwise_ids, fun id => ?_,
      .of_add? ordinary bounded moved, fun trusted trusts t => ?_⟩
    · rw [RoleMask.mem_ids_iff, RoleMask.contains_of_encode encoded]
    · obtain ⟨-, late, live⟩ := sealing.verdict trusted t
      exact ⟨live trusts, late trusts⟩

end Issuer

/-! A call to another service on behalf of a user, a bit after a full second, and one that comes too late. -/
namespace Errand
local instance : SignatureScheme := trustingEd25519
local instance : LawfulScheme := lawful_trustingEd25519

def key : PrivateKey := ⟨List.replicate 32 9, List.length_replicate⟩

def client : PublicKey := Wire.Endorsement.key

def issuer : Issuer := .standard key

def user : Wire.Schema.account.Value := (⟨"user-1", "alice"⟩ : AccountPayload)

/-- The last role twice, and the first. -/
def roles : List RoleId := [⟨63⟩, ⟨0⟩, ⟨63⟩]

def now : Instant := ⟨1720000000, 7999999, by decide, by decide, by decide, by decide⟩

def expiry : Instant := ⟨1720000900, 7000000, by decide, by decide, by decide, by decide⟩

/-- The nanosecond after that. -/
def missed : Instant := ⟨1720000900, 7000001, by decide, by decide, by decide, by decide⟩

def callee : TrustedKeys := .ofList [issuer.publicKey]

theorem issue_errand :
    (∃ bytes mask, issuer.issue client roles user now = .ok bytes ∧
      (∀ id, id ∈ mask.ids ↔ id = 0 ∨ id = 63) ∧
      Certificate.validate callee bytes expiry =
        .ok (⟨issuer.publicKey, client, expiry, mask, user⟩ : Certificate AccountPayload) ∧
      (Certificate.validate callee bytes missed : Except _ (Certificate AccountPayload)) =
        .error (.rejected (.expired expiry missed))) ∧
    issuer.issue client [RoleId.mk 64] user Instant.last =
      .error (.expiryOutOfRange Instant.last (.ofSeconds 900)) := by
  have built : Issuer.ofSettings ServiceSettings.standard key = .ok issuer := rfl
  have denotes : SignatureScheme.denotes client = true := rfl
  have legible : Wire.Schema.account.Legible user := trivial
  have fits : ∀ octets ∈ Wire.Schema.account.fields user, octets.length ≤ Wire.maxFieldLength := by
    decide +kernel
  constructor
  · have ordinary : now.isLeap = false := rfl
    obtain ⟨-, issues⟩ := Issuer.issue_decides built denotes legible ordinary roles
    obtain ⟨bytes, mask, expiry', issued, -, known, expires, verdicts⟩ :=
      issues (by decide) (by decide) fits
    obtain rfl : expiry' = expiry := expires.unique ⟨by decide, by decide⟩
    have trusts : issuer.publicKey ∈ callee.keys :=
      TrustedKeys.mem_foldl_insert_iff.mpr (.inr List.mem_cons_self)
    refine ⟨bytes, mask, issued, fun id => ?_, (verdicts callee trusts expiry).1 (by decide),
      (verdicts callee trusts missed).2 (by decide)⟩
    rw [known]
    constructor
    · rintro ⟨role, asked, rfl⟩
      revert role
      decide
    · rintro (rfl | rfl)
      · exact ⟨⟨0⟩, by decide, rfl⟩
      · exact ⟨⟨63⟩, by decide, rfl⟩
  · have ordinary : Instant.last.isLeap = false := rfl
    obtain ⟨refuses, -⟩ := Issuer.issue_decides built denotes legible ordinary [RoleId.mk 64]
    exact (refuses _).mpr (.inl ⟨by decide, rfl⟩)

end Errand
end CertifiedAccess
