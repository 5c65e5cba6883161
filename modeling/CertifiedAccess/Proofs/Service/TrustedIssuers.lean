import CertifiedAccess.Proofs.Certificate.Disclosure
import CertifiedAccess.Proofs.Service.EndToEnd
import Mathlib.Data.List.Forall2

/-!
Whom settings trust. A text names a key if it is the one text that the key is written as, white space around it
aside. The keys of a list of texts are read one after the other, up to the first text that names none; a gate of
these settings attributes requests to nobody but the holders of certificates by the keys that are named.
-/
namespace CertifiedAccess

section
variable [SignatureScheme] {text : String} {key : PublicKey}

/-- White space around it aside, the text is what the key is written as. -/
def PublicKey.IsNamedBy (key : PublicKey) (text : String) : Prop :=
  SignatureScheme.denotes key = true ∧ Text.trim text = key.toBase64

theorem PublicKey.ofBase64_eq_ok_iff : ofBase64 text = .ok key ↔ key.IsNamedBy text := by
  unfold ofBase64 IsNamedBy
  simp only [bind_eq_ok_iff, decodeBase64_eq_ok_iff_trim, Tagged.decode_eq_ok_iff,
    PublicKey.ofTagged_eq_ok_iff]
  constructor
  · rintro ⟨_, written, _, rfl, denotes, rfl⟩
    exact ⟨denotes, written⟩
  · rintro ⟨denotes, written⟩
    exact ⟨_, written, _, rfl, denotes, rfl⟩

theorem PublicKey.IsNamedBy.unique {other : PublicKey} (named : key.IsNamedBy text)
    (named' : other.IsNamedBy text) : key = other := by
  rw [← ofBase64_eq_ok_iff] at named named'
  exact Except.ok.inj (named.symm.trans named')

namespace ServiceSettings

def NamesKey (text : String) : Prop := ∃ key : PublicKey, key.IsNamedBy text

theorem namesKey_of_ofBase64 (read : PublicKey.ofBase64 text = .ok key) : NamesKey text :=
  ⟨key, PublicKey.ofBase64_eq_ok_iff.mp read⟩

theorem not_namesKey_of_ofBase64 {cause : WireError} (refused : PublicKey.ofBase64 text = .error cause) :
    ¬ NamesKey text := by
  rintro ⟨key, named⟩
  rw [PublicKey.ofBase64_eq_ok_iff.mpr named] at refused
  contradiction

theorem readKeys_eq_ok_iff {index : Nat} {texts : List String} {keys : List PublicKey} :
    readKeys index texts = .ok keys ↔
      List.Forall₂ (fun text (key : PublicKey) => key.IsNamedBy text) texts keys := by
  induction texts generalizing index keys with
  | nil => simp [readKeys, eq_comm]
  | cons text rest ih =>
    rw [readKeys, List.forall₂_cons_left_iff]
    simp only [bind_eq_ok_iff, mapError_eq_ok_iff, pure_eq_ok_iff, PublicKey.ofBase64_eq_ok_iff, ih]
    constructor
    · rintro ⟨key, named, keys, later, rfl⟩
      exact ⟨key, keys, named, later, rfl⟩
    · rintro ⟨key, keys, named, later, rfl⟩
      exact ⟨key, named, keys, later, rfl⟩

theorem mem_readKeys_iff {index : Nat} {texts : List String} {keys : List PublicKey}
    (read : readKeys index texts = .ok keys) : key ∈ keys ↔ ∃ text ∈ texts, key.IsNamedBy text := by
  have related := readKeys_eq_ok_iff.mp read
  clear read
  induction related with
  | nil => simp
  | @cons text first texts keys named _ ih =>
    have own : key = first ↔ key.IsNamedBy text := by
      constructor
      · rintro rfl
        exact named
      · intro named'
        exact named'.unique named
    simp only [List.mem_cons, ih, own, exists_eq_or_imp]

theorem exists_readKeys_iff {index : Nat} {texts : List String} :
    (∃ keys, readKeys index texts = .ok keys) ↔ ∀ text ∈ texts, NamesKey text := by
  simp only [readKeys_eq_ok_iff]
  induction texts with
  | nil => simp
  | cons text rest ih =>
    rw [List.forall_mem_cons, ← ih]
    simp only [List.forall₂_cons_left_iff]
    constructor
    · rintro ⟨_, key, keys, named, later, rfl⟩
      exact ⟨⟨key, named⟩, keys, later⟩
    · rintro ⟨⟨key, named⟩, keys, later⟩
      exact ⟨_, key, keys, named, later, rfl⟩

/-- Reading stops at a text that names no key after texts that all do, and tells how many these are. -/
theorem readKeys_eq_error_iff {index : Nat} {texts : List String} {e : SettingsError} :
    readKeys index texts = .error e ↔ ∃ before text after cause, texts = before ++ text :: after ∧
      (∀ earlier ∈ before, NamesKey earlier) ∧ ¬ NamesKey text ∧
      PublicKey.ofBase64 text = .error cause ∧ e = .invalidIssuerKey (index + before.length) cause := by
  induction texts generalizing index with
  | nil => simp [readKeys]
  | cons first rest ih =>
    rw [readKeys, bind_eq_error_iff]
    simp only [mapError_eq_error_iff, mapError_eq_ok_iff, bind_pure_eq_error_iff, ih]
    constructor
    · rintro (⟨cause, refused, rfl⟩ | ⟨key, read, before, text, after, cause, rfl, named, stop⟩)
      · exact ⟨[], first, rest, cause, rfl, nofun, not_namesKey_of_ofBase64 refused, refused, rfl⟩
      · refine ⟨first :: before, text, after, cause, rfl, ?_, ?_⟩
        · exact List.forall_mem_cons.mpr ⟨namesKey_of_ofBase64 read, named⟩
        · rwa [List.length_cons, Nat.add_comm before.length, ← Nat.add_assoc]
    · rintro ⟨before, text, after, cause, split_at, named, unnamed, refused, rfl⟩
      cases before with
      | nil =>
        obtain ⟨rfl, rfl⟩ := List.cons.inj split_at
        exact .inl ⟨cause, refused, rfl⟩
      | cons _ before =>
        obtain ⟨rfl, rfl⟩ := List.cons.inj split_at
        obtain ⟨⟨key, first_named⟩, named⟩ := List.forall_mem_cons.mp named
        refine .inr ⟨key, PublicKey.ofBase64_eq_ok_iff.mpr first_named, before, text, after, cause, rfl,
          named, unnamed, refused, ?_⟩
        rw [List.length_cons, Nat.add_comm before.length, ← Nat.add_assoc]

variable {s : ServiceSettings}

theorem exists_trustedKeys_iff :
    (∃ trusted, s.trustedKeys = .ok trusted) ↔ ∀ text ∈ s.trustedIssuers, NamesKey text := by
  rw [← @exists_readKeys_iff _ 0, trustedKeys]
  simp only [map_eq_ok_iff]
  constructor
  · rintro ⟨_, keys, read, -⟩
    exact ⟨keys, read⟩
  · rintro ⟨keys, read⟩
    exact ⟨_, keys, read, rfl⟩

theorem mem_trustedKeys_iff {trusted : TrustedKeys} (read : s.trustedKeys = .ok trusted) :
    key ∈ trusted.keys ↔ ∃ text ∈ s.trustedIssuers, key.IsNamedBy text := by
  obtain ⟨keys, listed, rfl⟩ := map_eq_ok_iff.mp read
  rw [TrustedKeys.ofList, TrustedKeys.mem_foldl_insert_iff, mem_readKeys_iff listed]
  exact or_iff_right List.not_mem_nil

end ServiceSettings

theorem Gate.ofSettings_eq_ok_iff {s : ServiceSettings} {gate : Gate} :
    Gate.ofSettings s = .ok gate ↔
      s.trustedKeys = .ok gate.trusted ∧ gate.maxBodyBytes = s.maxBodyBytes := by
  unfold ofSettings
  simp only [bind_eq_ok_iff, pure_eq_ok_iff]
  constructor
  · rintro ⟨trusted, read, rfl⟩
    exact ⟨read, rfl⟩
  · rintro ⟨read, limit⟩
    exact ⟨_, read, by rw [← limit]⟩

theorem Gate.issuer_mem_of_authenticate {π : Type} [Wire.Codec π] {gate : Gate} {request : Http.Request}
    {now : Instant} {caller : Caller π} (named : gate.authenticate request now = .authenticated caller) :
    caller.certificate.issuer ∈ gate.trusted.keys := by
  obtain ⟨_, -, found⟩ := Gate.certificateIn_of_authenticate named
  exact Gate.issuer_mem_of_certificateIn found

/-- Trust goes to the keys that are named and to no others. -/
theorem ServiceSettings.trusts_named (s : ServiceSettings) :
    (∀ (text : String) (key : PublicKey), PublicKey.ofBase64 text = .ok key ↔
      SignatureScheme.denotes key = true ∧ Text.trim text = key.toBase64) ∧
    ((∃ trusted, s.trustedKeys = .ok trusted) ↔ ∀ text ∈ s.trustedIssuers, NamesKey text) ∧
    (∀ trusted, s.trustedKeys = .ok trusted → ∀ key : PublicKey,
      key ∈ trusted.keys ↔ ∃ text ∈ s.trustedIssuers, key.IsNamedBy text) ∧
    (∀ e, s.trustedKeys = .error e ↔ ∃ before text after cause,
      s.trustedIssuers = before ++ text :: after ∧ (∀ earlier ∈ before, NamesKey earlier) ∧
      ¬ NamesKey text ∧ PublicKey.ofBase64 text = .error cause ∧
      e = .invalidIssuerKey before.length cause) ∧
    ∀ gate, Gate.ofSettings s = .ok gate →
      ∀ {π : Type} [Wire.Codec π] (request : Http.Request) (now : Instant) (caller : Caller π),
        gate.authenticate request now = .authenticated caller →
          caller.certificate.issuer.toBase64 ∈ s.trustedIssuers.map Text.trim := by
  refine ⟨fun text key => PublicKey.ofBase64_eq_ok_iff, exists_trustedKeys_iff, ?_, ?_, ?_⟩
  · intro trusted read key
    exact mem_trustedKeys_iff read
  · intro e
    rw [trustedKeys, map_eq_error_iff, readKeys_eq_error_iff]
    simp only [Nat.zero_add]
  · intro gate described π _ request now caller authenticated
    have trusted := Gate.issuer_mem_of_authenticate authenticated
    have read := (Gate.ofSettings_eq_ok_iff.mp described).1
    obtain ⟨text, listed, -, written⟩ := (mem_trustedKeys_iff read).mp trusted
    exact List.mem_map.mpr ⟨text, listed, written⟩

end

/-! A partner whose key is named twice, once between a no-break space and a line feed; and a list of issuers
where the second text is a tag with no key behind it. -/
namespace Partner
local instance : SignatureScheme := trustingEd25519
local instance : LawfulScheme := lawful_trustingEd25519

def key : PrivateKey := ⟨List.replicate 32 10, List.length_replicate⟩

def settings : ServiceSettings :=
  { ServiceSettings.standard with
    trustedIssuers := ["\u00a0AUOnLnFEAXYt9mtowm373yaCquyfJHTspGE+QkoPuv08\n",
      "AUOnLnFEAXYt9mtowm373yaCquyfJHTspGE+QkoPuv08"] }

def misspelt : ServiceSettings :=
  { settings with trustedIssuers := settings.trustedIssuers.take 1 ++ ["AQ==", "?"] }

def device : PrivateKey := ⟨List.replicate 32 11, List.length_replicate⟩

def now : Instant := ⟨1730000000, 3000000, by decide, by decide, by decide, by decide⟩

def certificate : Certificate Unit :=
  .make key.publicKey device.publicKey now RoleMask.empty ()

def sealedCertificate : Bytes :=
  match certificate.sign key with
  | .ok octets => octets
  | .error _ => []

def unsigned : Http.Request where
  method := ⟨"PATCH", by decide⟩
  target := .origin "/"
  headers := Http.Headers.none.set Http.certificateHeader.name (Text.utf8 (encodeBase64 sealedCertificate))
  body := []

def message : Bytes :=
  (Http.canonicalParts "PATCH" "/" unsigned.withDigest.headers).flatMap Http.framed

theorem exists_authenticated {gate : Gate} (trusts : key.publicKey ∈ gate.trusted.keys) :
    ∃ request caller, (gate.authenticate request now : Verdict Unit) = .authenticated caller := by
  have formed : unsigned.withDigest.covered = .ok message := by decide +kernel
  have issued : certificate.sign key = .ok sealedCertificate := by decide +kernel
  have sealed_as := Certificate.isSealedAs_of_sign issued
  have readable : certificate.IsReadable := Certificate.isReadable_make rfl rfl rfl trivial
  obtain ⟨request, signs⟩ := Http.Request.exists_sign device formed
  have carries : unsigned.headers.first? Http.certificateHeader.name =
      some (Text.utf8 (encodeBase64 sealedCertificate)) := by
    rw [Http.Headers.first?, unsigned, Http.Headers.values_set_self, List.head?_cons]
  have small : request.body.length ≤ gate.maxBodyBytes := by
    rw [(Http.Request.sign_frame signs).2.2.1]
    exact Nat.zero_le _
  obtain ⟨live, -⟩ := Gate.authenticate_of_sign readable sealed_as trusts rfl carries signs small
  exact ⟨request, _, live (by decide)⟩

theorem trusts_partner :
    (∀ text ∈ settings.trustedIssuers, PublicKey.ofBase64 text = .ok key.publicKey) ∧
    (∃ gate, Gate.ofSettings settings = .ok gate ∧ key.publicKey ∈ gate.trusted.keys ∧
      ∃ request caller, (gate.authenticate request now : Verdict Unit) = .authenticated caller ∧
        caller.certificate.issuer.toBase64 ∈ settings.trustedIssuers.map Text.trim) ∧
    misspelt.trustedKeys = .error (.invalidIssuerKey 1 (.invalidKey (.invalidLength 32 0))) := by
  obtain ⟨reads, found, named, -, attributes⟩ := settings.trusts_named
  have trimmed : ∀ text ∈ settings.trustedIssuers, key.publicKey.IsNamedBy text := by
    simp only [PublicKey.IsNamedBy]
    decide +kernel
  refine ⟨fun text listed => (reads text _).mpr (trimmed text listed), ?_, ?_⟩
  · obtain ⟨trusted, read⟩ := found.mpr fun text listed => ⟨_, trimmed text listed⟩
    let gate : Gate := ⟨trusted, settings.maxBodyBytes⟩
    have described : Gate.ofSettings settings = .ok gate := Gate.ofSettings_eq_ok_iff.mpr ⟨read, rfl⟩
    have member : key.publicKey ∈ gate.trusted.keys :=
      (named trusted read _).mpr ⟨_, List.mem_cons_self, trimmed _ List.mem_cons_self⟩
    obtain ⟨request, caller, authenticated⟩ := exists_authenticated member
    exact ⟨gate, described, member, request, caller, authenticated,
      attributes gate described request now caller authenticated⟩
  · obtain ⟨-, -, -, first, -⟩ := misspelt.trusts_named
    have refused : PublicKey.ofBase64 "AQ==" = .error (.invalidKey (.invalidLength 32 0)) := rfl
    refine (first _).mpr ⟨settings.trustedIssuers.take 1, _, _, _, rfl, ?_, ?_, refused, rfl⟩
    · intro text listed
      exact ⟨_, trimmed text (List.mem_of_mem_take listed)⟩
    · exact ServiceSettings.not_namesKey_of_ofBase64 refused

end Partner
end CertifiedAccess
