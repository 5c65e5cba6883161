import CertifiedAccess.Key.Ed25519
import CertifiedAccess.Proofs.Authority.Configuration
import CertifiedAccess.Proofs.Authority.Renewal
import CertifiedAccess.Proofs.Timeline

/-!
Lifetimes. Whether a session is persistent is settled when it is opened, and every renewal keeps to it; so
all certificates of a session last for the one window that the settings give for sessions of its kind.
-/
namespace CertifiedAccess
open CertifiedAccess.Action

/-- Whether the sessions that an operation opens are persistent, if it opens any. -/
def Operation.persistent? : Operation → Option Bool
  | .signUp _ _ _ => some true
  | .signIn _ _ options _ => some options.remember
  | .refresh _ _ | .signOut _ | .setRoles _ _ | .setEnabled _ _ => none

/-- The operation opened the session with this id, as a persistent one or not. -/
structure Entry.Opens (entry : Entry) (id : SessionId) (persistent : Bool) : Prop where
  kind : entry.operation.persistent? = some persistent
  issued : ∃ issued, entry.result = .ok (some issued) ∧ issued.sessionId = id

/-- The session with this id was opened in the run, as a persistent one or not. -/
def OpenedAs (log : List Entry) (id : SessionId) (persistent : Bool) : Prop :=
  ∃ entry ∈ log, entry.Opens id persistent

theorem openedAs_cons_iff {entry : Entry} {log : List Entry} {id : SessionId} {persistent : Bool} :
    OpenedAs (entry :: log) id persistent ↔
      entry.Opens id persistent ∨ OpenedAs log id persistent := by
  simp [OpenedAs]

/-- An operation for a session of this kind: it opens one, or renews one that was opened as such. -/
inductive Operation.OfKind (log : List Entry) (r : Registry) (persistent : Bool) : Operation → Prop where
  | opening {operation : Operation} (kind : operation.persistent? = some persistent) :
    OfKind log r persistent operation
  | renewal {certificate : Bytes} {now : Instant} {session : Session}
    (current : r.sessionByCertificate certificate = some session)
    (opened : OpenedAs log session.id persistent) : OfKind log r persistent (.refresh certificate now)

section
variable [SignatureScheme]

/-- An operation that goes as far as minting: for which account and key, for a transient session or not,
and when. -/
inductive Operation.Mints (authority : Authority Registry) (before : World Registry) :
    Operation → Account → PublicKey → Bool → Instant → Prop where
  | opening {operation : Operation} {account : Account} {client : PublicKey}
    {options : SignInOptions} {now : Instant} {store : Registry}
    (asks : Asks before.store operation account client options now store)
    (allowed : authority.creation account.id client now store = .ok true) :
    Mints authority before operation account client (!options.remember) now
  | renewal {certificate : Bytes} {now : Instant} {session : Session} {account : Account}
    (continues : before.store.Continues certificate now session account)
    (eligible : authority.renewal account = true) :
    Mints authority before (.refresh certificate now) account session.clientKey session.transient now

namespace Operation
variable {authority : Authority Registry} {before after : World Registry} {operation : Operation}
  {result : Except SessionError (Option IssuedCertificate)} {account : Account} {client : PublicKey}
  {options : SignInOptions} {now : Instant} {transient persistent : Bool}

omit [SignatureScheme] in
theorem Asks.kind {r store : Registry}
    (asks : Asks r operation account client options now store) :
    operation.persistent? = some options.remember := by
  cases asks with
  | signUp made => rfl
  | signIn known => rfl

omit [SignatureScheme] in
theorem Asks.unique {r store store' : Registry} {account' : Account} {client' : PublicKey}
    {options' : SignInOptions} {now' : Instant}
    (asks : Asks r operation account client options now store)
    (asks' : Asks r operation account' client' options' now' store') :
    account' = account ∧ client' = client ∧ options' = options ∧ now' = now ∧ store' = store := by
  cases asks with
  | signUp made =>
    cases asks' with
    | signUp made' =>
      rw [made] at made'
      cases made'
      exact ⟨rfl, rfl, rfl, rfl, rfl⟩
  | signIn known =>
    cases asks' with
    | signIn known' =>
      rw [known] at known'
      cases known'
      exact ⟨rfl, rfl, rfl, rfl, rfl⟩

/-- Who has asked for a session is refused or gets one. -/
theorem Effect.asks_cases (effect : Effect authority before operation result after) {store : Registry}
    (asks : Asks before.store operation account client options now store) :
    (∃ e, authority.Refuses ⟨store, before.drawn⟩ account client options now e ∧ result = .error e) ∨
      ∃ session, authority.Opens ⟨store, before.drawn⟩ account client options now session ∧
        result = .ok (some (Authority.issuedFor session)) := by
  cases effect with
  | passed passes =>
    cases passes with
    | taken known =>
      cases asks with
      | signUp made =>
        obtain ⟨unknown, -⟩ := Registry.createAccount_eq_ok_iff.mp made
        rw [known] at unknown
        contradiction
    | unknown nobody =>
      cases asks with
      | signIn known =>
        rw [nobody] at known
        contradiction
    | refused asks' refuses =>
      obtain ⟨rfl, rfl, rfl, rfl, rfl⟩ := asks.unique asks'
      exact .inl ⟨_, refuses, rfl⟩
    | declined declines => cases asks
    | absent none_there => cases asks
    | assigned assigns =>
      cases assigns with
      | setRoles => cases asks
      | setEnabled => cases asks
  | opened asks' opens =>
    obtain ⟨rfl, rfl, rfl, rfl, rfl⟩ := asks.unique asks'
    exact .inr ⟨_, opens, rfl⟩
  | renewed renews => cases asks
  | ended current => cases asks

/-- Who asks for a renewal is told why not or gets one. -/
theorem Effect.refresh_cases {certificate : Bytes}
    (effect : Effect authority before (.refresh certificate now) result after) :
    (∃ e, authority.Declines before.store certificate now e ∧ result = .error e) ∨
      ∃ session account renewed,
        authority.Renews before.store certificate now session account renewed ∧
          result = .ok (some (Authority.issuedFor renewed)) := by
  cases effect with
  | passed passes =>
    cases passes with
    | refused asks refuses => cases asks
    | declined declines => exact .inl ⟨_, declines, rfl⟩
    | assigned assigns => cases assigns
  | opened asks opens => cases asks
  | renewed renews => exact .inr ⟨_, _, _, renews, rfl⟩

/-- What comes of minting is how the operation ends. -/
theorem Effect.of_mints (effect : Effect authority before operation result after)
    (mints : Mints authority before operation account client transient now) :
    (∃ e, authority.mint account client (authority.window transient) now = .error e ∧
      result = .error (.certificateCreationFailed e)) ∨
    ∃ issued, authority.mint account client (authority.window transient) now =
      .ok (issued.bytes, issued.expiresAt) ∧ result = .ok (some issued) := by
  cases mints with
  | opening asks allowed =>
    rcases effect.asks_cases asks with ⟨e, refuses, failed⟩ | ⟨session, opens, issues⟩
    · cases refuses with
      | undecided undecided =>
        rw [allowed] at undecided
        contradiction
      | vetoed denied =>
        rw [allowed] at denied
        contradiction
      | unminted _ unminted => exact .inl ⟨_, unminted, failed⟩
    · exact .inr ⟨_, opens.minted, issues⟩
  | @renewal certificate _ session _ continues eligible =>
    obtain ⟨current, active, owner⟩ := continues
    rcases effect.refresh_cases with ⟨e, declines, failed⟩ | ⟨session', account', renewed, renews, issues⟩
    · cases minted : authority.mint account session.clientKey (authority.window session.transient) now with
      | error cause =>
        obtain rfl := declines.unique (.unminted current active owner eligible minted)
        exact .inl ⟨cause, rfl, failed⟩
      | ok made =>
        have renews : authority.Renews before.store certificate now session account
            (session.renewed made.1 made.2) := ⟨current, active, owner, eligible, minted, rfl⟩
        exact absurd declines renews.not_declines
    · obtain rfl : session' = session := Option.some.inj (renews.current.symm.trans current)
      obtain rfl : account' = account := Option.some.inj (renews.owner.symm.trans owner)
      exact .inr ⟨_, renews.minted, issues⟩

/-- No certificate without minting. -/
theorem Effect.exists_mints (effect : Effect authority before operation result after)
    {issued : IssuedCertificate} (issues : result = .ok (some issued)) :
    ∃ account client transient now, operation.time? = some now ∧
      Mints authority before operation account client transient now := by
  cases effect with
  | passed passes => exact absurd issues passes.issues_nothing
  | opened asks opens => exact ⟨_, _, _, _, asks.inputs.2, .opening asks opens.allowed⟩
  | renewed renews =>
    exact ⟨_, _, _, _, rfl, .renewal ⟨renews.current, renews.active, renews.owner⟩ renews.eligible⟩
  | ended current => cases issues

/-- An id that an operation opens a session under is the one drawn last. -/
theorem Effect.drawn_of_opens (effect : Effect authority before operation result after)
    {id : SessionId} (opens : Entry.Opens ⟨operation, result⟩ id persistent) :
    id = ⟨before.drawn⟩ ∧ after.drawn = before.drawn + 1 := by
  obtain ⟨kind, issued, issues, rfl⟩ := opens
  cases effect with
  | passed passes => exact absurd issues passes.issues_nothing
  | opened asks opens =>
    cases issues
    rw [opens.made]
    exact ⟨rfl, rfl⟩
  | renewed renews => contradiction
  | ended current => contradiction

theorem Effect.drawn_le (effect : Effect authority before operation result after) :
    before.drawn ≤ after.drawn := by
  cases effect with
  | passed passes => exact passes.frame.2.2.ge
  | opened asks opens => exact Nat.le_succ _
  | renewed renews => exact Nat.le_refl _
  | ended current => exact Nat.le_refl _

/-- A session is of the kind that it was before, or it has just been opened as what it is. -/
theorem Effect.kept_or_opened (held : before.Orderly)
    (effect : Effect authority before operation result after) {s : Session}
    (stored : s ∈ after.store.sessions.values) :
    (∃ old ∈ before.store.sessions.values, old.id = s.id ∧ old.transient = s.transient) ∨
      Entry.Opens ⟨operation, result⟩ s.id (!s.transient) := by
  cases effect with
  | passed passes =>
    rw [passes.frame.1] at stored
    exact .inl ⟨s, stored, rfl, rfl⟩
  | opened asks opens =>
    obtain ⟨-, -, sessions, -⟩ := asks.frame
    rcases (Registry.mem_sessions_put (asks.orderly held).keyed).mp stored with rfl | ⟨stored, -⟩
    · refine .inr ⟨?_, _, rfl, rfl⟩
      rw [asks.kind, opens.made, Session.make, Bool.not_not]
    · exact .inl ⟨s, sessions ▸ stored, rfl, rfl⟩
  | @renewed _ _ session _ renewed renews =>
    rcases (Registry.mem_sessions_put held.keyed).mp stored with rfl | ⟨stored, -⟩
    · refine .inl ⟨session, Registry.mem_sessions_of_found renews.current, renews.frame.1.symm, ?_⟩
      rw [renews.made, Session.renewed]
    · exact .inl ⟨s, stored, rfl, rfl⟩
  | @ended _ session current =>
    rcases (mem_sessions_ended held.keyed).mp stored with ⟨stored, -⟩ | ⟨-, rfl⟩
    · exact .inl ⟨s, stored, rfl, rfl⟩
    · exact .inl ⟨session, Registry.mem_sessions_of_found current, rfl, rfl⟩

end Operation

namespace Authority
variable {authority : Authority Registry} {log : List Entry} {before after : World Registry}

/-- Ids that sessions were opened under have been drawn. -/
theorem Run.lt_drawn (run : authority.Run log before) {id : SessionId} {persistent : Bool}
    (opened : OpenedAs log id persistent) : id.number < before.drawn := by
  induction run with
  | initial => simp [OpenedAs] at opened
  | step run ended ih =>
    have effect := Operation.effect ended
    rcases openedAs_cons_iff.mp opened with opens | opened
    · obtain ⟨rfl, drawn⟩ := effect.drawn_of_opens opens
      rw [drawn]
      exact Nat.lt_succ_self _
    · exact Nat.lt_of_lt_of_le (ih opened) effect.drawn_le

/-- A session is of the kind that it was opened as, through all renewals. -/
theorem Run.openedAs_iff (run : authority.Run log before) {s : Session}
    (stored : s ∈ before.store.sessions.values) {persistent : Bool} :
    OpenedAs log s.id persistent ↔ s.transient = !persistent := by
  -- ids are drawn once: what the last operation opens was not there before, and nothing before was opened
  -- under its id
  induction run generalizing s with
  | initial => contradiction
  | @step log before after entry run ended ih =>
    have effect := Operation.effect ended
    rw [openedAs_cons_iff]
    rcases effect.kept_or_opened run.orderly stored with ⟨old, there, own, kind⟩ | opened
    · have apart : ¬ entry.Opens s.id persistent := by
        intro opens
        have drawn := run.orderly.fresh old there
        rw [own, (effect.drawn_of_opens opens).1] at drawn
        exact Nat.lt_irrefl _ drawn
      rw [or_iff_right apart, ← own, ← kind]
      exact ih there
    · have unused : ¬ OpenedAs log s.id persistent := by
        intro earlier
        have drawn := run.lt_drawn earlier
        rw [(effect.drawn_of_opens opened).1] at drawn
        exact Nat.lt_irrefl _ drawn
      rw [or_iff_left unused]
      constructor
      · intro opens
        have same := Option.some.inj (opens.kind.symm.trans opened.kind)
        rw [same, Bool.not_not]
      · intro kind
        rwa [kind, Bool.not_not] at opened

/-- An operation mints for the window of the sessions that it is about. -/
theorem Run.ofKind_iff (run : authority.Run log before) {operation : Operation} {account : Account}
    {client : PublicKey} {transient persistent : Bool} {now : Instant}
    (mints : operation.Mints authority before account client transient now) :
    operation.OfKind log before.store persistent ↔ transient = !persistent := by
  cases mints with
  | opening asks allowed =>
    rw [Bool.not_inj_iff]
    constructor
    · rintro (kind | _)
      · exact Option.some.inj (asks.kind.symm.trans kind)
      · cases asks
    · rintro rfl
      exact .opening asks.kind
  | renewal continues eligible =>
    rw [← run.openedAs_iff (Registry.mem_sessions_of_found continues.current)]
    constructor
    · rintro (⟨⟨⟩⟩ | ⟨current, opened⟩)
      rw [continues.current] at current
      cases current
      exact opened
    · exact .renewal continues.current

theorem mint_eq_expiryOutOfRange_iff {account : Account} {client : PublicKey} {validity asked : Span}
    {now time : Instant} :
    authority.mint account client validity now = .error (.expiryOutOfRange time asked) ↔
      time = now ∧ asked = validity ∧ now.add? validity = none := by
  rw [mint_eq_error_iff]
  constructor
  · rintro ⟨late⟩
    exact ⟨rfl, rfl, late⟩
  · rintro ⟨rfl, rfl, late⟩
    exact .unreachable late

/-- What minting gives for a window that is not too long. -/
theorem expires_of_mint {account : Account} {client : PublicKey} {seconds : Nat} {now : Instant}
    (bounded : seconds ≤ AuthoritySettings.maxValidity) (ordinary : now.isLeap = false)
    {bytes : Bytes} {expiresAt : Instant}
    (minted : authority.mint account client (.ofSeconds seconds) now = .ok (bytes, expiresAt)) :
    now.Expires seconds expiresAt := by
  obtain ⟨later, mask, moved, rfl, -⟩ := mint_eq_ok_iff.mp minted
  exact .of_add? ordinary bounded moved

/-- The window that is minted for is the one that the settings give for the kind of session. -/
theorem Run.window_of_mints {settings : AuthoritySettings} {key : PrivateKey}
    (built : ofSettings settings key = .ok authority) (run : authority.Run log before)
    {operation : Operation} {account : Account} {client : PublicKey} {transient persistent : Bool}
    {now : Instant} (mints : operation.Mints authority before account client transient now)
    (kind : operation.OfKind log before.store persistent) :
    settings.validity persistent ≤ AuthoritySettings.maxValidity ∧
      authority.window transient = .ofSeconds (settings.validity persistent) := by
  obtain rfl := (run.ofKind_iff mints).mp kind
  have window := window_of_ofSettings built !persistent
  rwa [Bool.not_not] at window

/-- What an authority issues lasts for the window that its settings give for the kind of session: for
persistent sessions the one, for all others the other, from the sign-up or sign-in on through all renewals,
and to the millisecond. Outside leap seconds, minting fails for want of an expiry exactly when the window
goes past the last instant. -/
theorem Run.lifetimes {settings : AuthoritySettings} {key : PrivateKey}
    (built : ofSettings settings key = .ok authority) (run : authority.Run log before)
    {operation : Operation} {now : Instant} (timed : operation.time? = some now)
    (ordinary : now.isLeap = false) {result : Except SessionError (Option IssuedCertificate)}
    (ended : (operation.deed authority).Ends before result after) :
    (∀ issued, result = .ok (some issued) → ∃ account client transient,
      operation.Mints authority before account client transient now) ∧
    (∀ account client transient, operation.Mints authority before account client transient now →
      ∃ persistent, operation.OfKind log before.store persistent) ∧
    ∀ persistent, operation.OfKind log before.store persistent →
      (∀ issued, result = .ok (some issued) →
        now.Expires (settings.validity persistent) issued.expiresAt ∧
        issued.expiresAt.nanoseconds ≤
          now.nanoseconds + settings.validity persistent * 1000000000 ∧
        now.nanoseconds + settings.validity persistent * 1000000000 <
          issued.expiresAt.nanoseconds + 1000000) ∧
      ∀ account client transient, operation.Mints authority before account client transient now →
        ∀ time span,
          result = .error (.certificateCreationFailed (.expiryOutOfRange time span)) ↔
            time = now ∧ span = .ofSeconds (settings.validity persistent) ∧
              Instant.last.nanoseconds <
                now.nanoseconds + settings.validity persistent * 1000000000 := by
  have effect := Operation.effect ended
  have minting (issued : IssuedCertificate) (issues : result = .ok (some issued)) :
      ∃ account client transient, operation.Mints authority before account client transient now := by
    obtain ⟨account, client, transient, now', timed', mints⟩ := effect.exists_mints issues
    obtain rfl : now = now' := Option.some.inj (timed.symm.trans timed')
    exact ⟨account, client, transient, mints⟩
  refine ⟨minting, ?_, fun persistent kind => ⟨fun issued issues => ?_, ?_⟩⟩
  · intro account client transient mints
    exact ⟨!transient, (run.ofKind_iff mints).mpr (Bool.not_not transient).symm⟩
  · obtain ⟨account, client, transient, mints⟩ := minting issued issues
    obtain ⟨bounded, window⟩ := run.window_of_mints built mints kind
    rcases effect.of_mints mints with ⟨e, -, failed⟩ | ⟨issued', minted, same⟩
    · rw [failed] at issues
      contradiction
    · rw [same] at issues
      cases issues
      rw [window] at minted
      have expires := expires_of_mint bounded ordinary minted
      exact ⟨expires, expires.bounds⟩
  · intro account client transient mints time span
    obtain ⟨bounded, window⟩ := run.window_of_mints built mints kind
    rw [← Instant.add?_ofSeconds_eq_none_iff ordinary bounded, ← window,
      ← mint_eq_expiryOutOfRange_iff]
    rcases effect.of_mints mints with ⟨e, failed, rfl⟩ | ⟨issued, minted, rfl⟩
    · rw [failed]
      simp
    · rw [minted]
      exact iff_of_false nofun nofun

end Authority
end

/-! A user who signs in for a short time and renews that session, at a time that is no whole millisecond. -/
namespace ShortVisit
open Newcomer

def authority : Authority Registry := .standard key

def signIn : Operation := .signIn credentials device.publicKey .transient (day 1)

def signedIn := (signIn.deed authority).run (registered authority).state

def bothLogged : List Entry := ⟨signIn, signedIn.result⟩ :: log authority

def visit : Bytes := (certificatesOf bothLogged).headD []

/-- Five minutes after the sign-in, and a bit. -/
def later : Instant where
  seconds := 1700086700
  nanos := 123456789
  first_le := by decide
  le_last := by decide
  nanos_lt := by decide
  leap := by decide

/-- A quarter of an hour after that, without what is finer than a millisecond. -/
def expiry : Instant where
  seconds := 1700087600
  nanos := 123000000
  first_le := by decide
  le_last := by decide
  nanos_lt := by decide
  leap := by decide

def renewal : Operation := .refresh visit later

def renewed := (renewal.deed authority).run signedIn.state

theorem lifetime_of_renewed :
    ∃ issued, renewed.result = .ok (some issued) ∧ issued.expiresAt = expiry := by
  have built : Authority.ofSettings AuthoritySettings.standard key = .ok authority := rfl
  have run : authority.Run bothLogged signedIn.state := (run_log authority).next signIn
  obtain ⟨⟨session, found, opened, issuedFirst, own⟩, issued, issues, -⟩ :
      (∃ session ∈ (signedIn.state.store.sessionByCertificate visit).toList,
        ∃ issued ∈ (Entry.mk signIn signedIn.result).issued?.toList, issued.sessionId = session.id) ∧
      ∃ issued ∈ (Entry.mk renewal renewed.result).issued?.toList, issued.bytes ≠ visit := by
    decide +kernel
  have opens : Entry.Opens ⟨signIn, signedIn.result⟩ session.id false :=
    ⟨rfl, opened, Entry.result_of_mem_issued? issuedFirst, own⟩
  have kind : renewal.OfKind bothLogged signedIn.state.store false :=
    .renewal (Option.mem_toList.mp found) ⟨_, List.mem_cons_self, opens⟩
  have returned : renewed.result = .ok (some issued) := Entry.result_of_mem_issued? issues
  have ended : (renewal.deed authority).Ends signedIn.state renewed.result renewed.state := ⟨rfl, rfl⟩
  obtain ⟨-, -, lasts⟩ := run.lifetimes built (rfl : renewal.time? = some later) rfl ended
  have expires := ((lasts false kind).1 issued returned).1
  exact ⟨issued, returned, expires.unique ⟨by decide, by decide⟩⟩

end ShortVisit
end CertifiedAccess
