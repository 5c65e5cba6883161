import CertifiedAccess.Authority.Registry
import CertifiedAccess.Proofs.Authority.Stores
import CertifiedAccess.Proofs.Authority.Table
import Std.Data.String.ToNat

/-!
What can happen to an authority over a registry: its operations, and roles and switches that are changed
between them. Whichever is done, accounts stand under their own names and no two share an id.
-/
namespace CertifiedAccess

/-- What can happen to an authority and its registry. -/
inductive Operation where
  | signUp (credentials : Credentials) (client : PublicKey) (now : Instant)
  | signIn (credentials : Credentials) (client : PublicKey) (options : SignInOptions) (now : Instant)
  | refresh (certificate : Bytes) (now : Instant)
  | signOut (certificate : Bytes)
  | setRoles (username : String) (roles : List RoleId)
  | setEnabled (username : String) (enabled : Bool)

namespace Operation
open CertifiedAccess.Action
variable [SignatureScheme]

/-- Changes the registry by the side of its authority, if there is anything to change. -/
def assign (update : Registry → Option Registry) : Authority.Deed Registry Unit := fun world =>
  ⟨.ok (), { world with store := (update world.store).getD world.store }, []⟩

/-- The operation, with the certificate that it issues. -/
def deed (authority : Authority Registry) :
    Operation → Authority.Deed Registry (Option IssuedCertificate)
  | .signUp credentials client now => do return some (← authority.signUp credentials client now)
  | .signIn credentials client options now => do
    return some (← authority.signIn credentials client options now)
  | .refresh certificate now => do return some (← authority.refresh certificate now)
  | .signOut certificate => do
    authority.signOut certificate
    return none
  | .setRoles username roles => do
    assign (Registry.setRoles? username roles)
    return none
  | .setEnabled username enabled => do
    assign (Registry.setEnabled? username enabled)
    return none

end Operation

namespace Registry

/-- Accounts stand under their own names, with ids that are numbered as they came. -/
structure AccountsNumbered (r : Registry) : Prop where
  named : ∀ name account, r.accounts.get? name = some account → account.username = name
  numbered : ∀ name account, r.accounts.get? name = some account →
    ∃ number ≤ r.registered, account.id = "user-" ++ number.repr
  distinct : ∀ name name' account account', r.accounts.get? name = some account →
    r.accounts.get? name' = some account' → account.id = account'.id → name = name'

theorem accountsNumbered_empty : empty.AccountsNumbered := by
  constructor
  · intro name account found
    contradiction
  · intro name account found
    contradiction
  · intro name name' account account' found
    contradiction

theorem id_inj {m n : Nat} (same : "user-" ++ m.repr = "user-" ++ n.repr) : m = n := by
  have tails := congrArg String.toList same
  rw [String.toList_append, String.toList_append, List.append_cancel_left_eq,
    String.toList_inj] at tails
  exact Nat.repr_inj.mp tails

/-- The account that is made for whoever signs up next. -/
def nextAccount (r : Registry) (credentials : Credentials) : Account :=
  ⟨"user-" ++ (r.registered + 1).repr, credentials.username, credentials.password, [], true⟩

/-- The registry with that account. -/
def enrolling (r : Registry) (credentials : Credentials) : Registry :=
  { r with
    accounts := r.accounts.insert credentials.username (r.nextAccount credentials)
    registered := r.registered + 1 }

theorem get?_enrolling (r : Registry) (credentials : Credentials) (name : String) :
    (r.enrolling credentials).accounts.get? name =
      if credentials.username = name then some (r.nextAccount credentials)
      else r.accounts.get? name :=
  Table.get?_insert _ _ _ _

theorem createAccount_eq_ok_iff {r : Registry} {credentials : Credentials}
    {created : Change Registry Account} :
    r.createAccount credentials = .ok created ↔
      r.accounts.contains credentials.username = false ∧
        created = ⟨r.nextAccount credentials, r.enrolling credentials,
          [.accountCreated (r.nextAccount credentials).id]⟩ := by
  simp only [createAccount]
  cases r.accounts.contains credentials.username with
  | true => simp
  | false =>
    rw [if_neg Bool.false_ne_true, Except.ok.injEq, eq_comm, eq_self, true_and]
    exact Iff.rfl

theorem createAccount_eq_error_iff {r : Registry} {credentials : Credentials} {e : StoreError} :
    r.createAccount credentials = .error e ↔
      r.accounts.contains credentials.username = true ∧ e = .conflict := by
  unfold createAccount
  cases known : r.accounts.contains credentials.username with
  | true => simp [eq_comm]
  | false => simp

theorem accountsNumbered_createAccount {r : Registry} (held : r.AccountsNumbered)
    {credentials : Credentials} {c : Change Registry Account}
    (made : createAccount credentials r = .ok c) :
    c.state.AccountsNumbered ∧ c.state.accounts.get? credentials.username = some c.value := by
  obtain ⟨-, rfl⟩ := createAccount_eq_ok_iff.mp made
  have fresh (name : String) (account : Account) (found : r.accounts.get? name = some account) :
      account.id ≠ "user-" ++ (r.registered + 1).repr := by
    intro same
    obtain ⟨number, bound, own⟩ := held.numbered name account found
    have equal := id_inj (own.symm.trans same)
    omega
  refine ⟨⟨?_, ?_, ?_⟩, Table.get?_insert_self _ _ _⟩
  · intro name account found
    simp only [get?_enrolling] at found
    split at found
    · cases found
      assumption
    · exact held.named name account found
  · intro name account found
    simp only [get?_enrolling] at found
    split at found
    · cases found
      exact ⟨r.registered + 1, Nat.le_refl _, rfl⟩
    · obtain ⟨number, bound, own⟩ := held.numbered name account found
      exact ⟨number, Nat.le_succ_of_le bound, own⟩
  · intro name name' account account' found found' same
    simp only [get?_enrolling] at found found'
    split at found
    · cases found
      split at found'
      · rename_i here here'
        exact here.symm.trans here'
      · exact absurd same.symm (fresh name' account' found')
    · split at found'
      · cases found'
        exact absurd same (fresh name account found)
      · exact held.distinct name name' account account' found found' same

theorem accountsNumbered_modify {r : Registry} (held : r.AccountsNumbered) (username : String)
    {f : Account → Account} (id : ∀ a, (f a).id = a.id) (name : ∀ a, (f a).username = a.username) :
    { r with accounts := r.accounts.modify username f }.AccountsNumbered := by
  -- every account after the change is one from before it, up to what is neither id nor name
  have traced (key : String) (account : Account)
      (found : (r.accounts.modify username f).get? key = some account) :
      ∃ old, r.accounts.get? key = some old ∧ account.id = old.id ∧
        account.username = old.username := by
    rw [Table.get?_modify] at found
    split at found
    · rename_i here
      obtain ⟨old, stored, rfl⟩ := Option.map_eq_some_iff.mp found
      exact ⟨old, here ▸ stored, id old, name old⟩
    · exact ⟨account, found, rfl, rfl⟩
  constructor
  · intro key account found
    obtain ⟨old, stored, -, same⟩ := traced key account found
    exact same.trans (held.named key old stored)
  · intro key account found
    obtain ⟨old, stored, same, -⟩ := traced key account found
    rw [same]
    exact held.numbered key old stored
  · intro key key' account account' found found' equal
    obtain ⟨old, stored, same, -⟩ := traced key account found
    obtain ⟨old', stored', same', -⟩ := traced key' account' found'
    rw [same, same'] at equal
    exact held.distinct key key' old old' stored stored' equal

/-- Replacing roles under a name that nobody has changes nothing, so both cases are one. -/
theorem setRoles?_getD (username : String) (roles : List RoleId) (r : Registry) :
    (setRoles? username roles r).getD r =
      { r with accounts := r.accounts.modify username fun a => { a with roles := roles } } := by
  unfold setRoles?
  cases known : r.accounts.contains username with
  | true => rfl
  | false => simp [Table.modify_eq_self known]

theorem setEnabled?_getD (username : String) (enabled : Bool) (r : Registry) :
    (setEnabled? username enabled r).getD r =
      { r with accounts := r.accounts.modify username fun a => { a with enabled := enabled } } := by
  unfold setEnabled?
  cases known : r.accounts.contains username with
  | true => rfl
  | false => simp [Table.modify_eq_self known]

theorem accounts_remove (id : SessionId) (r : Registry) :
    (remove id r).accounts = r.accounts ∧ (remove id r).registered = r.registered := by
  unfold remove
  split
  · exact ⟨rfl, rfl⟩
  · exact ⟨rfl, rfl⟩

/-- Sessions come and go without a trace in the accounts. -/
theorem respectedBySessions_of_accounts {P : Registry → Prop}
    (same : ∀ r r' : Registry, r'.accounts = r.accounts → r'.registered = r.registered →
      P r → P r') : RespectedBySessions P := by
  constructor
  · rintro session r _ held ⟨⟩
    exact same r _ rfl rfl held
  · rintro session r _ held ⟨⟩
    exact same r _ rfl rfl held
  · rintro session r _ held ⟨⟩
    obtain ⟨accounts, registered⟩ := accounts_remove session.id r
    exact same r _ accounts registered held

theorem accountsNumbered_respected : RespectedBySessions AccountsNumbered := by
  refine respectedBySessions_of_accounts ?_
  intro r r' accounts registered held
  refine ⟨?_, ?_, ?_⟩
  · rw [accounts]
    exact held.named
  · rw [accounts, registered]
    exact held.numbered
  · rw [accounts]
    exact held.distinct

theorem stored_of_accountById {r : Registry} {id : String} {account : Account}
    (found : r.accountById id = some account) :
    ∃ name, r.accounts.get? name = some account ∧ account.id = id := by
  unfold accountById at found
  have matched := List.find?_some found
  obtain ⟨name, stored⟩ := Table.exists_get?_of_mem_values (List.mem_of_find?_eq_some found)
  exact ⟨name, stored, eq_of_beq matched⟩

theorem get?_of_accountByCredentials {r : Registry} {credentials : Credentials} {account : Account}
    (found : r.accountByCredentials credentials = some account) :
    r.accounts.get? credentials.username = some account :=
  (Option.filter_eq_some_iff.mp found).1

end Registry

section
open CertifiedAccess.Action
variable [SignatureScheme]

omit [SignatureScheme] in
theorem Operation.keepsStore_assign {P : Registry → Prop} {update : Registry → Option Registry}
    (kept : ∀ r r', P r → update r = some r' → P r') :
    Authority.KeepsStore (Operation.assign update) P := by
  intro world held
  change P ((update world.store).getD world.store)
  cases changed : update world.store with
  | none => exact held
  | some r' => exact kept world.store r' held changed

theorem Operation.keeps_accountsNumbered (authority : Authority Registry) (operation : Operation) :
    Authority.KeepsStore (operation.deed authority) Registry.AccountsNumbered := by
  have respected := Registry.accountsNumbered_respected
  cases operation with
  | signUp credentials client now =>
    refine keeps_bind (authority.keepsStore_signUp respected credentials client now ?_) fun _ =>
      keeps_pure _
    intro r c held made
    exact (Registry.accountsNumbered_createAccount held made).1
  | signIn credentials client options now =>
    exact keeps_bind (authority.keepsStore_signIn respected credentials client options now)
      fun _ => keeps_pure _
  | refresh certificate now =>
    exact keeps_bind (authority.keepsStore_refresh respected certificate now) fun _ => keeps_pure _
  | signOut certificate =>
    exact keeps_bind (authority.keepsStore_signOut respected certificate) fun _ => keeps_pure _
  | setRoles username roles =>
    refine keeps_bind (Operation.keepsStore_assign ?_) fun _ => keeps_pure _
    intro r r' held changed
    unfold Registry.setRoles? at changed
    split at changed
    · cases changed
      exact Registry.accountsNumbered_modify held username (fun _ => rfl) fun _ => rfl
    · contradiction
  | setEnabled username enabled =>
    refine keeps_bind (Operation.keepsStore_assign ?_) fun _ => keeps_pure _
    intro r r' held changed
    unfold Registry.setEnabled? at changed
    split at changed
    · cases changed
      exact Registry.accountsNumbered_modify held username (fun _ => rfl) fun _ => rfl
    · contradiction

end
end CertifiedAccess
