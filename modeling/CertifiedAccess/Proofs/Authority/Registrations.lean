import CertifiedAccess.Proofs.Authority.Histories
import Mathlib.Data.List.Nodup

/-!
Accounts as the history tells them. Who was registered, with which credentials and under which number, is
settled by the first sign-up with each name, whether or not it got a session; later operations only replace
roles and the switch.
-/
namespace CertifiedAccess

namespace Operation

/-- Whom an operation signs up, if the name is free. -/
def newcomer? : Operation → Option Credentials
  | .signUp credentials _ _ => some credentials
  | .signIn _ _ _ _ | .refresh _ _ | .signOut _ | .setRoles _ _ | .setEnabled _ _ => none

/-- The roles that an operation gives to the user with a name. -/
def rolesFor? (username : String) : Operation → Option (List RoleId)
  | .setRoles name roles => if name = username then some roles else none
  | .signUp _ _ _ | .signIn _ _ _ _ | .refresh _ _ | .signOut _ | .setEnabled _ _ => none

/-- How an operation sets the switch of the user with a name. -/
def switchFor? (username : String) : Operation → Option Bool
  | .setEnabled name enabled => if name = username then some enabled else none
  | .signUp _ _ _ | .signIn _ _ _ _ | .refresh _ _ | .signOut _ | .setRoles _ _ => none

/-- An account after an operation. -/
def revise (operation : Operation) (a : Account) : Account :=
  { a with
    roles := (operation.rolesFor? a.username).getD a.roles
    enabled := (operation.switchFor? a.username).getD a.enabled }

theorem revise_of_assigns {operation : Operation} {username : String} {f : Account → Account}
    (assigns : Assigns operation username f) (a : Account) :
    operation.revise a = if a.username = username then f a else a := by
  cases assigns with
  | setRoles =>
    by_cases same : a.username = username
    · simp only [revise, rolesFor?, switchFor?, same, if_true, Option.getD_some, Option.getD_none]
    · simp only [revise, rolesFor?, switchFor?, same, Ne.symm same, if_false, Option.getD_none]
  | setEnabled =>
    by_cases same : a.username = username
    · simp only [revise, rolesFor?, switchFor?, same, if_true, Option.getD_some, Option.getD_none]
    · simp only [revise, rolesFor?, switchFor?, same, Ne.symm same, if_false, Option.getD_none]

theorem Assigns.username_eq {operation : Operation} {username : String} {f : Account → Account}
    (assigns : Assigns operation username f) (a : Account) : (f a).username = a.username := by
  cases assigns with
  | setRoles => rfl
  | setEnabled => rfl

end Operation

/-- The credentials of all who were registered, in order: those of each sign-up whose name was free. -/
def registrations : List Entry → List Credentials
  | [] => []
  | entry :: log =>
    match entry.operation.newcomer? with
    | some credentials =>
      if credentials.username ∈ (registrations log).map (·.username) then registrations log
      else registrations log ++ [credentials]
    | none => registrations log

/-- What was last assigned to a user; what was assigned under the name before the registration is lost. -/
def lastAssigned {β : Type} (assigned? : Operation → Option β) (username : String) (initial : β) :
    List Entry → β
  | [] => initial
  | entry :: log =>
    if username ∈ (registrations log).map (·.username) then
      (assigned? entry.operation).getD (lastAssigned assigned? username initial log)
    else initial

/-- The account with this index in the order of registrations. -/
def accountOf (log : List Entry) (index : Nat) (credentials : Credentials) : Account where
  id := "user-" ++ (index + 1).repr
  username := credentials.username
  password := credentials.password
  roles := lastAssigned (Operation.rolesFor? credentials.username) credentials.username [] log
  enabled := lastAssigned (Operation.switchFor? credentials.username) credentials.username true log

def accountsOf (log : List Entry) : List Account := (registrations log).mapIdx (accountOf log)

namespace Account

def credentials (a : Account) : Credentials := ⟨a.username, a.password⟩

/-- What cannot be changed about an account. -/
def identity (a : Account) : String × Credentials := (a.id, a.credentials)

end Account

section
variable {log : List Entry} {entry : Entry}

theorem registrations_cons_of_none (nobody : entry.operation.newcomer? = none) :
    registrations (entry :: log) = registrations log := by
  simp only [registrations, nobody]

theorem registrations_cons_of_mem {credentials : Credentials}
    (someone : entry.operation.newcomer? = some credentials)
    (taken : credentials.username ∈ (registrations log).map (·.username)) :
    registrations (entry :: log) = registrations log := by
  simp only [registrations, someone, if_pos taken]

theorem registrations_cons_of_not_mem {credentials : Credentials}
    (someone : entry.operation.newcomer? = some credentials)
    (free : credentials.username ∉ (registrations log).map (·.username)) :
    registrations (entry :: log) = registrations log ++ [credentials] := by
  simp only [registrations, someone, if_neg free]

theorem registrations_cons_cases (entry : Entry) (log : List Entry) :
    registrations (entry :: log) = registrations log ∨
      ∃ credentials, credentials.username ∉ (registrations log).map (·.username) ∧
        registrations (entry :: log) = registrations log ++ [credentials] := by
  cases someone : entry.operation.newcomer? with
  | none => exact .inl (registrations_cons_of_none someone)
  | some credentials =>
    by_cases taken : credentials.username ∈ (registrations log).map (·.username)
    · exact .inl (registrations_cons_of_mem someone taken)
    · exact .inr ⟨credentials, taken, registrations_cons_of_not_mem someone taken⟩

theorem nodup_registrations (log : List Entry) : ((registrations log).map (·.username)).Nodup := by
  induction log with
  | nil => exact List.nodup_nil
  | cons entry log ih =>
    obtain same | ⟨credentials, free, more⟩ := registrations_cons_cases entry log
    · rw [same]
      exact ih
    · rw [more, List.map_append, List.map_singleton, ← List.concat_eq_append]
      exact ih.concat free

/-- Nobody's registration is undone or moved. -/
theorem registrations_prefix (later log : List Entry) :
    registrations log <+: registrations (later ++ log) := by
  induction later with
  | nil => exact List.prefix_refl _
  | cons entry later ih =>
    obtain same | ⟨credentials, -, more⟩ := registrations_cons_cases entry (later ++ log)
    · rw [List.cons_append, same]
      exact ih
    · rw [List.cons_append, more]
      exact ih.trans (List.prefix_append _ _)

theorem lastAssigned_cons_of_mem {β : Type} {assigned? : Operation → Option β} {username : String}
    {initial : β} (known : username ∈ (registrations log).map (·.username)) :
    lastAssigned assigned? username initial (entry :: log) =
      (assigned? entry.operation).getD (lastAssigned assigned? username initial log) := by
  simp only [lastAssigned, if_pos known]

theorem lastAssigned_cons_of_not_mem {β : Type} {assigned? : Operation → Option β}
    {username : String} {initial : β} (unknown : username ∉ (registrations log).map (·.username)) :
    lastAssigned assigned? username initial (entry :: log) = initial := by
  simp only [lastAssigned, if_neg unknown]

theorem identities_accountsOf (log : List Entry) :
    (accountsOf log).map Account.identity =
      (registrations log).mapIdx fun index credentials => ("user-" ++ (index + 1).repr, credentials) := by
  apply List.ext_getElem
  · simp [accountsOf]
  · intro index _ _
    simp [accountsOf, accountOf, Account.identity, Account.credentials]

theorem credentials_accountsOf (log : List Entry) :
    (accountsOf log).map Account.credentials = registrations log := by
  apply List.ext_getElem
  · simp [accountsOf]
  · intro index _ _
    simp [accountsOf, accountOf, Account.credentials]

theorem usernames_accountsOf (log : List Entry) :
    (accountsOf log).map (·.username) = (registrations log).map (·.username) := by
  rw [← credentials_accountsOf log, List.map_map]
  rfl

theorem ids_accountsOf (log : List Entry) :
    (accountsOf log).map (·.id) =
      (List.range (registrations log).length).map fun index => "user-" ++ (index + 1).repr := by
  apply List.ext_getElem
  · simp [accountsOf]
  · intro index _ _
    simp [accountsOf, accountOf]

theorem nodup_ids (log : List Entry) : ((accountsOf log).map (·.id)).Nodup := by
  rw [ids_accountsOf]
  refine List.nodup_range.map ?_
  intro index index' same
  exact Nat.succ_injective (Registry.id_inj same)

theorem nodup_usernames (log : List Entry) : ((accountsOf log).map (·.username)).Nodup := by
  rw [usernames_accountsOf]
  exact nodup_registrations log

theorem identities_prefix (later log : List Entry) :
    (accountsOf log).map Account.identity <+: (accountsOf (later ++ log)).map Account.identity := by
  obtain ⟨more, all⟩ := registrations_prefix later log
  rw [identities_accountsOf, identities_accountsOf, ← all, List.mapIdx_append]
  exact List.prefix_append _ _

/-- Who is registered keeps all but what the operation assigns. -/
theorem mapIdx_accountOf_cons (entry : Entry) (log : List Entry) :
    (registrations log).mapIdx (accountOf (entry :: log)) =
      (accountsOf log).map entry.operation.revise := by
  apply List.ext_getElem
  · simp [accountsOf]
  · intro index bound _
    have inside : index < (registrations log).length := by simpa using bound
    have known : (registrations log)[index].username ∈ (registrations log).map (·.username) :=
      List.mem_map_of_mem (List.getElem_mem inside)
    simp only [List.getElem_mapIdx, accountsOf, List.getElem_map, accountOf, Operation.revise,
      lastAssigned_cons_of_mem known]

theorem accountsOf_cons_of_same (same : registrations (entry :: log) = registrations log) :
    accountsOf (entry :: log) = (accountsOf log).map entry.operation.revise := by
  rw [accountsOf, same, mapIdx_accountOf_cons]

/-- Who is registered last has no roles yet, and is enabled. -/
theorem accountsOf_cons_of_more {credentials : Credentials}
    (free : credentials.username ∉ (registrations log).map (·.username))
    (more : registrations (entry :: log) = registrations log ++ [credentials]) :
    accountsOf (entry :: log) = (accountsOf log).map entry.operation.revise ++
      [⟨"user-" ++ ((registrations log).length + 1).repr, credentials.username, credentials.password,
        [], true⟩] := by
  rw [accountsOf, more, List.mapIdx_concat, mapIdx_accountOf_cons]
  simp only [accountOf, lastAssigned_cons_of_not_mem free]

end
end CertifiedAccess
