import CertifiedAccess.Wire.Error

/-!
What can be wrong with settings.
-/
namespace CertifiedAccess

inductive SettingProblem where
  | notPositive (setting : String)
  | tooLarge (setting : String) (limit : Nat)
  deriving DecidableEq

def SettingProblem.message : SettingProblem → String
  | .notPositive setting => setting ++ " must be positive"
  | .tooLarge setting limit => setting ++ " must not exceed " ++ limit.repr

inductive SettingsError where
  /-- There is no such file, or it is not UTF-8. -/
  | unreadable
  | unparsable
  | invalid (problem : SettingProblem)
  | invalidIssuerKey (index : Nat) (error : WireError)
  deriving DecidableEq

def SettingsError.message : SettingsError → String
  | .unreadable => "failed to read config"
  | .unparsable => "failed to parse config"
  | .invalid problem => "invalid config: " ++ problem.message
  | .invalidIssuerKey index error =>
    "trusted_issuers[" ++ index.repr ++ "] is not a valid key: " ++ error.message

/-- A number of seconds that is positive and within a limit. -/
def checkWindow (setting : String) (limit seconds : Nat) : Except SettingsError Unit :=
  if seconds = 0 then .error (.invalid (.notPositive setting))
  else if limit < seconds then .error (.invalid (.tooLarge setting limit))
  else .ok ()

end CertifiedAccess
