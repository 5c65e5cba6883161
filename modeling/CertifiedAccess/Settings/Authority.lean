import CertifiedAccess.Settings.Error
import CertifiedAccess.Settings.Toml
import CertifiedAccess.Text.Utf8
import CertifiedAccess.Time.Span

/-!
Settings of a session authority: how long its certificates last, and how it keeps sessions.
-/
namespace CertifiedAccess

/-- Windows are in seconds. -/
structure AuthoritySettings where
  sessionValidity : Nat
  transientValidity : Nat
  /-- Whether a user's key can have one active session only. -/
  singleActiveSession : Bool
  /-- Whether sessions that are signed out are kept as invalid records. -/
  retainSignedOut : Bool
  deriving DecidableEq

namespace AuthoritySettings

/-- The longest window: ten years. -/
def maxValidity : Nat := 315360000

/-- Sixty days and a quarter of an hour, any number of sessions, and no record of what is over. -/
def standard : AuthoritySettings := ⟨5184000, 900, false, false⟩

/-- Refuses windows that are zero or longer than ten years, the persistent window first. -/
def check (s : AuthoritySettings) : Except SettingsError Unit := do
  checkWindow "session_validity_secs" maxValidity s.sessionValidity
  checkWindow "transient_validity_secs" maxValidity s.transientValidity

/-- The persistent window, cut to the longest. -/
def sessionWindow (s : AuthoritySettings) : Span :=
  .ofSeconds (min s.sessionValidity maxValidity)

/-- The transient window, cut to the longest. -/
def transientWindow (s : AuthoritySettings) : Span :=
  .ofSeconds (min s.transientValidity maxValidity)

/-- The settings with one of them changed as a line of a document says. -/
def update? (s : AuthoritySettings) : String × Toml.Value → Option AuthoritySettings
  | ("session_validity_secs", .integer n) => if 0 ≤ n then some { s with sessionValidity := n.toNat } else none
  | ("transient_validity_secs", .integer n) => if 0 ≤ n then some { s with transientValidity := n.toNat } else none
  | ("single_active_session", .boolean b) => some { s with singleActiveSession := b }
  | ("retain_signed_out_sessions", .boolean b) => some { s with retainSignedOut := b }
  | _ => none

/-- The settings in a document; what it does not mention is standard. -/
def ofText (text : String) : Except SettingsError AuthoritySettings := do
  match (Toml.document? text).bind fun entries => entries.foldlM update? standard with
  | none => throw .unparsable
  | some s =>
    s.check
    return s

/-- The settings in a file, given by what it holds, if it exists. -/
def ofFile (content : Option Bytes) : Except SettingsError AuthoritySettings :=
  match content.bind Text.ofUtf8? with
  | none => .error .unreadable
  | some text => ofText text

end AuthoritySettings
end CertifiedAccess
