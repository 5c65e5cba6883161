import CertifiedAccess.Authority.Faulty
import CertifiedAccess.Authority.Lifecycle
import CertifiedAccess.Authority.Registry
import CertifiedAccess.Key.Ed25519
import CertifiedAccess.Service.Gate
import CertifiedAccess.Service.Issuer
import CertifiedAccess.Proofs.Octets
import CertifiedAccess.Proofs.Wire.Acceptance
import CertifiedAccess.Proofs.Wire.Primitive
import CertifiedAccess.Proofs.Milliseconds
import CertifiedAccess.Proofs.Outcomes
import CertifiedAccess.Proofs.Wire.Canonical
import CertifiedAccess.Proofs.Wire.Tagged
import CertifiedAccess.Proofs.Certificate.WireForm
import CertifiedAccess.Proofs.Wire.Opening
import CertifiedAccess.Proofs.Wire.Schema
import CertifiedAccess.Proofs.Wire.Sealing
import CertifiedAccess.Proofs.Certificate.ReadBack
import CertifiedAccess.Proofs.Roles
import CertifiedAccess.Proofs.Base64
import CertifiedAccess.Proofs.Certificate.Validity
import CertifiedAccess.Proofs.Text
import CertifiedAccess.Proofs.Http.CanonicalForm
import CertifiedAccess.Proofs.Http.Verification
import CertifiedAccess.Proofs.Http.TamperEvidence
import CertifiedAccess.Proofs.Http.HeaderEdits
import CertifiedAccess.Proofs.Http.Separation
import CertifiedAccess.Proofs.Http.Resigning
import CertifiedAccess.Proofs.Service.Admission
import CertifiedAccess.Proofs.Authority.CertificateIndex
import CertifiedAccess.Proofs.Authority.Actions
import CertifiedAccess.Proofs.Authority.Issuance
import CertifiedAccess.Proofs.Authority.Stores
import CertifiedAccess.Proofs.Authority.Operations
import CertifiedAccess.Proofs.Service.EndToEnd
import CertifiedAccess.Proofs.Authority.Effects
import CertifiedAccess.Proofs.Authority.Histories
import CertifiedAccess.Proofs.Authority.Registrations
import CertifiedAccess.Proofs.Authority.Accounts
import CertifiedAccess.Proofs.Authority.FailedSignUp
import CertifiedAccess.Proofs.Authority.IndexCoverage
import CertifiedAccess.Proofs.Authority.Configuration
import CertifiedAccess.Proofs.Authority.SingleActive
import CertifiedAccess.Proofs.Authority.SessionRecords
import CertifiedAccess.Proofs.Certificate.Granting
import CertifiedAccess.Proofs.Authority.Renewal
import CertifiedAccess.Proofs.Authority.Revocation
import CertifiedAccess.Proofs.Authority.Footprints
import CertifiedAccess.Proofs.Timeline
import CertifiedAccess.Proofs.Authority.Lifetimes
import CertifiedAccess.Proofs.Certificate.Disclosure
import CertifiedAccess.Proofs.RoleSets
import CertifiedAccess.Proofs.Wire.Failures
import CertifiedAccess.Proofs.Wire.Agreement
import CertifiedAccess.Proofs.Wire.Framing
import CertifiedAccess.Proofs.Service.Issuing
import CertifiedAccess.Proofs.Wire.Requests
import CertifiedAccess.Proofs.Wire.Cursor
import CertifiedAccess.Proofs.Service.TrustedIssuers
import CertifiedAccess.Proofs.Service.SignedMessages
