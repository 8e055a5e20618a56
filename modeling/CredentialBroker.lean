import CredentialBroker.AddressBook
import CredentialBroker.Text.Blank
import CredentialBroker.Text.Cut
import CredentialBroker.Text.Digits
import CredentialBroker.Text.LowerCase
import CredentialBroker.Text.UpperCase
import CredentialBroker.Text.Quoted
import CredentialBroker.Time.Date
import CredentialBroker.Time.WallTime
import CredentialBroker.Time.Iso
import CredentialBroker.Time.Utc
import CredentialBroker.Container
import CredentialBroker.Directory
import CredentialBroker.SessionName
import CredentialBroker.Credentials.Basic
import CredentialBroker.Credentials.Document
import CredentialBroker.Credentials.Response
import CredentialBroker.Log.Event
import CredentialBroker.Region
import CredentialBroker.Settings
import CredentialBroker.TokenService.Script
import CredentialBroker.Broker
import CredentialBroker.Deployment.Basic
import CredentialBroker.Deployment.Build
import CredentialBroker.Deployment.Issue
import CredentialBroker.Deployment.Run
import CredentialBroker.Proofs.Exchange
import CredentialBroker.Proofs.Reuse
import CredentialBroker.Credentials.Printed
import CredentialBroker.Proofs.Outcome
import CredentialBroker.Proofs.Kept
import CredentialBroker.Proofs.Provenance
import CredentialBroker.Proofs.Freshness
import CredentialBroker.Proofs.Isolation
import CredentialBroker.Proofs.Demand
import CredentialBroker.Proofs.Transparency
import CredentialBroker.Proofs.Serial
import CredentialBroker.Proofs.View
import CredentialBroker.Proofs.Separation
import CredentialBroker.Proofs.OneRequest
import CredentialBroker.Proofs.Unnoticed
import CredentialBroker.Proofs.Redaction
import CredentialBroker.Proofs.Secrecy
import CredentialBroker.Proofs.Threshold
import CredentialBroker.Proofs.RequestForm
import CredentialBroker.Proofs.StartChecks
import CredentialBroker.Proofs.Listing
import CredentialBroker.Proofs.RoleGrammar
import CredentialBroker.Proofs.Precedence
import CredentialBroker.Proofs.Assumption
import CredentialBroker.Proofs.Expiry
import CredentialBroker.Proofs.EntryValidity
import CredentialBroker.Proofs.UtcText
import CredentialBroker.Proofs.ArnFields
import CredentialBroker.Proofs.AuditTrail
import CredentialBroker.Proofs.Naming
import CredentialBroker.Proofs.SettingsReading
import CredentialBroker.Proofs.OuterBlanks
import CredentialBroker.Proofs.LastPut
import CredentialBroker.Proofs.FlagWords
