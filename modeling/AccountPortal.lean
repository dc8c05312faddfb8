import AccountPortal.Choice
import AccountPortal.Credential.Cookie
import AccountPortal.Credential.DeviceId
import AccountPortal.Credential.Email
import AccountPortal.Credential.PasskeyPayload
import AccountPortal.Credential.Password
import AccountPortal.Credential.Token
import AccountPortal.Digest.Bytes
import AccountPortal.Digest.Scrypt
import AccountPortal.Digest.Sha256
import AccountPortal.Fault
import AccountPortal.Form.Field
import AccountPortal.Form.Issue
import AccountPortal.Log
import AccountPortal.Number.Binary64
import AccountPortal.Number.Figure
import AccountPortal.Number.Numeral
import AccountPortal.Number.Word
import AccountPortal.Portal.Call
import AccountPortal.Portal.DatabaseUrl
import AccountPortal.Portal.Engine
import AccountPortal.Portal.Prepared
import AccountPortal.Portal.Run
import AccountPortal.Record.Basic
import AccountPortal.Record.Reading
import AccountPortal.Record.Row
import AccountPortal.Schema.Catalog
import AccountPortal.Schema.EngineTable
import AccountPortal.Schema.Layout
import AccountPortal.Schema.Migration
import AccountPortal.Settings
import AccountPortal.Store.Accounts
import AccountPortal.Store.EmailTokens
import AccountPortal.Store.Enrollments
import AccountPortal.Store.IdentityLinks
import AccountPortal.Store.OAuthStates
import AccountPortal.Store.PasskeyChallenges
import AccountPortal.Store.PasskeyCredentials
import AccountPortal.Store.Plan
import AccountPortal.Store.Sessions
import AccountPortal.Store.ValidationPatch
import AccountPortal.Store.Wallets
import AccountPortal.TableName
import AccountPortal.Text.Base64Url
import AccountPortal.Text.Blank
import AccountPortal.Text.CaseContext
import AccountPortal.Text.CodeRange
import AccountPortal.Text.Digit
import AccountPortal.Text.Lower
import AccountPortal.Text.LowerTable
import AccountPortal.Text.Percent
import AccountPortal.Text.Quoted
import AccountPortal.Text.Segments
import AccountPortal.Text.UnprintableTable
import AccountPortal.Text.Utf8
import AccountPortal.Text.WordTable
import AccountPortal.Transports
import AccountPortal.Value
import AccountPortal.Proofs.Effect
import AccountPortal.Proofs.History
import AccountPortal.Proofs.Rows
import AccountPortal.Proofs.Since
import AccountPortal.Proofs.Enrollment.Change
import AccountPortal.Proofs.Enrollment.Activation
import AccountPortal.Proofs.Enrollment.Chronicle
import AccountPortal.Proofs.Ledger.Voucher
import AccountPortal.Proofs.Ledger.Stores
import AccountPortal.Proofs.Ledger.SingleUse
import AccountPortal.Proofs.Repetition.Stores
import AccountPortal.Proofs.Repetition.Calls
import AccountPortal.Proofs.Repetition.Races
import AccountPortal.Proofs.Account.Change
import AccountPortal.Proofs.Text.LowerCase
import AccountPortal.Proofs.Account.OneAddress
import AccountPortal.Proofs.Account.Verification
import AccountPortal.Proofs.Holding
import AccountPortal.Proofs.Session.Change
import AccountPortal.Proofs.Session.Validity
import AccountPortal.Proofs.Purge.Sheds
import AccountPortal.Proofs.Purge.Calls
import AccountPortal.Proofs.Purge.Invisible
import AccountPortal.Proofs.Record.RoundTrip
import AccountPortal.Proofs.Query.Keys
import AccountPortal.Proofs.Query.Statement
import AccountPortal.Proofs.Query.Work
import AccountPortal.Proofs.Query.Stores
import AccountPortal.Proofs.Failure.Atomic
import AccountPortal.Proofs.Query.Unique
import AccountPortal.Proofs.Passkey.Change
import AccountPortal.Proofs.Record.Shown
import AccountPortal.Proofs.Record.Readable
import AccountPortal.Proofs.Base64Url.Bits
import AccountPortal.Proofs.Base64Url.Scan
import AccountPortal.Proofs.Base64Url.Grammar
import AccountPortal.Proofs.Text.Percent
import AccountPortal.Proofs.Text.AsciiCase
import AccountPortal.Proofs.Base64Url.RoundTrip
import AccountPortal.Proofs.Fields
import AccountPortal.Proofs.Credential.Cookie
import AccountPortal.Proofs.Twin.Connections
import AccountPortal.Proofs.Twin.Portals
import AccountPortal.Proofs.Frame.Calls
import AccountPortal.Proofs.Frame.Runs
import AccountPortal.Proofs.Secret.Calls
import AccountPortal.Proofs.Secret.Runs
import AccountPortal.Proofs.Passkey.Chronicle
import AccountPortal.Proofs.Wallet.Chronicle
import AccountPortal.Proofs.IdentityLink.Chronicle
import AccountPortal.Proofs.FirstAndLast
import AccountPortal.Proofs.Ensures
import AccountPortal.Proofs.RowLaw
import AccountPortal.Proofs.Times
import AccountPortal.Proofs.Integers
import AccountPortal.Proofs.Lease
import AccountPortal.Proofs.Digest.Bytes
import AccountPortal.Proofs.Text.Comparison
import AccountPortal.Proofs.Credential.Password
import AccountPortal.Proofs.Account.BothTables
import AccountPortal.Proofs.Settings.Reading
import AccountPortal.Proofs.Settings.OneDatabase
import AccountPortal.Proofs.Schema.Scripts
import AccountPortal.Proofs.Schema.Steps
import AccountPortal.Proofs.Base64Url.Canonical
import AccountPortal.Proofs.Credential.Payload
import AccountPortal.Proofs.Credential.CredentialId
import AccountPortal.Proofs.Enrollment.Token
import AccountPortal.Proofs.Credential.WalletReference
import AccountPortal.Proofs.Listing
import AccountPortal.Proofs.Passkey.Transports
import AccountPortal.Proofs.Enrollment.Patch
import AccountPortal.Proofs.Purge.Removed
import AccountPortal.Proofs.WholeNumbers
import AccountPortal.Proofs.Settings.Safety
import AccountPortal.Proofs.Settings.DatabaseFile
import AccountPortal.Proofs.Credential.CookieHeader
import AccountPortal.Proofs.Digest.BigEndian
import AccountPortal.Proofs.Credential.SixDigitCode
import AccountPortal.Proofs.Credential.DeviceId
