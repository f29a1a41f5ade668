import Warden.Main
import Warden.Proofs.Policy.Whitelist
import Warden.Record.Writer
import Warden.Shutdown
import Warden.Proofs.Policy.Groups
import Warden.Proofs.Policy.Passwords
import Warden.Proofs.Service.Refresh
import Warden.Proofs.Config.Source
import Warden.Proofs.Host.Dispatch
import Warden.Proofs.Host.History
import Warden.Proofs.Host.Forgetting
import Warden.Proofs.Text.Pieces
import Warden.Proofs.Record.Lines
import Warden.Proofs.Roster
import Warden.Proofs.Policy.Access
import Warden.Proofs.Policy.Login
import Warden.Proofs.Policy.Attribution
import Warden.Proofs.Host.Holding
import Warden.Proofs.Text.ByteOrder
import Warden.Proofs.Text.Percent
import Warden.Proofs.Policy.Membership
import Warden.Proofs.Dataset.Editing
import Warden.Proofs.Record.RoundTrip
import Warden.Proofs.Refresh.Ledger
import Warden.Proofs.Record.Keyless
import Warden.Proofs.Admin.Authentication
import Warden.Proofs.Admin.Commands
import Warden.Proofs.Admin.Keys
import Warden.Proofs.Host.Starting
import Warden.Proofs.Host.Ownership
import Warden.Proofs.Host.Metrics
import Warden.Proofs.Client.Transparency
import Warden.Proofs.Watch.Convergence
import Warden.Proofs.Refresh.Turns
import Warden.Proofs.Policy.Overlap
import Warden.Proofs.Policy.Grants
import Warden.Proofs.Shutdown
import Warden.Proofs.Policy.Provisioning
import Warden.Proofs.Host.Rounds
import Warden.Proofs.Record.Values
import Warden.Proofs.Dataset.WellFormed
import Warden.Proofs.Record.Spacing
