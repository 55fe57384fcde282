import Roster.Http.Endpoints
import Roster.Main
import Roster.Proofs.AccountEffects
import Roster.Proofs.Actions
import Roster.Proofs.Addresses
import Roster.Proofs.Aggregates
import Roster.Proofs.Arrivals
import Roster.Proofs.Atomicity
import Roster.Proofs.Authority
import Roster.Proofs.Bookkeeping
import Roster.Proofs.Callers
import Roster.Proofs.CommandLines
import Roster.Proofs.Courses
import Roster.Proofs.Decisions
import Roster.Proofs.Deduplication
import Roster.Proofs.DisjointChanges
import Roster.Proofs.Drafts
import Roster.Proofs.Effects
import Roster.Proofs.EmptyPolicies
import Roster.Proofs.Endings
import Roster.Proofs.Enumerations
import Roster.Proofs.Escalation
import Roster.Proofs.Farewells
import Roster.Proofs.Files
import Roster.Proofs.FilterOrder
import Roster.Proofs.FilteredWrites
import Roster.Proofs.Filters
import Roster.Proofs.Folding
import Roster.Proofs.Footprints
import Roster.Proofs.Foundings
import Roster.Proofs.GrantEffects
import Roster.Proofs.Grantings
import Roster.Proofs.Hands
import Roster.Proofs.IdentityKeys
import Roster.Proofs.InPlace
import Roster.Proofs.Installations
import Roster.Proofs.InstantTexts
import Roster.Proofs.Integrity
import Roster.Proofs.Isolation
import Roster.Proofs.Joinings
import Roster.Proofs.JsonTexts
import Roster.Proofs.Listings
import Roster.Proofs.Logins
import Roster.Proofs.Manageability
import Roster.Proofs.Memberships
import Roster.Proofs.Operations
import Roster.Proofs.Outcomes
import Roster.Proofs.Outsiders
import Roster.Proofs.Ownership
import Roster.Proofs.PersonalWorkspaces
import Roster.Proofs.Policies
import Roster.Proofs.Reach
import Roster.Proofs.ReadBack
import Roster.Proofs.Reading
import Roster.Proofs.RecordShapes
import Roster.Proofs.Regroupings
import Roster.Proofs.Rehearsals
import Roster.Proofs.Rejections
import Roster.Proofs.Removals
import Roster.Proofs.Responses
import Roster.Proofs.Restarts
import Roster.Proofs.Revocations
import Roster.Proofs.Rows
import Roster.Proofs.Searches
import Roster.Proofs.Sequels
import Roster.Proofs.Serial
import Roster.Proofs.SessionScopes
import Roster.Proofs.Settlements
import Roster.Proofs.SingleRemovals
import Roster.Proofs.Snapshots
import Roster.Proofs.Stamps
import Roster.Proofs.Strangers
import Roster.Proofs.Sweeps
import Roster.Proofs.Texts
import Roster.Proofs.Transactions
import Roster.Proofs.Transparency
import Roster.Proofs.Uninstallations
import Roster.Proofs.UniqueKeys
import Roster.Proofs.Usecases
import Roster.Proofs.Visibility
import Roster.Proofs.Withdrawal
import Roster.Proofs.WorkspaceEffects
import Roster.Proofs.Writes
import Roster.Store.Sessions
