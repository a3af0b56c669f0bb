import GroupKeeper.Json.Print
import GroupKeeper.Reconcile.Schedule
import GroupKeeper.Snapshot
import GroupKeeper.Validation
import GroupKeeper.Directory
import GroupKeeper.Rest.Address.Reader
import GroupKeeper.Rest.Service
import GroupKeeper.Yaml.Print
import GroupKeeper.Main
import GroupKeeper.Proofs.Email
import GroupKeeper.Proofs.Program
import GroupKeeper.Proofs.Reconcile.Calls
import GroupKeeper.Proofs.Schedule
import GroupKeeper.Proofs.Dictionary
import GroupKeeper.Proofs.Reconcile.Timed
import GroupKeeper.Proofs.Directory.Invariant
import GroupKeeper.Proofs.Failure
import GroupKeeper.Proofs.Settings
import GroupKeeper.Proofs.Validation
import GroupKeeper.Proofs.Directory.Changes
import GroupKeeper.Proofs.Reconcile.Members
import GroupKeeper.Proofs.Reconcile.Group
import GroupKeeper.Proofs.Reconcile.Convergence
import GroupKeeper.Proofs.Reconcile.Idempotence
import GroupKeeper.Proofs.Rest.Service
import GroupKeeper.Proofs.Reconcile.DryRun
import GroupKeeper.Proofs.Reconcile.Correspondence
import GroupKeeper.Proofs.Reconcile.Privileges
import GroupKeeper.Proofs.Schedule.Events
import GroupKeeper.Proofs.Reconcile.Announcements
import GroupKeeper.Proofs.Membership
import GroupKeeper.Proofs.Reconcile.FailedChanges
import GroupKeeper.Proofs.Reconcile.Cancellation
import GroupKeeper.Proofs.Reconcile.Reports
import GroupKeeper.Proofs.Reconcile.Isolation
import GroupKeeper.Proofs.Reconcile.Concurrency
import GroupKeeper.Proofs.Replay
import GroupKeeper.Proofs.Reconcile.Deletions
import GroupKeeper.Proofs.Validation.Exact
import GroupKeeper.Proofs.Snapshot
import GroupKeeper.Proofs.Settings.Fields
import GroupKeeper.Proofs.Rest.Patch
import GroupKeeper.Proofs.Directory.Log
import GroupKeeper.Proofs.Reconcile.Uniqueness
import GroupKeeper.Proofs.Reconcile.Duplicates
import GroupKeeper.Proofs.Reconcile.Respelling
import GroupKeeper.Proofs.Directory.Identity
import GroupKeeper.Proofs.Reconcile.Removals
import GroupKeeper.Proofs.Reconcile.Operations
import GroupKeeper.Proofs.Reconcile.Additions
import GroupKeeper.Proofs.Settings.Merge
import GroupKeeper.Proofs.Rest.Resources
import GroupKeeper.Proofs.Rest.Pages
import GroupKeeper.Proofs.Files.Rosters
import GroupKeeper.Proofs.Email.Representatives
import GroupKeeper.Proofs.Failure.Flattening
import GroupKeeper.Proofs.RoundTrip
