import EventRewards.Main
import EventRewards.Proofs.Instants
import EventRewards.Proofs.Hub.Lookups
import EventRewards.Proofs.Hub.Effects
import EventRewards.Proofs.Hub.Runs
import EventRewards.Proofs.Hub.Turns
import EventRewards.Proofs.Hub.RequestLife
import EventRewards.Proofs.Hub.OpenRequests
import EventRewards.Proofs.Hub.Eligibility
import EventRewards.Proofs.Hub.EventLife
import EventRewards.Proofs.Hub.StoredVerdicts
import EventRewards.Proofs.Hub.LastingVerdicts
import EventRewards.Proofs.Hub.OtherUsers
import EventRewards.Proofs.Condition.Acceptance
import EventRewards.Proofs.Hub.LoggedGrounds
import EventRewards.Proofs.Hub.Atomicity
import EventRewards.Proofs.Condition.Checks
import EventRewards.Proofs.Hub.Validation
import EventRewards.Proofs.Http.Refinement
import EventRewards.Proofs.Json.Values
import EventRewards.Proofs.Condition.Documents
import EventRewards.Proofs.Json.Forms
import EventRewards.Proofs.Condition.Grammar
import EventRewards.Proofs.Hub.Catalog
import EventRewards.Proofs.Hub.Origins
import EventRewards.Proofs.Hub.Requesting
import EventRewards.Proofs.Hub.Deciding
import EventRewards.Proofs.Hub.Revisions
import EventRewards.Proofs.Condition.Places
import EventRewards.Proofs.Condition.Reports
import EventRewards.Proofs.Condition.Comparing
import EventRewards.Proofs.Condition.Operands
import EventRewards.Proofs.Condition.Warnings
import EventRewards.Proofs.Text.Splitting
import EventRewards.Proofs.Condition.Rules
import EventRewards.Proofs.Condition.Traces
import EventRewards.Proofs.Condition.Narrowing
import EventRewards.Proofs.Condition.Canonical
import EventRewards.Proofs.Condition.Degradation
import EventRewards.Proofs.Scenario.Judgements
import EventRewards.Proofs.Hub.Sorting
import EventRewards.Proofs.Hub.Listings
import EventRewards.Proofs.Hub.LogHistory
import EventRewards.Proofs.Calendar.Civil
import EventRewards.Proofs.Number.Digits
import EventRewards.Proofs.Calendar.Texts
import EventRewards.Proofs.Condition.DateTexts
import EventRewards.Proofs.Json.Canonical
import EventRewards.Proofs.Json.Strings
import EventRewards.Proofs.Documents
import EventRewards.Proofs.Condition.Leaves
import EventRewards.Proofs.Calendar.Millis
import EventRewards.Proofs.Text.Folding
import EventRewards.Proofs.Hub.Searches
import EventRewards.Proofs.Text.Utf8
import EventRewards.Proofs.Http.Percent
import EventRewards.Proofs.Http.FieldNames
