import DContact.Governance.NeutralDiff
import DContact.Governance.CanonicalContent
import DContact.Governance.CommandReplay
import DContact.Expression.MaskedContext
import DContact.Governance.ReservationSweep
import DContact.Governance.DraftCertification
import DContact.Governance.PolicyEvents
import DContact.Governance.ConsumerInbox
import DContact.Governance.EventRelay
import DContact.Governance.ExceptionSafety
import DContact.Governance.AttemptAccounting
import DContact.Governance.CallbackConsumption
import DContact.Governance.Revalidation
import DContact.Governance.PreferenceHistory
import DContact.Governance.EmergencyQuorum
import DContact.Journey.OwnerResults
import DContact.Journey.JourneyIngress
import DContact.Journey.SendRetries
import DContact.Journey.AuthoringAcceptance
import DContact.Journey.StructureValidation
import DContact.Customer360.IdentityForest
import DContact.Customer360.MembershipFreshness
import DContact.Delivery.OutboxAgreement
import DContact.Delivery.CapWindows
import DContact.Delivery.LineAuthorization
import DContact.Delivery.LineRuns
import DContact.Dialer.InboxAnswers
import DContact.Dialer.ContactDuplicates
import DContact.Dialer.CallsUnderClaim
import DContact.Governance.ProjectionRuns
import DContact.Governance.AlertHistory
import DContact.Governance.ExportRuns
import DContact.Customer360.MembershipRelayRuns
import DContact.Router.OneCallRuns
import DContact.Router.FinishedCalls
import DContact.Governance.ScopeKeys
import DContact.Governance.OverrideAgreement
import DContact.Governance.TestFreshness
import DContact.Governance.PreferenceTies
import DContact.Governance.RetryTime
import DContact.Governance.HeadCache
