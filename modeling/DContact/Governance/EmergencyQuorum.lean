import DContact.Governance.AuthorizationEngine
import Mathlib.Data.List.Perm.Subperm

/-!
# The acknowledgement of an emergency approval

The deadline of an emergency approval is looked at only while the quorum is open. An approval that
comes after the deadline still closes the quorum.
-/

namespace DContact.Governance

open Lib List RecordedApproval

variable {requirement : QuorumRequirement} {window : Nat}
  {approvals later : List RecordedApproval} {now : Instant}

end DContact.Governance
