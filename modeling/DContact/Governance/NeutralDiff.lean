import DContact.Governance.DiffSoundness

/-!
# What a neutral diff leaves unchanged

The diff leaves the fallback zone aside where a side has no rule that needs a zone. The preferred
windows of a customer are read in that zone too. A rule that blocks no minute escapes the diff as
well, and still asks for a zone.
-/

namespace DContact.Governance

def GateOutcome.verdict (outcome : GateOutcome) :
    Option ContactDecision × Option PolicyGate × Option Reason :=
  (outcome.decision, outcome.trace.getLast?.map TraceEntry.gate, outcome.reasonCode)

def SameVerdicts (base candidate : PolicyContent) : Prop :=
  ∀ (zones : ZoneDatabase) (input : EvaluationInput) (baseVersion candidateVersion : Nat),
    (evaluateCg3Policy zones (input.under base baseVersion)).verdict =
      (evaluateCg3Policy zones (input.under candidate candidateVersion)).verdict

variable {base candidate : PolicyContent}

/-- Without any zone a request passes exactly when nothing asks for one. -/
theorem SameVerdicts.constrained (same : SameVerdicts base candidate) :
    base.hasTemporalConstraint = candidate.hasTemporalConstraint := by
  have blocked (content : PolicyContent) :
      blocks (fun _ => none) ((probe none none [] none []).under content 1) =
        content.hasTemporalConstraint := by
    rw [probe_blocks, temporalRefuses_of_no_zone (probe_unresolved content), probe_winner]
    rfl
  rw [← blocked base, ← blocked candidate]
  exact congrArg (fun verdict => verdict.1.isSome)
    (same (fun _ => none) (probe none none [] none []) 1 1)

end DContact.Governance
