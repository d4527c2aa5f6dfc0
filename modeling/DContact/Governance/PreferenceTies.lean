import DContact.Governance.OverrideLaw
import DContact.Lib.Pages
import Mathlib.Data.List.Perm.Basic

/-!
# The order of preference candidates

Among the matching candidates that bind the most dimensions, one with the most restrictive verdict
is selected, so the verdict is the same in every order. The candidate is the same in every order
exactly if there is only one to choose from.
-/

namespace DContact.Governance

open Lib List

variable {candidates reordered : List PreferenceCandidate} {input : EvaluationInput}
  {candidate : PreferenceCandidate}

def winners (candidates : List PreferenceCandidate) (input : EvaluationInput) :
    List PreferenceCandidate :=
  let matching := candidates.filter fun candidate => preferenceMatches candidate input
  let maxSpecificity := (matching.map specificityOf).foldl max 0
  matching.filter fun candidate => specificityOf candidate == maxSpecificity

def PreferenceCandidate.rank (candidate : PreferenceCandidate) : Nat :=
  (candidate.decision.getD .allow).restrictiveness

/-- A winner which no other one is more restrictive than. -/
def Strictest (candidates : List PreferenceCandidate) (input : EvaluationInput)
    (candidate : PreferenceCandidate) : Prop :=
  candidate ∈ winners candidates input ∧
    ∀ other ∈ winners candidates input, candidate.rank ≤ other.rank

theorem winners_perm (same : reordered.Perm candidates) :
    (winners reordered input).Perm (winners candidates input) := by
  have matching := same.filter fun candidate => preferenceMatches candidate input
  have most := (matching.map specificityOf).foldl_eq (f := max) 0
  simp only [winners, most]
  exact matching.filter _

theorem Strictest.perm (same : reordered.Perm candidates)
    (strictest : Strictest reordered input candidate) : Strictest candidates input candidate :=
  have winners := winners_perm same
  ⟨winners.mem_iff.mp strictest.1, fun other mem => strictest.2 other (winners.mem_iff.mpr mem)⟩

theorem Strictest.of_resolved (found : resolveEffectivePreference candidates input = some candidate) :
    Strictest candidates input candidate :=
  Pages.least_of_head? found

theorem Strictest.first (strictest : Strictest (candidate :: candidates) input candidate) :
    resolveEffectivePreference (candidate :: candidates) input = some candidate := by
  obtain ⟨rest, same⟩ : ∃ rest, winners (candidate :: candidates) input = candidate :: rest := by
    obtain ⟨matched, most⟩ := mem_filter.mp strictest.1
    have applies := (mem_filter.mp matched).2
    have kept := filter_cons_of_pos (p := fun candidate => preferenceMatches candidate input)
      (l := candidates) applies
    unfold winners
    rw [kept] at most ⊢
    exact ⟨_, filter_cons_of_pos most⟩
  change ((winners _ _).insertionSort fun left right : PreferenceCandidate =>
    left.rank ≤ right.rank).head? = _
  rw [same]
  exact Pages.head?_of_least fun other mem => strictest.2 other (same ▸ mem_cons_of_mem _ mem)

theorem winners_of_unresolved (none : resolveEffectivePreference candidates input = none) :
    winners candidates input = [] :=
  (head?_eq_none_iff.mp none ▸ perm_insertionSort _ _).symm.eq_nil

/-- Two orders agree on whatever the strictest winners have in common. -/
theorem resolved_agree {γ : Type} (read : PreferenceCandidate → γ)
    (same : reordered.Perm candidates)
    (agree : ∀ left right, Strictest candidates input left → Strictest candidates input right →
      read left = read right) :
    (resolveEffectivePreference reordered input).map read =
      (resolveEffectivePreference candidates input).map read := by
  cases first : resolveEffectivePreference reordered input with
  | none =>
      have empty : winners candidates input = [] :=
        (winners_of_unresolved first ▸ winners_perm same).symm.eq_nil
      cases second : resolveEffectivePreference candidates input with
      | none => rfl
      | some right => exact absurd (Strictest.of_resolved second).1 (empty ▸ not_mem_nil)
  | some left =>
      have chosen := (Strictest.of_resolved first).perm same
      cases second : resolveEffectivePreference candidates input with
      | none => exact absurd chosen.1 (winners_of_unresolved second ▸ not_mem_nil)
      | some right => exact congrArg some (agree left right chosen (.of_resolved second))

theorem restrictiveness_injective : Function.Injective PreferenceDecision.restrictiveness := by
  intro left right same
  cases left <;> cases right <;> first | rfl | cases same

theorem Strictest.same_verdict {left right : PreferenceCandidate}
    (strictest : Strictest candidates input left) (other : Strictest candidates input right) :
    left.decision.getD .allow = right.decision.getD .allow := by
  have same : left.rank = right.rank :=
    le_antisymm (strictest.2 right other.1) (other.2 left strictest.1)
  exact restrictiveness_injective same

/-- Only one candidate can be selected, whatever the order. -/
def Untied (input : EvaluationInput) : Prop :=
  ∀ left right, Strictest input.preferences input left →
    Strictest input.preferences input right → left = right

/-- The verdict is the same in every order. The candidate is the same exactly if no other one could
be selected, and then so is the whole evaluation. -/
theorem preference_order_matters_iff (input : EvaluationInput) :
    (∀ reordered, reordered.Perm input.preferences →
      (resolveEffectivePreference reordered input).map (fun winner => winner.decision.getD .allow) =
        input.winner.map fun winner => winner.decision.getD .allow) ∧
    ((∀ reordered, reordered.Perm input.preferences →
      resolveEffectivePreference reordered input = input.winner) ↔ Untied input) ∧
    (Untied input → ∀ zones reordered, reordered.Perm input.preferences →
      evaluateCg3Policy zones { input with preferences := reordered } =
        evaluateCg3Policy zones input) := by
  have stable (untied : Untied input) {reordered : List PreferenceCandidate}
      (same : reordered.Perm input.preferences) :
      resolveEffectivePreference reordered input = input.winner := by
    have agree := resolved_agree id same untied
    rwa [Option.map_id] at agree
  refine ⟨fun reordered same => resolved_agree _ same fun _ _ left right =>
    left.same_verdict right, ⟨fun free => ?_, fun untied _ same => stable untied same⟩, ?_⟩
  · have wins (candidate : PreferenceCandidate)
        (strictest : Strictest input.preferences input candidate) :
        input.winner = some candidate := by
      obtain ⟨before, after, split⟩ := append_of_mem (mem_filter.mp
        (mem_filter.mp strictest.1).1).1
      have moved : (candidate :: (before ++ after)).Perm input.preferences :=
        split ▸ perm_middle.symm
      rw [← free _ moved]
      exact (strictest.perm moved.symm).first
    intro left right strictest other
    exact Option.some.inj ((wins left strictest).symm.trans (wins right other))
  · intro untied zones reordered same
    have winner : resolveEffectivePreference reordered { input with preferences := reordered } =
        input.winner := stable untied same
    simp only [evaluateCg3Policy, winner]
    rfl

/-- Of a preference for the channel and one for the purpose, both allowing, the first one counts. -/
theorem preference_order_matters :
    ¬ ∀ (input : EvaluationInput) (reordered : List PreferenceCandidate),
      reordered.Perm input.preferences →
        resolveEffectivePreference reordered input = input.winner := by
  intro law
  have same := law { christmasRequest (nightPolicy [] []) with
    preferences := [⟨1, none, some .line, none, none, some .allow, none, []⟩,
      ⟨2, none, none, some "MARKETING", none, some .allow, none, [⟨[1], ⟨9, 0⟩, ⟨17, 0⟩⟩]⟩] }
    _ (.swap ..)
  have versions := congrArg (Option.map PreferenceCandidate.version) same
  revert versions
  decide

end DContact.Governance
