import Mathlib.Logic.Relation
import Mathlib.Logic.Function.Basic

/-!
# Forests of merged nodes

A node that has been merged lies below the node it was merged into, and a node
that has not is a root. A merge puts one root below another, and its reversal
makes a root of the node again. What a merge and its reversal do to the root
of every other node is said once here.
-/

namespace DContact.Lib.MergeForest

universe u

variable {κ : Type u}

inductive RootOf (above : κ → Option κ) : κ → κ → Prop
  | top {node : κ} (isTop : above node = none) : RootOf above node node
  | up {node next root : κ} (merged : above node = some next) (rest : RootOf above next root) :
      RootOf above node root

def Under (above : κ → Option κ) (upper lower : κ) : Prop :=
  Relation.ReflTransGen (fun node next => above node = some next) lower upper

variable {above : κ → Option κ} {node next root upper : κ}

namespace RootOf

theorem isTop (leads : RootOf above node root) : above root = none := by
  induction leads with
  | top isTop => exact isTop
  | up _ _ ih => exact ih

theorem of_top (isTop : above node = none) (leads : RootOf above node root) : root = node := by
  cases leads with
  | top => rfl
  | up merged _ => rw [isTop] at merged; cases merged

theorem of_merged (merged : above node = some next) (leads : RootOf above node root) :
    RootOf above next root := by
  cases leads with
  | top isTop => rw [isTop] at merged; cases merged
  | up other rest =>
      rw [merged] at other
      cases other
      exact rest

theorem unique {other : κ} (leads : RootOf above node root) (leads' : RootOf above node other) :
    root = other := by
  induction leads with
  | top isTop => exact (leads'.of_top isTop).symm
  | up merged _ ih => exact ih (leads'.of_merged merged)

end RootOf

theorem under_top_iff (isTop : above node = none) : Under above upper node ↔ node = upper := by
  constructor
  · intro under
    rcases Relation.ReflTransGen.cases_head under with same | ⟨_, merged, _⟩
    · exact same
    · rw [isTop] at merged
      cases merged
  · rintro rfl
    exact .refl

theorem under_merged_iff (merged : above node = some next) (differs : node ≠ upper) :
    Under above upper node ↔ Under above upper next := by
  constructor
  · intro under
    rcases Relation.ReflTransGen.cases_head under with same | ⟨middle, step, rest⟩
    · exact absurd same differs
    · rw [merged] at step
      cases step
      exact rest
  · exact fun under => .head merged under

/-- What lies below a node lies there in one step, or over a node that does. -/
theorem Under.cases_last (under : Under above upper node) :
    node = upper ∨ ∃ middle, Under above middle node ∧ above middle = some upper := by
  rcases Relation.ReflTransGen.cases_tail under with same | ⟨middle, rest, merged⟩
  · exact .inl same.symm
  · exact .inr ⟨middle, rest, merged⟩

variable [DecidableEq κ]

/-- One root is put below another. -/
def link (above : κ → Option κ) (source target : κ) : κ → Option κ :=
  Function.update above source (some target)

/-- A node is made a root. -/
def cut (above : κ → Option κ) (source : κ) : κ → Option κ :=
  Function.update above source none

variable {source target : κ}

@[simp] theorem link_self : link above source target source = some target :=
  Function.update_self ..

theorem link_of_ne (differs : node ≠ source) : link above source target node = above node :=
  Function.update_of_ne differs ..

@[simp] theorem cut_self : cut above source source = none :=
  Function.update_self ..

theorem cut_of_ne (differs : node ≠ source) : cut above source node = above node :=
  Function.update_of_ne differs ..

/-- Once a root is merged into another, whatever had the first as its root has the second. -/
theorem RootOf.link (sourceTop : above source = none) (targetTop : above target = none)
    (differs : source ≠ target) (leads : RootOf above node root) :
    RootOf (link above source target) node (if root = source then target else root) := by
  induction leads with
  | @top node isTop =>
      by_cases same : node = source
      · rw [if_pos same, same]
        refine .up link_self (.top ?_)
        rw [link_of_ne (Ne.symm differs)]
        exact targetTop
      · rw [if_neg same]
        exact .top (by rw [link_of_ne same]; exact isTop)
  | @up node next root merged rest ih =>
      have apart : node ≠ source := by
        rintro rfl
        rw [sourceTop] at merged
        cases merged
      exact .up (by rw [link_of_ne apart]; exact merged) ih

/-- Once a merge is reversed, whatever lay below the node has it as its root, and nothing else
changes. -/
theorem RootOf.cut (leads : RootOf above node root) (merged : above source ≠ none) :
    (Under above source node → RootOf (cut above source) node source) ∧
      (¬ Under above source node → RootOf (cut above source) node root) := by
  induction leads with
  | @top node isTop =>
      have differs : node ≠ source := by
        rintro rfl
        exact merged isTop
      have kept : MergeForest.cut above source node = none := by rw [cut_of_ne differs]; exact isTop
      refine ⟨?_, fun _ => .top kept⟩
      intro under
      exact absurd ((under_top_iff isTop).mp under) differs
  | @up node next root step rest ih =>
      by_cases same : node = source
      · subst same
        exact ⟨fun _ => .top cut_self, fun apart => absurd .refl apart⟩
      · have kept : MergeForest.cut above source node = some next := by
          rw [cut_of_ne same]
          exact step
        have below : Under above source node ↔ Under above source next :=
          under_merged_iff step same
        exact ⟨fun under => .up kept (ih.1 (below.mp under)),
          fun apart => .up kept (ih.2 fun under => apart (below.mpr under))⟩

end DContact.Lib.MergeForest
