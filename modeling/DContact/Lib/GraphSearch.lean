import Mathlib.Data.List.Nodup
import Mathlib.Data.List.Perm.Subperm
import Mathlib.Algebra.Order.BigOperators.Group.List
import Mathlib.Algebra.Order.Ring.Nat
import Mathlib.Order.WellFounded

/-!
# Graph searches

Two searches of a finite graph which is given by its successor lists. The depth-first search
collects the nodes at which it meets its own path. Such a node is found exactly when the graph
has a cycle. The breadth-first search collects the nodes which the start reaches. Both take a
bound on their work, and both return within a bound that the graph gives.
-/

namespace DContact.Lib.GraphSearch

open List

open Relation (TransGen ReflTransGen)

variable {α : Type} (succ : α → List α)

def Edge (source target : α) : Prop := target ∈ succ source

def Acyclic : Prop := ∀ node, ¬ TransGen (Edge succ) node node

/-- Every path is finite. -/
def Terminates : Prop := WellFounded fun target source => Edge succ source target

variable {succ} in
theorem Terminates.acyclic (finite : Terminates succ) : Acyclic succ := by
  intro node cycle
  have irreflexive : ¬ TransGen (fun target source => Edge succ source target) node node :=
    fun loop => finite.transGen.irrefl.irrefl node loop
  exact irreflexive (Relation.transGen_swap.mpr cycle)

/-- Every node of the list has its successors further back in the list. -/
inductive Sealed : List α → Prop where
  | nil : Sealed []
  | cons {node : α} {done : List α} (below : ∀ next ∈ succ node, next ∈ done)
      (rest : Sealed done) : Sealed (node :: done)

variable {done : List α}

variable {succ} in
theorem Sealed.accessible (sealed : Sealed succ done) :
    ∀ node ∈ done, Acc (fun target source => Edge succ source target) node := by
  induction sealed with
  | nil => exact forall_mem_nil _
  | cons below rest ih =>
      intro node mem
      rcases mem_cons.mp mem with rfl | older
      · exact ⟨node, fun next edge => ih next (below next edge)⟩
      · exact ih node older

variable {succ} in
theorem Sealed.terminates (sealed : Sealed succ done)
    (covered : ∀ node, succ node ≠ [] → node ∈ done) : Terminates succ := by
  constructor
  intro node
  by_cases idle : succ node = []
  · refine ⟨node, fun next edge => ?_⟩
    have mem : next ∈ succ node := edge
    rw [idle] at mem
    cases mem
  · exact sealed.accessible node (covered node idle)

structure Marks (α : Type) where
  done : List α
  cyclic : List α

variable {succ}

/-- While no cycle is met, a step keeps the finished nodes sealed and finishes its node. -/
def Seals (succ : α → List α) (step : Marks α → α → Option (Marks α)) : Prop :=
  ∀ marks node after, step marks node = some after → after.cyclic = [] →
    marks.cyclic = [] ∧ (Sealed succ marks.done →
      Sealed succ after.done ∧ marks.done ⊆ after.done ∧ node ∈ after.done)

variable {step : Marks α → α → Option (Marks α)}

theorem Seals.fold (seals : Seals succ step) {nodes : List α} {marks after : Marks α}
    (run : nodes.foldlM step marks = some after) (clean : after.cyclic = []) :
    marks.cyclic = [] ∧ (Sealed succ marks.done →
      Sealed succ after.done ∧ marks.done ⊆ after.done ∧ nodes ⊆ after.done) := by
  induction nodes generalizing marks with
  | nil =>
      cases run
      exact ⟨clean, fun sealed => ⟨sealed, List.Subset.refl _, nil_subset _⟩⟩
  | cons node rest ih =>
      rw [foldlM_cons] at run
      obtain ⟨between, first, others⟩ := Option.bind_eq_some_iff.mp run
      obtain ⟨cleanBetween, restSeals⟩ := ih others
      obtain ⟨cleanBefore, nodeSeals⟩ := seals _ _ _ first cleanBetween
      refine ⟨cleanBefore, fun sealed => ?_⟩
      obtain ⟨sealedBetween, grown, finished⟩ := nodeSeals sealed
      obtain ⟨sealedAfter, grownAfter, restFinished⟩ := restSeals sealedBetween
      refine ⟨sealedAfter, List.Subset.trans grown grownAfter, ?_⟩
      exact cons_subset.mpr ⟨grownAfter finished, restFinished⟩

variable {nodes : List α} {node : α}

theorem fold_keeps_cyclic (keeps : ∀ node ∈ nodes, ∀ {marks after}, step marks node = some after →
      after.cyclic = marks.cyclic) {marks after : Marks α}
    (run : nodes.foldlM step marks = some after) : after.cyclic = marks.cyclic := by
  induction nodes generalizing marks with
  | nil =>
      cases run
      rfl
  | cons node rest ih =>
      rw [foldlM_cons] at run
      obtain ⟨between, first, others⟩ := Option.bind_eq_some_iff.mp run
      have later := ih (fun next mem => keeps next (mem_cons_of_mem _ mem)) others
      rw [later, keeps node mem_cons_self first]

theorem fold_returns (returns : ∀ node ∈ nodes, ∀ marks, ∃ after, step marks node = some after)
    (marks : Marks α) : ∃ after, nodes.foldlM step marks = some after := by
  induction nodes generalizing marks with
  | nil => exact ⟨marks, rfl⟩
  | cons node rest ih =>
      obtain ⟨between, first⟩ := returns node mem_cons_self marks
      obtain ⟨after, others⟩ :=
        ih (fun next mem => returns next (mem_cons_of_mem _ mem)) between
      exact ⟨after, by rw [foldlM_cons, first]; exact others⟩

variable [DecidableEq α]

variable (succ) in
/-- The path to the node is passed down, so that leaving a node needs no work. -/
def visit : Nat → List α → Marks α → α → Option (Marks α)
  | 0, _, _, _ => none
  | fuel + 1, visiting, marks, node =>
      if node ∈ marks.done then some marks
      else if node ∈ visiting then some { marks with cyclic := marks.cyclic.insert node }
      else
        ((succ node).foldlM (visit fuel (node :: visiting)) marks).map fun after =>
          { after with done := node :: after.done }

variable (succ) in
/-- The nodes on which a path closes, searched for from each of the nodes. -/
def findCyclic (nodes : List α) : Option (List α) :=
  (nodes.foldlM (visit succ (nodes.length + 1) []) ⟨[], []⟩).map Marks.cyclic

theorem visit_seals (fuel : Nat) (visiting : List α) :
    Seals succ (visit succ fuel visiting) := by
  induction fuel generalizing visiting with
  | zero =>
      intro marks node after run
      cases run
  | succ fuel ih =>
      intro marks node after run clean
      rw [visit] at run
      split at run
      · rename_i finished
        cases run
        exact ⟨clean, fun sealed => ⟨sealed, List.Subset.refl _, finished⟩⟩
      · split at run
        · cases run
          have kept : node ∈ marks.cyclic.insert node := mem_insert_self
          have none : marks.cyclic.insert node = [] := clean
          rw [none] at kept
          cases kept
        · obtain ⟨inner, below, rfl⟩ := Option.map_eq_some_iff.mp run
          obtain ⟨cleanBefore, belowSeals⟩ := (ih (node :: visiting)).fold below clean
          refine ⟨cleanBefore, fun sealed => ?_⟩
          obtain ⟨sealedInner, grown, finished⟩ := belowSeals sealed
          refine ⟨.cons (fun next edge => finished edge) sealedInner, ?_, mem_cons_self⟩
          exact List.Subset.trans grown (subset_cons_self _ _)

/-- Where the search finds no node, the graph on the searched nodes has only finite paths. -/
theorem findCyclic_sound (none : findCyclic succ nodes = some [])
    (covered : ∀ node, succ node ≠ [] → node ∈ nodes) : Terminates succ := by
  obtain ⟨after, run, clean⟩ := Option.map_eq_some_iff.mp none
  obtain ⟨-, seals⟩ := (visit_seals (nodes.length + 1) []).fold run clean
  obtain ⟨sealed, -, finished⟩ := seals .nil
  exact sealed.terminates fun node busy => finished (covered node busy)

/-- The nodes being visited lead to the node, so that meeting one of them closes a cycle. -/
theorem visit_acyclic (acyclic : Acyclic succ) (fuel : Nat) (visiting : List α)
    (path : ∀ earlier ∈ visiting, TransGen (Edge succ) earlier node) {marks after : Marks α}
    (run : visit succ fuel visiting marks node = some after) : after.cyclic = marks.cyclic := by
  induction fuel generalizing visiting node marks after with
  | zero => cases run
  | succ fuel ih =>
      rw [visit] at run
      split at run
      · cases run
        rfl
      · split at run
        · rename_i met
          exact absurd (path node met) (acyclic node)
        · obtain ⟨inner, below, rfl⟩ := Option.map_eq_some_iff.mp run
          show inner.cyclic = marks.cyclic
          refine fold_keeps_cyclic ?_ below
          intro next edge before afterwards one
          refine ih (node :: visiting) ?_ one
          intro earlier mem
          rcases mem_cons.mp mem with rfl | older
          · exact .single edge
          · exact (path earlier older).tail edge

/-- A path without repetition is no longer than the list of nodes, which bounds the depth. -/
theorem visit_returns (closed : ∀ node ∈ nodes, succ node ⊆ nodes) (fuel : Nat) {visiting : List α}
    (distinct : visiting.Nodup) (inside : visiting ⊆ nodes)
    (enough : nodes.length < fuel + visiting.length) (mem : node ∈ nodes)
    (marks : Marks α) : ∃ after, visit succ fuel visiting marks node = some after := by
  induction fuel generalizing visiting node marks with
  | zero =>
      have short : visiting.length ≤ nodes.length := (distinct.subperm inside).length_le
      omega
  | succ fuel ih =>
      rw [visit]
      split
      · exact ⟨marks, rfl⟩
      · split
        · exact ⟨_, rfl⟩
        · rename_i fresh
          have longer : (node :: visiting).Nodup := nodup_cons.mpr ⟨fresh, distinct⟩
          have within : node :: visiting ⊆ nodes := cons_subset.mpr ⟨mem, inside⟩
          have budget : nodes.length < fuel + (node :: visiting).length := by
            rw [length_cons]
            omega
          obtain ⟨inner, below⟩ :
              ∃ after, (succ node).foldlM (visit succ fuel (node :: visiting)) marks = some after :=
            fold_returns
              (fun next edge marks => ih longer within budget (closed node mem edge) marks) marks
          exact ⟨_, by rw [below]; rfl⟩

theorem findCyclic_returns (closed : ∀ node ∈ nodes, succ node ⊆ nodes) :
    ∃ found, findCyclic succ nodes = some found := by
  obtain ⟨after, run⟩ :
      ∃ after, nodes.foldlM (visit succ (nodes.length + 1) []) ⟨[], []⟩ = some after :=
    fold_returns (fun node mem marks =>
      visit_returns closed _ nodup_nil (nil_subset _) (by simp) mem marks) _
  exact ⟨after.cyclic, by rw [findCyclic, run]; rfl⟩

theorem findCyclic_complete (closed : ∀ node ∈ nodes, succ node ⊆ nodes) (acyclic : Acyclic succ) :
    findCyclic succ nodes = some [] := by
  obtain ⟨found, search⟩ := findCyclic_returns closed
  obtain ⟨after, run, cyclic⟩ := Option.map_eq_some_iff.mp search
  have kept : after.cyclic = [] := fold_keeps_cyclic
    (fun node _ marks after one => visit_acyclic acyclic _ [] (fun _ none => nomatch none) one) run
  rw [search, ← cyclic, kept]

variable (succ) in
/-- A node is expanded when it leaves the queue for the first time. -/
def explore : Nat → List α → List α → Option (List α)
  | _, reachable, [] => some reachable
  | 0, _, _ :: _ => none
  | fuel + 1, reachable, current :: queue =>
      if current ∈ reachable then explore fuel reachable queue
      else
        explore fuel (reachable ++ [current])
          (queue ++ (succ current).filter fun next => next ∉ reachable ++ [current])

/-- The edges of the nodes that are not expanded yet bound how far the queue can grow. -/
def edgesLeft (succ : α → List α) (nodes reachable : List α) : Nat :=
  (nodes.map fun node => if node ∈ reachable then 0 else (succ node).length).sum

variable (succ) in
def reachableFrom (nodes : List α) (start : α) : Option (List α) :=
  explore succ (1 + edgesLeft succ nodes []) [] [start]

variable {reachable queue found : List α}

theorem explore_sound {fuel : Nat} (run : explore succ fuel reachable queue = some found)
    (mem : node ∈ found) :
    node ∈ reachable ∨ ∃ start ∈ queue, ReflTransGen (Edge succ) start node := by
  induction fuel, reachable, queue using explore.induct succ with
  | case1 fuel reachable =>
      cases fuel <;> cases run <;> exact .inl mem
  | case2 => cases run
  | case3 fuel reachable current queue known ih =>
      rw [explore, if_pos known] at run
      rcases ih run with old | ⟨start, waiting, path⟩
      · exact .inl old
      · exact .inr ⟨start, mem_cons_of_mem _ waiting, path⟩
  | case4 fuel reachable current queue fresh ih =>
      rw [explore, if_neg fresh] at run
      rcases ih run with seen | ⟨start, waiting, path⟩
      · rcases mem_append.mp seen with old | new
        · exact .inl old
        · rw [mem_singleton] at new
          exact .inr ⟨current, mem_cons_self, new ▸ .refl⟩
      · rcases mem_append.mp waiting with older | pushed
        · exact .inr ⟨start, mem_cons_of_mem _ older, path⟩
        · have edge : Edge succ current start := (mem_filter.mp pushed).1
          exact .inr ⟨current, mem_cons_self, .head edge path⟩

/-- A successor of a reached node has been reached, or waits. -/
def Pending (succ : α → List α) (reachable queue : List α) : Prop :=
  ∀ node ∈ reachable, ∀ next ∈ succ node, next ∈ reachable ∨ next ∈ queue

theorem explore_closed {fuel : Nat} (run : explore succ fuel reachable queue = some found)
    (pending : Pending succ reachable queue) :
    reachable ⊆ found ∧ queue ⊆ found ∧ ∀ node ∈ found, succ node ⊆ found := by
  induction fuel, reachable, queue using explore.induct succ with
  | case1 fuel reachable =>
      have same : reachable = found := by
        cases fuel <;> exact Option.some.inj run
      refine ⟨same ▸ List.Subset.refl _, nil_subset _, ?_⟩
      intro node mem next edge
      rw [← same] at mem ⊢
      rcases pending node mem next edge with reached | waiting
      · exact reached
      · cases waiting
  | case2 => cases run
  | case3 fuel reachable current queue known ih =>
      rw [explore, if_pos known] at run
      have still : Pending succ reachable queue := by
        intro node mem next edge
        rcases pending node mem next edge with reached | waiting
        · exact .inl reached
        · rcases mem_cons.mp waiting with rfl | older
          · exact .inl known
          · exact .inr older
      obtain ⟨kept, emptied, closed⟩ := ih run still
      exact ⟨kept, cons_subset.mpr ⟨kept known, emptied⟩, closed⟩
  | case4 fuel reachable current queue fresh ih =>
      rw [explore, if_neg fresh] at run
      have still : Pending succ (reachable ++ [current])
          (queue ++ (succ current).filter fun next => next ∉ reachable ++ [current]) := by
        intro node mem next edge
        by_cases reached : next ∈ reachable ++ [current]
        · exact .inl reached
        · right
          rcases mem_append.mp mem with old | new
          · rcases pending node old next edge with known | waiting
            · exact absurd (mem_append_left _ known) reached
            · rcases mem_cons.mp waiting with rfl | older
              · exact absurd (mem_append_right _ mem_cons_self) reached
              · exact mem_append_left _ older
          · rw [mem_singleton] at new
            subst new
            exact mem_append_right _ (mem_filter.mpr ⟨edge, by simpa using reached⟩)
      obtain ⟨kept, emptied, closed⟩ := ih run still
      have expanded : current ∈ found := kept (mem_append_right _ mem_cons_self)
      refine ⟨fun node mem => kept (mem_append_left _ mem), ?_, closed⟩
      exact cons_subset.mpr
        ⟨expanded, fun node mem => emptied (mem_append_left _ mem)⟩

theorem edgesLeft_le (current : α) :
    edgesLeft succ nodes (reachable ++ [current]) ≤ edgesLeft succ nodes reachable := by
  refine sum_le_sum fun node _ => ?_
  by_cases seen : node ∈ reachable
  · simp [seen]
  · simp only [mem_append, seen, false_or, if_false]
    split <;> omega

/-- Expanding a node takes its edges off the ones that are left. -/
theorem edgesLeft_expand {current : α} (mem : current ∈ nodes) (fresh : current ∉ reachable) :
    (succ current).length + edgesLeft succ nodes (reachable ++ [current]) ≤
      edgesLeft succ nodes reachable := by
  induction nodes with
  | nil => cases mem
  | cons node rest ih =>
      simp only [edgesLeft, map_cons, sum_cons] at ih ⊢
      by_cases same : node = current
      · have shrinks : edgesLeft succ rest (reachable ++ [current]) ≤ edgesLeft succ rest reachable :=
          edgesLeft_le current
        simp only [edgesLeft] at shrinks
        simp only [same, mem_append, mem_singleton, or_true, fresh, if_true, if_false]
          at shrinks ⊢
        omega
      · have older : current ∈ rest := by
          rcases mem_cons.mp mem with equal | later
          · exact absurd equal.symm same
          · exact later
        have bound := ih older
        have unchanged : (node ∈ reachable ++ [current]) ↔ node ∈ reachable := by simp [same]
        simp only [unchanged]
        omega

theorem explore_returns (idle : ∀ node, node ∉ nodes → succ node = []) :
    ∀ {fuel : Nat} {reachable queue : List α},
      queue.length + edgesLeft succ nodes reachable ≤ fuel →
        ∃ found, explore succ fuel reachable queue = some found := by
  intro fuel reachable queue enough
  induction fuel, reachable, queue using explore.induct succ with
  | case1 fuel reachable => cases fuel <;> exact ⟨reachable, rfl⟩
  | case2 =>
      simp only [length_cons] at enough
      omega
  | case3 fuel reachable current queue known ih =>
      rw [explore, if_pos known]
      simp only [length_cons] at enough
      exact ih (by omega)
  | case4 fuel reachable current queue fresh ih =>
      rw [explore, if_neg fresh]
      refine ih ?_
      have pushed : ((succ current).filter fun next => next ∉ reachable ++ [current]).length ≤
          (succ current).length := length_filter_le _ _
      simp only [length_cons] at enough
      rw [length_append]
      by_cases mem : current ∈ nodes
      · have expanded : (succ current).length + edgesLeft succ nodes (reachable ++ [current]) ≤
            edgesLeft succ nodes reachable := edgesLeft_expand mem fresh
        omega
      · have none : (succ current).length = 0 := by rw [idle current mem, length_nil]
        have shrinks : edgesLeft succ nodes (reachable ++ [current]) ≤
            edgesLeft succ nodes reachable := edgesLeft_le current
        omega

theorem reachableFrom_returns (idle : ∀ node, node ∉ nodes → succ node = []) (start : α) :
    ∃ found, reachableFrom succ nodes start = some found := by
  exact explore_returns idle (by rw [length_singleton])

/-- The search finds exactly the nodes at the end of a path from the start. -/
theorem mem_reachableFrom {start : α} (search : reachableFrom succ nodes start = some found) :
    node ∈ found ↔ ReflTransGen (Edge succ) start node := by
  obtain ⟨-, begun, closed⟩ := explore_closed search (fun _ none => nomatch none)
  constructor
  · intro mem
    rcases explore_sound search mem with none | ⟨first, waiting, path⟩
    · cases none
    · rw [mem_singleton] at waiting
      exact waiting ▸ path
  · intro path
    induction path with
    | refl => exact begun mem_cons_self
    | tail _ edge ih => exact closed _ ih edge

end DContact.Lib.GraphSearch
