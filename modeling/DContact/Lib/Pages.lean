import Mathlib.Data.List.Sort
import Mathlib.Order.WithBot

/-!
# Pages of ordered rows

A reader takes the rows of a table page by page, in the order of a rank that no two rows share. A
page is the first rows among those that are wanted, so it holds every wanted row up to its last
one, and a page that is not full holds them all.
-/

namespace DContact.Lib.Pages

open List

variable {ρ ο : Type} [LinearOrder ο] {rank : ρ → ο} {wanted : ρ → Bool} {limit : Nat}
  {rows : List ρ} {row last : ρ}

def page (rank : ρ → ο) (wanted : ρ → Bool) (limit : Nat) (rows : List ρ) : List ρ :=
  ((rows.filter wanted).insertionSort fun left right => rank left ≤ rank right).take limit

theorem mem_of_page (mem : row ∈ page rank wanted limit rows) :
    row ∈ rows ∧ wanted row = true := by
  have sorted := mem_of_mem_take mem
  rw [mem_insertionSort] at sorted
  exact mem_filter.mp sorted

theorem nodup_page (distinct : rows.Nodup) : (page rank wanted limit rows).Nodup := by
  refine List.Nodup.sublist (take_sublist ..) ?_
  exact (perm_insertionSort _ _).nodup_iff.mpr (distinct.filter _)

theorem le_last (ends : (page rank wanted limit rows).getLast? = some last)
    (mem : row ∈ page rank wanted limit rows) : rank row ≤ rank last := by
  obtain ⟨front, split⟩ := getLast?_eq_some_iff.mp ends
  have ordered : (page rank wanted limit rows).Pairwise fun left right => rank left ≤ rank right :=
    (pairwise_insertionSort _ _).sublist (take_sublist ..)
  rw [split] at ordered mem
  rcases mem_append.mp mem with earlier | same
  · exact (pairwise_append.mp ordered).2.2 row earlier last (mem_singleton_self last)
  · rw [mem_singleton.mp same]

theorem page_covers (apart : ∀ left ∈ rows, ∀ right ∈ rows, rank left = rank right → left = right)
    (ends : (page rank wanted limit rows).getLast? = some last) (mem : row ∈ rows)
    (asked : wanted row = true) (before : rank row ≤ rank last) :
    row ∈ page rank wanted limit rows := by
  have sorted : row ∈ (rows.filter wanted).insertionSort fun left right => rank left ≤ rank right :=
    (mem_insertionSort _).mpr (mem_filter.mpr ⟨mem, asked⟩)
  rw [← take_append_drop limit
    ((rows.filter wanted).insertionSort fun left right => rank left ≤ rank right)] at sorted
  rcases mem_append.mp sorted with here | later
  · exact here
  · have lastHere : last ∈ page rank wanted limit rows := mem_of_getLast? ends
    have ordered := pairwise_insertionSort (fun left right => rank left ≤ rank right)
      (rows.filter wanted)
    rw [← take_append_drop limit
      ((rows.filter wanted).insertionSort fun left right => rank left ≤ rank right)] at ordered
    have after : rank last ≤ rank row := (pairwise_append.mp ordered).2.2 last lastHere row later
    have same := apart row mem last (mem_of_page lastHere).1 (le_antisymm before after)
    exact same ▸ lastHere

theorem page_short (short : (page rank wanted limit rows).length < limit) (mem : row ∈ rows)
    (asked : wanted row = true) : row ∈ page rank wanted limit rows := by
  have whole : page rank wanted limit rows =
      (rows.filter wanted).insertionSort fun left right => rank left ≤ rank right := by
    refine take_of_length_le ?_
    rw [page, length_take] at short
    omega
  rw [whole]
  exact (mem_insertionSort _).mpr (mem_filter.mpr ⟨mem, asked⟩)

theorem least_of_head?
    (first : (rows.insertionSort fun left right => rank left ≤ rank right).head? = some row) :
    row ∈ rows ∧ ∀ other ∈ rows, rank row ≤ rank other := by
  obtain ⟨rest, sorted⟩ := head?_eq_some_iff.mp first
  have ordered := pairwise_insertionSort (fun left right => rank left ≤ rank right) rows
  rw [sorted] at ordered
  have listed : ∀ other, other ∈ row :: rest ↔ other ∈ rows := fun other => by
    rw [← sorted, mem_insertionSort]
  refine ⟨(listed row).mp mem_cons_self, fun other mem => ?_⟩
  rcases mem_cons.mp ((listed other).mpr mem) with rfl | later
  · exact le_rfl
  · exact (pairwise_cons.mp ordered).1 other later

theorem head?_of_least (least : ∀ other ∈ rows, rank row ≤ rank other) :
    ((row :: rows).insertionSort fun left right => rank left ≤ rank right).head? = some row := by
  rw [insertionSort_cons]
  cases sorted : rows.insertionSort fun left right => rank left ≤ rank right with
  | nil => rfl
  | cons next rest =>
      have mem : next ∈ rows := by
        rw [← mem_insertionSort fun left right => rank left ≤ rank right, sorted]
        exact mem_cons_self
      rw [orderedInsert_cons_of_le _ rest (least next mem)]
      rfl

variable {taken : List ρ}

theorem countP_taken [DecidableEq ρ] (distinct : rows.Nodup) (apart : taken.Nodup)
    (within : ∀ row ∈ taken, row ∈ rows) (counts : ρ → Bool) :
    (rows.countP fun row => decide (row ∈ taken) && counts row) = taken.countP counts := by
  have same : (rows.filter fun row => decide (row ∈ taken)).Perm taken := by
    refine (perm_ext_iff_of_nodup (distinct.filter _) apart).mpr fun row => ?_
    rw [mem_filter, decide_eq_true_iff]
    exact ⟨And.right, fun mem => ⟨within row mem, mem⟩⟩
  rw [← same.countP_eq, countP_filter]
  exact countP_congr fun row _ => by rw [Bool.and_comm]

theorem countP_joining [DecidableEq ρ] {before after : ρ → Bool} (distinct : rows.Nodup)
    (apart : taken.Nodup) (within : ∀ row ∈ taken, row ∈ rows)
    (fresh : ∀ row ∈ taken, before row = false)
    (joined : ∀ row ∈ rows, after row = (before row || decide (row ∈ taken))) (counts : ρ → Bool) :
    (rows.countP fun row => after row && counts row) =
      (rows.countP fun row => before row && counts row) + taken.countP counts := by
  rw [← countP_taken distinct apart within counts]
  clear distinct within apart
  induction rows with
  | nil => rfl
  | cons first rest ih =>
      have others := ih fun row mem => joined row (mem_cons_of_mem _ mem)
      rw [countP_cons, countP_cons, countP_cons, others, joined first mem_cons_self]
      by_cases here : first ∈ taken
      · have old := fresh first here
        simp only [here, old, decide_true, Bool.false_or, Bool.true_and, Bool.false_and,
          Bool.false_eq_true, if_false]
        omega
      · simp only [here, decide_false, Bool.or_false, Bool.false_and, Bool.false_eq_true, if_false]
        omega

end DContact.Lib.Pages
