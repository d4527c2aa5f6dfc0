import Mathlib.Data.List.Induction
import Mathlib.Data.List.Nodup
import Mathlib.Order.Lattice

/-!
# Tables with a key

A table is a list of rows with a key. An update rewrites the rows of one key and
leaves every other row as it is, so a property of all rows survives an update as
soon as the rewritten row has it.
-/

namespace DContact.Lib.Table

open List

universe u v w

variable {ρ : Type u} {κ : Type v} [DecidableEq κ]

def update (key : ρ → κ) (target : κ) (rewrite : ρ → ρ) (rows : List ρ) : List ρ :=
  rows.map fun row => if key row = target then rewrite row else row

def lookup (key : ρ → κ) (target : κ) (rows : List ρ) : Option ρ :=
  rows.find? fun row => key row = target

/-- Entry into an ordered map: a new key comes last, and a known key keeps its place
and takes the new row. -/
def put (key : ρ → κ) (rows : List ρ) (row : ρ) : List ρ :=
  if rows.any fun other => key other = key row then update key (key row) (fun _ => row) rows
  else rows ++ [row]

/-- The ordered map that arises from entering rows one after another. -/
def ofEntries (key : ρ → κ) (rows : List ρ) : List ρ := rows.foldl (put key) []

/-- No two rows with different keys carry the same value. -/
def UniqueBy {γ : Type w} (key : ρ → κ) (value : ρ → Option γ) (rows : List ρ) : Prop :=
  ∀ left ∈ rows, ∀ right ∈ rows, ∀ x, value left = some x → value right = some x →
    key left = key right

variable {key : ρ → κ} {target : κ} {rewrite : ρ → ρ} {rows : List ρ} {row : ρ}

theorem mem_update :
    row ∈ update key target rewrite rows ↔
      ∃ before ∈ rows, row = if key before = target then rewrite before else before := by
  simp only [update, mem_map, eq_comm]

theorem map_key_update (keeps : ∀ row, key (rewrite row) = key row) :
    (update key target rewrite rows).map key = rows.map key := by
  rw [update, map_map]
  apply map_congr_left
  intro row _
  by_cases same : key row = target <;> simp [same, keeps]

theorem lookup_mem (found : lookup key target rows = some row) : row ∈ rows :=
  mem_of_find?_eq_some found

theorem lookup_key (found : lookup key target rows = some row) : key row = target := by
  simpa using find?_some found

omit [DecidableEq κ] in
theorem eq_of_key_eq (distinct : (rows.map key).Nodup) {left right : ρ} (hleft : left ∈ rows)
    (hright : right ∈ rows) (same : key left = key right) : left = right :=
  inj_on_of_nodup_map distinct hleft hright same

omit [DecidableEq κ] in
theorem nodup_append (distinct : (rows.map key).Nodup) (fresh : key row ∉ rows.map key) :
    ((rows ++ [row]).map key).Nodup := by
  rw [List.map_append, List.map_singleton, List.nodup_append]
  refine ⟨distinct, by simp, ?_⟩
  intro present mem new single same
  rw [mem_singleton] at single
  exact fresh (single ▸ same ▸ mem)

variable {entry : ρ}

/-- After an entry a row is the new one, or an old one with another key. -/
theorem mem_put (mem : row ∈ put key rows entry) :
    row = entry ∨ row ∈ rows ∧ key row ≠ key entry := by
  unfold put at mem
  split at mem
  next =>
    obtain ⟨before, present, rfl⟩ := mem_update.mp mem
    split
    next => exact .inl rfl
    next other => exact .inr ⟨present, other⟩
  next absent =>
    rcases mem_append.mp mem with old | new
    · refine .inr ⟨old, ?_⟩
      intro same
      exact absent (any_eq_true.mpr ⟨row, old, decide_eq_true same⟩)
    · exact .inl (mem_singleton.mp new)

theorem mem_put_of_ne (mem : row ∈ rows) (other : key row ≠ key entry) :
    row ∈ put key rows entry := by
  unfold put
  split
  next => exact mem_update.mpr ⟨row, mem, by rw [if_neg other]⟩
  next => exact mem_append_left _ mem

theorem nodup_put (distinct : (rows.map key).Nodup) : ((put key rows entry).map key).Nodup := by
  unfold put
  split
  next =>
    have keys : (update key (key entry) (fun _ => entry) rows).map key = rows.map key := by
      rw [update, map_map]
      apply map_congr_left
      intro row _
      by_cases same : key row = key entry <;> simp [same]
    rwa [keys]
  next absent =>
    refine nodup_append distinct ?_
    intro known
    obtain ⟨other, mem, same⟩ := mem_map.mp known
    exact absent (any_eq_true.mpr ⟨other, mem, decide_eq_true same⟩)

theorem find?_of_member (distinct : (rows.map key).Nodup) (mem : row ∈ rows)
    (same : key row = target) : (rows.find? fun other => key other == target) = some row := by
  cases found : rows.find? fun other => key other == target with
  | none =>
      have absent := find?_eq_none.mp found row mem
      simp [same] at absent
  | some other =>
      have here : key other = target := by simpa using find?_some found
      rw [eq_of_key_eq distinct (mem_of_find?_eq_some found) mem (here.trans same.symm)]

/-- A look-up in rewritten rows, when the rewriting keeps the keys. -/
theorem lookup_map {f : ρ → ρ} (keeps : ∀ row, key (f row) = key row) :
    lookup key target (rows.map f) = (lookup key target rows).map f := by
  unfold lookup
  induction rows with
  | nil => rfl
  | cons first rest ih =>
      rw [map_cons, find?_cons, find?_cons, keeps]
      split
      · rfl
      · exact ih

theorem lookup_update (keeps : ∀ row, key (rewrite row) = key row) {found : κ} :
    lookup key found (update key target rewrite rows) =
      (lookup key found rows).map fun row => if key row = target then rewrite row else row := by
  refine lookup_map fun row => ?_
  split
  · exact keeps row
  · rfl

theorem lookup_append {more : List ρ} (found : lookup key target rows = some row) :
    lookup key target (rows ++ more) = some row := by
  rw [lookup, find?_append, show rows.find? _ = some row from found, Option.some_or]

variable {R : ρ → ρ → Prop}

/-- What is found in updated rows is what was there, or its new version. -/
theorem exists_lookup_update {found : κ} (keeps : ∀ row, key (rewrite row) = key row)
    (known : lookup key found rows = some row) (reflexive : R row row)
    (rewritten : key row = target → R row (rewrite row)) :
    ∃ later, lookup key found (update key target rewrite rows) = some later ∧ R row later := by
  rw [lookup_update keeps, known]
  refine ⟨if key row = target then rewrite row else row, rfl, ?_⟩
  split
  next same => exact rewritten same
  next => exact reflexive

section
variable (trans : ∀ {first second third : ρ}, R first second → R second third → R first third)
include trans

/-- Rows that are found again and again are found as what they have become. -/
theorem found_trans {ι : Type w} {first second third : ι → Option ρ}
    (left : ∀ id row, first id = some row → ∃ later, second id = some later ∧ R row later)
    (right : ∀ id row, second id = some row → ∃ later, third id = some later ∧ R row later)
    (id : ι) (row : ρ) (found : first id = some row) :
    ∃ later, third id = some later ∧ R row later := by
  obtain ⟨middle, present, before⟩ := left id row found
  obtain ⟨last, presentLast, after⟩ := right id middle present
  exact ⟨last, presentLast, trans before after⟩

theorem kept_trans {first second third : List ρ}
    (left : ∀ row ∈ first, ∃ later ∈ second, R row later)
    (right : ∀ row ∈ second, ∃ later ∈ third, R row later) :
    ∀ row ∈ first, ∃ later ∈ third, R row later := by
  intro row mem
  obtain ⟨middle, present, before⟩ := left row mem
  obtain ⟨last, presentLast, after⟩ := right middle present
  exact ⟨last, presentLast, trans before after⟩

end

/-- An entry is found under its key, and nothing changes under another. -/
theorem lookup_put :
    lookup key target (put key rows entry) =
      if key entry = target then some entry else lookup key target rows := by
  unfold put
  split
  next present =>
    unfold lookup update
    induction rows with
    | nil => simp at present
    | cons first rest ih =>
        rw [map_cons, find?_cons, find?_cons]
        by_cases same : key first = key entry
        · by_cases wanted : key entry = target
          · simp [same, wanted]
          · simp only [same, wanted, if_true, if_false, decide_false]
            by_cases later : rest.any (fun other => decide (key other = key entry)) = true
            · rw [ih later, if_neg wanted]
            · have none_ : ∀ row ∈ rest, (if key row = key entry then entry else row) = row := by
                intro row mem
                refine if_neg fun equal => later ?_
                exact any_eq_true.mpr ⟨row, mem, decide_eq_true equal⟩
              rw [map_congr_left none_, map_id']
        · have later : rest.any (fun other => decide (key other = key entry)) = true := by
            simpa [same] using present
          simp only [same, if_false]
          by_cases wanted : key first = target
          · simp only [wanted, decide_true]
            rw [if_neg]
            rintro rfl
            exact same wanted
          · simp only [wanted, decide_false]
            exact ih later
  next absent =>
    unfold lookup
    rw [find?_append]
    by_cases wanted : key entry = target
    · have missing : rows.find? (fun row => decide (key row = target)) = none := by
        rw [find?_eq_none]
        intro row mem found
        refine absent (any_eq_true.mpr ⟨row, mem, ?_⟩)
        simpa [wanted] using found
      simp [missing, wanted]
    · simp [wanted]

theorem lookup_of_member (distinct : (rows.map key).Nodup) (mem : row ∈ rows)
    (same : key row = target) : lookup key target rows = some row :=
  find?_of_member distinct mem same

theorem mem_of_ofEntries (mem : row ∈ ofEntries key rows) : row ∈ rows := by
  induction rows using List.reverseRecOn with
  | nil => exact mem
  | append_singleton others last ih =>
      rw [ofEntries, foldl_append] at mem
      rcases mem_put mem with rfl | old
      · exact mem_append_right _ mem_cons_self
      · exact mem_append_left _ (ih old.1)

theorem ofEntries_of_nodup (distinct : (rows.map key).Nodup) : ofEntries key rows = rows := by
  suffices entered : ∀ front : List ρ, ((front ++ rows).map key).Nodup →
      rows.foldl (put key) front = front ++ rows from entered [] distinct
  clear distinct
  induction rows with
  | nil => simp
  | cons row rest ih =>
      intro front distinct
      have absent : ¬ front.any (fun other => key other = key row) = true := by
        intro known
        obtain ⟨other, mem, same⟩ := any_eq_true.mp known
        rw [map_append, map_cons] at distinct
        have disjoint := (List.nodup_append.mp distinct).2.2 (key other)
          (mem_map_of_mem mem) (key row) mem_cons_self
        exact disjoint (by simpa using same)
      rw [foldl_cons, put, if_neg absent, ih (front ++ [row]) (by simpa using distinct),
        append_assoc, singleton_append]

/-- What finds a row finds it again once it is rewritten, if the rewriting does not matter to
the search. -/
theorem find?_update {holds : ρ → Bool} (keeps : ∀ row, holds (rewrite row) = holds row)
    (found : rows.find? holds = some row) :
    (update key (key row) rewrite rows).find? holds = some (rewrite row) := by
  induction rows with
  | nil => cases found
  | cons first rest ih =>
      rw [update, map_cons]
      cases here : holds first with
      | true =>
          rw [find?_cons, here] at found
          cases found
          rw [if_pos rfl, find?_cons, keeps, here]
      | false =>
          rw [find?_cons, here] at found
          have skipped : holds (if key first = key row then rewrite first else first) = false := by
            split
            next => rw [keeps, here]
            next => exact here
          rw [find?_cons, skipped]
          exact ih found

theorem forall_update {P : ρ → Prop} (every : ∀ row ∈ rows, P row)
    (rewritten : ∀ row ∈ rows, key row = target → P (rewrite row)) :
    ∀ row ∈ update key target rewrite rows, P row := by
  intro row mem
  obtain ⟨before, present, rfl⟩ := mem_update.mp mem
  split
  next same => exact rewritten before present same
  next => exact every before present

/-- Every row is still there, as itself or rewritten. -/
theorem exists_update (reflexive : ∀ row ∈ rows, R row row)
    (rewritten : ∀ row ∈ rows, key row = target → R row (rewrite row)) :
    ∀ row ∈ rows, ∃ after ∈ update key target rewrite rows, R row after := by
  intro row mem
  refine ⟨_, mem_update.mpr ⟨row, mem, rfl⟩, ?_⟩
  split
  next same => exact rewritten row mem same
  next => exact reflexive row mem

theorem UniqueBy.update {γ : Type w} {value : ρ → Option γ} (unique : UniqueBy key value rows)
    (keeps : ∀ row, key (rewrite row) = key row)
    (fresh : ∀ row ∈ rows, key row = target → value (rewrite row) = value row ∨
      ∀ other ∈ rows, key other ≠ target → ∀ x, value other = some x →
        value (rewrite row) ≠ some x) :
    UniqueBy key value (Table.update key target rewrite rows) := by
  have against : ∀ row ∈ rows, key row = target → ∀ other ∈ rows, key other ≠ target →
      ∀ x, value (rewrite row) = some x → value other = some x → key row = key other := by
    intro row mem same other otherMember different x carries otherCarries
    rcases fresh row mem same with kept | taken
    · exact unique row mem other otherMember x (kept ▸ carries) otherCarries
    · exact absurd carries (taken other otherMember different x otherCarries)
  intro left hleft right hright x leftCarries rightCarries
  obtain ⟨before, present, rfl⟩ := mem_update.mp hleft
  obtain ⟨before', present', rfl⟩ := mem_update.mp hright
  by_cases same : key before = target <;> by_cases same' : key before' = target
  · rw [if_pos same, if_pos same', keeps, keeps, same, same']
  · rw [if_pos same] at leftCarries ⊢
    rw [if_neg same'] at rightCarries ⊢
    rw [keeps]
    exact against before present same before' present' same' x leftCarries rightCarries
  · rw [if_neg same] at leftCarries ⊢
    rw [if_pos same'] at rightCarries ⊢
    rw [keeps]
    exact (against before' present' same' before present same x rightCarries leftCarries).symm
  · rw [if_neg same] at leftCarries ⊢
    rw [if_neg same'] at rightCarries ⊢
    exact unique before present before' present' x leftCarries rightCarries

/-! ## Ordered reads -/

section Ordered

variable {ο : Type w} [LinearOrder ο] {rank : ρ → ο}

/-- The first among the rows of the greatest rank. -/
def latest (rank : ρ → ο) : List ρ → Option ρ
  | [] => none
  | row :: rest =>
      match latest rank rest with
      | none => some row
      | some other => if rank row < rank other then some other else some row

theorem latest_mem (found : latest rank rows = some row) : row ∈ rows := by
  induction rows with
  | nil => cases found
  | cons first rest ih =>
      rw [latest] at found
      split at found
      next =>
        cases found
        exact mem_cons_self
      next other greatest =>
        split at found
        next =>
          cases found
          exact mem_cons_of_mem _ (ih greatest)
        next =>
          cases found
          exact mem_cons_self

theorem latest_none : latest rank rows = none ↔ rows = [] := by
  cases rows with
  | nil => simp [latest]
  | cons first rest =>
      rw [latest]
      split
      next => simp
      next => split <;> simp

theorem le_latest (found : latest rank rows = some row) {other : ρ} (mem : other ∈ rows) :
    rank other ≤ rank row := by
  induction rows generalizing row with
  | nil => cases mem
  | cons first rest ih =>
      rw [latest] at found
      split at found
      next none_ =>
        cases found
        rw [latest_none.mp none_] at mem
        rw [mem_singleton.mp mem]
      next greatest isGreatest =>
        split at found
        next less =>
          cases found
          rcases mem_cons.mp mem with rfl | later
          · exact le_of_lt less
          · exact ih isGreatest later
        next notLess =>
          cases found
          rcases mem_cons.mp mem with rfl | later
          · exact le_rfl
          · exact le_trans (ih isGreatest later) (not_lt.mp notLess)

theorem latest_append (greater : ∀ other ∈ rows, rank other < rank row) :
    latest rank (rows ++ [row]) = some row := by
  induction rows with
  | nil => rfl
  | cons first rest ih =>
      rw [cons_append, latest, ih fun other mem => greater other (mem_cons_of_mem _ mem)]
      exact if_pos (greater first mem_cons_self)

end Ordered

def firsts (key : ρ → κ) : List ρ → List ρ
  | [] => []
  | row :: rest => row :: (firsts key rest).filter fun other => key other ≠ key row

theorem firsts_subset (mem : row ∈ firsts key rows) : row ∈ rows := by
  induction rows with
  | nil => exact mem
  | cons first rest ih =>
      rw [firsts] at mem
      rcases mem_cons.mp mem with rfl | later
      · exact mem_cons_self
      · exact mem_cons_of_mem _ (ih (mem_filter.mp later).1)

theorem firsts_first (ordered : rows.Pairwise R) (mem : row ∈ firsts key rows) {other : ρ}
    (present : other ∈ rows) (same : key other = key row) : other = row ∨ R row other := by
  induction ordered with
  | nil => cases present
  | cons before _ ih =>
      rw [firsts] at mem
      rcases mem_cons.mp mem with rfl | later
      · rcases mem_cons.mp present with rfl | behind
        · exact .inl rfl
        · exact .inr (before other behind)
      · obtain ⟨kept, differs⟩ := mem_filter.mp later
        rcases mem_cons.mp present with rfl | behind
        · exact absurd same.symm (by simpa using differs)
        · exact ih kept behind

theorem exists_first (mem : row ∈ rows) : ∃ kept ∈ firsts key rows, key kept = key row := by
  induction rows with
  | nil => cases mem
  | cons first rest ih =>
      rw [firsts]
      by_cases same : key row = key first
      · exact ⟨first, mem_cons_self, same.symm⟩
      · rcases mem_cons.mp mem with rfl | later
        · exact absurd rfl same
        · obtain ⟨kept, present, sameKey⟩ := ih later
          exact ⟨kept, mem_cons_of_mem _ (mem_filter.mpr
            ⟨present, by simpa [sameKey] using same⟩), sameKey⟩

theorem firsts_sublist : (firsts key rows).Sublist rows := by
  induction rows with
  | nil => exact List.Sublist.refl _
  | cons first rest ih => exact (filter_sublist.trans ih).cons_cons first

theorem firsts_nodup : ((firsts key rows).map key).Nodup := by
  induction rows with
  | nil => exact nodup_nil
  | cons first rest ih =>
      rw [firsts, map_cons, nodup_cons]
      refine ⟨?_, (filter_sublist.map key).nodup ih⟩
      intro known
      obtain ⟨other, kept, same⟩ := mem_map.mp known
      exact absurd same (by simpa using (mem_filter.mp kept).2)

/-- Rows lose nothing exactly when their keys are distinct. -/
theorem firsts_eq_self : firsts key rows = rows ↔ (rows.map key).Nodup := by
  constructor
  · intro same
    have distinct : ((firsts key rows).map key).Nodup := firsts_nodup
    rwa [same] at distinct
  · intro distinct
    induction rows with
    | nil => rfl
    | cons first rest ih =>
        obtain ⟨fresh, others⟩ := nodup_cons.mp distinct
        rw [firsts, ih others, filter_eq_self.mpr]
        intro other mem
        have differs : key other ≠ key first := fun same =>
          fresh (same ▸ mem_map_of_mem mem)
        simpa using differs

end DContact.Lib.Table
