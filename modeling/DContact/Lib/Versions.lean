import Mathlib.Data.List.Nodup

/-!
# Row versions

A transaction keeps new versions of the rows that it has written, one for each key, and sees them in
the place of the rows that everybody else sees. A later version of a row replaces an earlier one of
the same transaction; a commit makes the versions the rows.
-/

namespace DContact.Lib.Versions

open List

universe u v

variable {ρ : Type u} {κ : Type v} [DecidableEq κ]

def Covers (key : ρ → κ) (versions : List ρ) (row : ρ) : Prop :=
  ∃ version ∈ versions, key version = key row

instance (key : ρ → κ) (versions : List ρ) (row : ρ) : Decidable (Covers key versions row) := by
  unfold Covers
  infer_instance

def overlay (key : ρ → κ) (versions rows : List ρ) : List ρ :=
  (rows.filter fun row => !decide (Covers key versions row)) ++ versions

variable {key : ρ → κ} {versions rows : List ρ} {row version : ρ}

theorem mem_overlay :
    row ∈ overlay key versions rows ↔
      row ∈ versions ∨ (row ∈ rows ∧ ¬ Covers key versions row) := by
  simp only [overlay, mem_append, mem_filter, Bool.not_eq_true', decide_eq_false_iff_not]
  exact Or.comm

@[simp] theorem overlay_nil : overlay key [] rows = rows := by
  simp [overlay, Covers]

omit [DecidableEq κ] in

omit [DecidableEq κ] in
theorem Covers.congr {other : ρ} (covers : Covers key versions row) (same : key row = key other) :
    Covers key versions other := by
  obtain ⟨version, mem, equal⟩ := covers
  exact ⟨version, mem, equal.trans same⟩

/-- One more version: the rows seen are the new one and those with other keys. -/
theorem mem_overlay_write :
    row ∈ overlay key (overlay key [version] versions) rows ↔
      row = version ∨ (row ∈ overlay key versions rows ∧ key row ≠ key version) := by
  simp only [mem_overlay, Covers, mem_singleton, exists_eq_left]
  constructor
  · rintro ((rfl | ⟨mem, other⟩) | ⟨mem, apart⟩)
    · exact .inl rfl
    · exact .inr ⟨.inl mem, Ne.symm other⟩
    · refine .inr ⟨.inr ⟨mem, ?_⟩, fun same => apart ⟨version, .inl rfl, same.symm⟩⟩
      rintro ⟨earlier, inside, same⟩
      by_cases equal : key version = key earlier
      · exact apart ⟨version, .inl rfl, equal.trans same⟩
      · exact apart ⟨earlier, .inr ⟨inside, equal⟩, same⟩
  · rintro (rfl | ⟨mem | ⟨mem, apart⟩, other⟩)
    · exact .inl (.inl rfl)
    · exact .inl (.inr ⟨mem, Ne.symm other⟩)
    · refine .inr ⟨mem, ?_⟩
      rintro ⟨later, rfl | ⟨inside, -⟩, same⟩
      · exact other same.symm
      · exact apart ⟨later, inside, same⟩

theorem covers_write {target : ρ} :
    Covers key (overlay key [version] versions) target ↔
      key version = key target ∨ Covers key versions target := by
  simp only [Covers, mem_overlay, mem_singleton, exists_eq_left]
  constructor
  · rintro ⟨other, rfl | ⟨mem, -⟩, same⟩
    · exact .inl same
    · exact .inr ⟨other, mem, same⟩
  · rintro (same | ⟨other, mem, same⟩)
    · exact ⟨version, .inl rfl, same⟩
    · by_cases equal : key version = key other
      · exact ⟨version, .inl rfl, equal.trans same⟩
      · exact ⟨other, .inr ⟨mem, equal⟩, same⟩

theorem nodup_overlay (own : (versions.map key).Nodup) (distinct : (rows.map key).Nodup) :
    ((overlay key versions rows).map key).Nodup := by
  rw [overlay, map_append, nodup_append]
  refine ⟨distinct.sublist (filter_sublist.map key), own, ?_⟩
  intro old oldMember new newMember same
  obtain ⟨row, inside, rfl⟩ := mem_map.mp oldMember
  obtain ⟨version, mem, rfl⟩ := mem_map.mp newMember
  obtain ⟨-, uncovered⟩ := mem_filter.mp inside
  simp only [Bool.not_eq_true', decide_eq_false_iff_not] at uncovered
  exact uncovered ⟨version, mem, same.symm⟩

theorem nodup_write (distinct : (versions.map key).Nodup) :
    ((overlay key [version] versions).map key).Nodup :=
  nodup_overlay (nodup_singleton _) distinct

end DContact.Lib.Versions
