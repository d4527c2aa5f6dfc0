import Mathlib.Data.List.Perm.Basic

/-!
# JSON values

Plain JSON as `JSON.parse` returns it. Object fields keep their order; a field
that is absent reads as `none`, which is the host's `undefined`.
-/

namespace DContact.Lib

inductive Json where
  | null
  | bool (value : Bool)
  | num (value : Rat)
  | str (value : String)
  | arr (items : List Json)
  | obj (fields : List (String × Json))

namespace Json

/-- `object.name`, with `null` kept apart from an absent field. -/
def field (fields : List (String × Json)) (name : String) : Option Json :=
  (fields.find? fun entry => entry.1 == name).map Prod.snd

/-- `value ?? fallback`. -/
def orElse (value : Option Json) (fallback : Json) : Json :=
  match value with
  | none | some .null => fallback
  | some found => found

/-- The value of a number which `Number.isInteger` accepts. -/
def integer? : Json → Option Int
  | .num value => if value.den = 1 then some value.num else none
  | _ => none

def readFrom {ε α : Type} (read : Nat → Json → Except ε α) : Nat → List Json → Except ε (List α)
  | _, [] => .ok []
  | index, item :: rest =>
      match read index item with
      | .error failure => .error failure
      | .ok value =>
          match readFrom read (index + 1) rest with
          | .error failure => .error failure
          | .ok values => .ok (value :: values)

variable {ε α : Type} {read : Nat → Json → Except ε α} {index : Nat} {items : List Json}
  {values : List α}

/-- An element is read as a value at some index. -/
def Reads (read : Nat → Json → Except ε α) (item : Json) (value : α) : Prop :=
  ∃ index, read index item = .ok value

theorem forall₂_of_readFrom (ok : readFrom read index items = .ok values) :
    List.Forall₂ (Reads read) items values := by
  induction items generalizing index values with
  | nil =>
      cases ok
      exact .nil
  | cons item rest ih =>
      unfold readFrom at ok
      split at ok
      next => cases ok
      next value readValue =>
        split at ok
        next => cases ok
        next others readOthers =>
          cases ok
          exact .cons ⟨index, readValue⟩ (ih readOthers)

theorem readFrom_map {encode : α → Json}
    (back : ∀ value ∈ values, ∀ index, read index (encode value) = .ok value) :
    readFrom read index (values.map encode) = .ok values := by
  induction values generalizing index with
  | nil => rfl
  | cons value rest ih =>
      have tail : readFrom read (index + 1) (rest.map encode) = .ok rest :=
        ih fun other mem => back other (List.mem_cons_of_mem _ mem)
      simp only [List.map_cons, readFrom, back value List.mem_cons_self, tail]

theorem exists_reads (reads : List.Forall₂ (Reads read) items values) {value : α}
    (mem : value ∈ values) : ∃ item ∈ items, Reads read item value := by
  induction reads with
  | nil => cases mem
  | cons first _ ih =>
      rcases List.mem_cons.mp mem with rfl | later
      · exact ⟨_, List.mem_cons_self, first⟩
      · obtain ⟨item, inside, reads⟩ := ih later
        exact ⟨item, List.mem_cons_of_mem _ inside, reads⟩

section

variable {related : Json → Json → Prop} {middle others : List Json} {otherValues : List α}
  {otherIndex : Nat}
  (congr : ∀ {left right value other}, related left right → Reads read left value →
    Reads read right other → value = other)
include congr

theorem reads_unique (alike : List.Forall₂ related items others)
    (reads : List.Forall₂ (Reads read) items values)
    (otherReads : List.Forall₂ (Reads read) others otherValues) : values = otherValues := by
  induction alike generalizing values otherValues with
  | nil =>
      cases reads
      cases otherReads
      rfl
  | cons same _ ih =>
      rcases reads with - | ⟨first, rest⟩
      rcases otherReads with - | ⟨otherFirst, otherRest⟩
      rw [congr same first otherFirst, ih rest otherRest]

/-- Related elements in any order are read as the same values in some order. -/
theorem readFrom_perm (moved : items.Perm middle) (alike : List.Forall₂ related middle others)
    (ok : readFrom read index items = .ok values)
    (otherOk : readFrom read otherIndex others = .ok otherValues) :
    values.Perm otherValues := by
  obtain ⟨between, reads, shuffled⟩ :=
    List.perm_comp_forall₂ moved.symm (forall₂_of_readFrom ok)
  rw [← reads_unique congr alike reads (forall₂_of_readFrom otherOk)]
  exact shuffled.symm

end

end Json

end DContact.Lib
