import DContact.Lib.Json
import DContact.Lib.Table
import DContact.Lib.Text

/-!
# JSON objects

Objects as the host builds them: a later entry overwrites an earlier one of the same name, and
names that are array indices come first, in numeric order. The canonical form of a value sorts
the names of every object. It is the same for two objects that hold the same fields.
-/

namespace DContact.Lib.Json

open List

/-- The own property of a value; only objects have any that are read by name here. -/
def get? (value : Json) (name : String) : Option Json :=
  match value with
  | .obj fields => field fields name
  | _ => none

theorem field_eq_lookup (fields : List (String × Json)) (name : String) :
    field fields name = (Table.lookup Prod.fst name fields).map Prod.snd := rfl

variable {fields : List (String × Json)} {name : String} {value : Json}

theorem mem_of_field (found : field fields name = some value) : (name, value) ∈ fields := by
  rw [field_eq_lookup] at found
  obtain ⟨⟨key, entry⟩, hit, rfl⟩ := Option.map_eq_some_iff.mp found
  have same : key = name := Table.lookup_key hit
  exact same ▸ Table.lookup_mem hit

theorem field_of_mem (distinct : (fields.map Prod.fst).Nodup) (mem : (name, value) ∈ fields) :
    field fields name = some value := by
  rw [field_eq_lookup, Table.lookup_of_member distinct mem rfl]
  rfl

theorem field_eq_none : field fields name = none ↔ name ∉ fields.map Prod.fst := by
  rw [field, Option.map_eq_none_iff, find?_eq_none]
  constructor
  · intro absent mem
    obtain ⟨entry, inside, same⟩ := mem_map.mp mem
    exact absent entry inside (by simpa using same)
  · intro absent entry inside same
    exact absent (mem_map.mpr ⟨entry, inside, by simpa using same⟩)

/-- With distinct names the order of the fields does not matter to a reader. -/
theorem field_of_perm {left right : List (String × Json)} (same : left.Perm right)
    (distinct : (left.map Prod.fst).Nodup) (name : String) : field left name = field right name := by
  have distinctRight : (right.map Prod.fst).Nodup := (same.map _).nodup_iff.mp distinct
  cases found : field right name with
  | none =>
      rw [field_eq_none] at found ⊢
      exact fun mem => found ((same.map _).mem_iff.mp mem)
  | some value => exact field_of_mem distinct (same.mem_iff.mpr (mem_of_field found))

def arrayIndex? (name : String) : Option Nat :=
  let digits := name.toList
  let value := digits.foldl (fun value digit => 10 * value + (digit.toNat - '0'.toNat)) 0
  if digits ≠ [] ∧ digits.all Char.isDigit = true ∧
      (digits.head? = some '0' → digits.length = 1) ∧ value < 4294967295 then
    some value
  else none

/-- The order in which the host lists own properties. -/
def propertyOrder (fields : List (String × Json)) : List (String × Json) :=
  (fields.filter fun entry => (arrayIndex? entry.1).isSome).insertionSort
      (fun left right => (arrayIndex? left.1).getD 0 ≤ (arrayIndex? right.1).getD 0) ++
    fields.filter fun entry => !(arrayIndex? entry.1).isSome

theorem propertyOrder_perm (fields : List (String × Json)) :
    (propertyOrder fields).Perm fields :=
  ((perm_insertionSort _ _).append_right _).trans (filter_append_perm _ fields)

theorem propertyOrder_nodup
    (distinct : (fields.map Prod.fst).Nodup) : ((propertyOrder fields).map Prod.fst).Nodup :=
  ((propertyOrder_perm fields).map _).nodup_iff.mpr distinct

/-- `Object.fromEntries`, and an object literal with spreads. -/
def objectOf (entries : List (String × Json)) : Json :=
  .obj (propertyOrder (Table.ofEntries Prod.fst entries))

theorem ofEntries_nodup (entries : List (String × Json)) :
    ((Table.ofEntries Prod.fst entries).map Prod.fst).Nodup := by
  suffices entered : ∀ front : List (String × Json), (front.map Prod.fst).Nodup →
      ((entries.foldl (Table.put Prod.fst) front).map Prod.fst).Nodup from entered [] nodup_nil
  induction entries with
  | nil => exact fun front distinct => distinct
  | cons entry rest ih => exact fun front distinct => ih _ (Table.nodup_put distinct)

theorem get?_objectOf (entries : List (String × Json)) (name : String) :
    (objectOf entries).get? name = field (Table.ofEntries Prod.fst entries) name :=
  field_of_perm (propertyOrder_perm _) (propertyOrder_nodup (ofEntries_nodup entries)) name

variable {entries : List (String × Json)}

/-- The last entry of a name counts. -/
theorem get?_objectOf_append (front back : List (String × Json)) (name : String) :
    (objectOf (front ++ back)).get? name =
      ((objectOf back).get? name).or ((objectOf front).get? name) := by
  simp only [get?_objectOf, field_eq_lookup]
  rw [Table.ofEntries, foldl_append]
  induction back using List.reverseRecOn with
  | nil => rfl
  | append_singleton others entry ih =>
      simp only [Table.ofEntries, foldl_append, foldl_cons, foldl_nil, Table.lookup_put] at ih ⊢
      split
      · rfl
      · exact ih

theorem get?_objectOf_of_nodup (distinct : (entries.map Prod.fst).Nodup) (name : String) :
    (objectOf entries).get? name = field entries name := by
  rw [get?_objectOf, Table.ofEntries_of_nodup distinct]

theorem get?_objectOf_eq_none
    (absent : name ∉ entries.map Prod.fst) : (objectOf entries).get? name = none := by
  rw [get?_objectOf, field_eq_none]
  suffices entered : ∀ front : List (String × Json), name ∉ front.map Prod.fst →
      name ∉ (entries.foldl (Table.put Prod.fst) front).map Prod.fst from
    entered [] (by simp)
  induction entries with
  | nil => exact fun front missing => missing
  | cons entry rest ih =>
      intro front missing
      have others : name ∉ rest.map Prod.fst := fun mem => absent (mem_cons_of_mem _ mem)
      refine ih others _ ?_
      intro mem
      obtain ⟨found, inside, rfl⟩ := mem_map.mp mem
      rcases Table.mem_put inside with rfl | old
      · exact absent mem_cons_self
      · exact missing (mem_map_of_mem old.1)

mutual

/-- The names of every object sorted, and the elements of an array in their order. -/
def canonicalize : Json → Json
  | .arr items => .arr (canonicalizeItems items)
  | .obj fields =>
      objectOf (Text.sortBy Prod.fst (Table.ofEntries Prod.fst (canonicalizeFields fields)))
  | .null => .null
  | .bool value => .bool value
  | .num value => .num value
  | .str value => .str value

def canonicalizeItems : List Json → List Json
  | [] => []
  | item :: rest => canonicalize item :: canonicalizeItems rest

def canonicalizeFields : List (String × Json) → List (String × Json)
  | [] => []
  | entry :: rest => canonicalizeEntry entry :: canonicalizeFields rest

def canonicalizeEntry : String × Json → String × Json
  | (name, value) => (name, canonicalize value)

end

theorem canonicalizeItems_eq (items : List Json) :
    canonicalizeItems items = items.map canonicalize := by
  induction items with
  | nil => rfl
  | cons item rest ih => rw [canonicalizeItems, ih, map_cons]

theorem canonicalizeFields_eq (fields : List (String × Json)) :
    canonicalizeFields fields = fields.map canonicalizeEntry := by
  induction fields with
  | nil => rfl
  | cons entry rest ih => rw [canonicalizeFields, ih, map_cons]

theorem canonicalizeEntry_name (entry : String × Json) : (canonicalizeEntry entry).1 = entry.1 := by
  obtain ⟨name, value⟩ := entry
  rw [canonicalizeEntry]

theorem canonicalizeEntry_value (entry : String × Json) :
    (canonicalizeEntry entry).2 = canonicalize entry.2 := by
  obtain ⟨name, value⟩ := entry
  rw [canonicalizeEntry]

theorem canonicalizeFields_names (fields : List (String × Json)) :
    (canonicalizeFields fields).map Prod.fst = fields.map Prod.fst := by
  rw [canonicalizeFields_eq, map_map]
  exact map_congr_left fun entry _ => canonicalizeEntry_name entry

theorem sorted_names (distinct : (fields.map Prod.fst).Nodup) :
    ((Text.sortBy Prod.fst fields).map Prod.fst).Nodup :=
  ((Text.sortBy_perm _ _).map _).nodup_iff.mpr distinct

theorem canonicalize_obj (distinct : (fields.map Prod.fst).Nodup) : canonicalize (.obj fields) =
      .obj (propertyOrder (Text.sortBy Prod.fst (canonicalizeFields fields))) := by
  have kept : ((canonicalizeFields fields).map Prod.fst).Nodup :=
    canonicalizeFields_names fields ▸ distinct
  rw [canonicalize, Table.ofEntries_of_nodup kept, objectOf,
    Table.ofEntries_of_nodup (sorted_names kept)]

theorem get?_canonicalize (distinct : (fields.map Prod.fst).Nodup) (name : String) :
    (canonicalize (.obj fields)).get? name = (field fields name).map canonicalize := by
  have sorted : ((Text.sortBy Prod.fst (canonicalizeFields fields)).map Prod.fst).Nodup :=
    sorted_names (canonicalizeFields_names fields ▸ distinct)
  have shuffled : (propertyOrder (Text.sortBy Prod.fst (canonicalizeFields fields))).Perm
      (canonicalizeFields fields) :=
    (propertyOrder_perm _).trans (Text.sortBy_perm _ _)
  rw [canonicalize_obj distinct]
  show field _ name = _
  rw [field_of_perm shuffled (propertyOrder_nodup sorted) name, canonicalizeFields_eq,
    field_eq_lookup, field_eq_lookup]
  have mapped : Table.lookup Prod.fst name (fields.map canonicalizeEntry) =
      (Table.lookup Prod.fst name fields).map canonicalizeEntry :=
    Table.lookup_map canonicalizeEntry_name
  rw [mapped, Option.map_map, Option.map_map]
  refine congrArg (Option.map · _) (funext fun entry => ?_)
  exact canonicalizeEntry_value entry

theorem get?_canonicalize_objectOf (entries : List (String × Json)) (name : String) :
    (canonicalize (objectOf entries)).get? name = ((objectOf entries).get? name).map canonicalize :=
  get?_canonicalize (propertyOrder_nodup (ofEntries_nodup entries)) name

/-- An object of canonical values with sorted names is canonical. -/
theorem canonicalize_objectOf_sorted (fixed : ∀ entry ∈ fields, canonicalizeEntry entry = entry) :
    canonicalize (objectOf (Text.sortBy Prod.fst (Table.ofEntries Prod.fst fields))) =
      objectOf (Text.sortBy Prod.fst (Table.ofEntries Prod.fst fields)) := by
  have entered := ofEntries_nodup fields
  have sorted := sorted_names entered
  rw [objectOf, Table.ofEntries_of_nodup sorted, canonicalize_obj (propertyOrder_nodup sorted)]
  have shuffled : (propertyOrder (Text.sortBy Prod.fst (Table.ofEntries Prod.fst fields))).Perm
      (Table.ofEntries Prod.fst fields) :=
    (propertyOrder_perm _).trans (Text.sortBy_perm _ _)
  have kept : canonicalizeFields (propertyOrder (Text.sortBy Prod.fst
      (Table.ofEntries Prod.fst fields))) =
        propertyOrder (Text.sortBy Prod.fst (Table.ofEntries Prod.fst fields)) := by
    rw [canonicalizeFields_eq]
    refine (map_congr_left fun entry mem => ?_).trans (map_id _)
    exact fixed entry (Table.mem_of_ofEntries (shuffled.mem_iff.mp mem))
  rw [kept, Text.sortBy_eq_of_perm shuffled (propertyOrder_nodup sorted)]

mutual

theorem canonicalize_idem : (value : Json) → canonicalize (canonicalize value) = canonicalize value
  | .arr items => by
      rw [canonicalize, canonicalize, canonicalizeItems_idem items]
  | .obj fields => by
      have fixed : ∀ entry ∈ canonicalizeFields fields, canonicalizeEntry entry = entry := by
        have again := canonicalizeFields_idem fields
        rw [canonicalizeFields_eq (canonicalizeFields fields)] at again
        exact map_eq_map_iff.mp (again.trans (map_id' _).symm)
      rw [canonicalize, canonicalize_objectOf_sorted fixed]
  | .null | .bool _ | .num _ | .str _ => by rw [canonicalize, canonicalize]

theorem canonicalizeItems_idem : (items : List Json) →
    canonicalizeItems (canonicalizeItems items) = canonicalizeItems items
  | [] => rfl
  | item :: rest => by
      rw [canonicalizeItems, canonicalizeItems, canonicalize_idem item, canonicalizeItems_idem rest]

theorem canonicalizeFields_idem : (fields : List (String × Json)) →
    canonicalizeFields (canonicalizeFields fields) = canonicalizeFields fields
  | [] => rfl
  | entry :: rest => by
      rw [canonicalizeFields, canonicalizeFields, canonicalizeEntry_idem entry,
        canonicalizeFields_idem rest]

theorem canonicalizeEntry_idem : (entry : String × Json) →
    canonicalizeEntry (canonicalizeEntry entry) = canonicalizeEntry entry
  | (name, value) => by
      rw [canonicalizeEntry, canonicalizeEntry, canonicalize_idem value]

end

def hexDigit (digit : Nat) : Char :=
  Char.ofNat (if digit < 10 then '0'.toNat + digit else 'a'.toNat + (digit - 10))

/-- A character as `JSON.stringify` writes it within a text. -/
def escape (character : Char) : String :=
  let code := character.toNat
  if character = '"' then "\\\""
  else if character = '\\' then "\\\\"
  else if code = 8 then "\\b"
  else if code = 9 then "\\t"
  else if code = 10 then "\\n"
  else if code = 12 then "\\f"
  else if code = 13 then "\\r"
  else if code < 32 then
    String.ofList ['\\', 'u', '0', '0', hexDigit (code / 16), hexDigit (code % 16)]
  else String.singleton character

def quote (text : String) : String := "\"" ++ String.join (text.toList.map escape) ++ "\""

section
variable (numberText : Rat → String)

mutual

/-- `JSON.stringify`, with the host's text of a number. -/
def stringify : Json → String
  | .null => "null"
  | .bool value => if value then "true" else "false"
  | .num value => numberText value
  | .str value => quote value
  | .arr items => "[" ++ String.intercalate "," (stringifyItems items) ++ "]"
  | .obj fields => "\x7b" ++ String.intercalate "," (stringifyFields fields) ++ "\x7d"

def stringifyItems : List Json → List String
  | [] => []
  | item :: rest => stringify item :: stringifyItems rest

def stringifyFields : List (String × Json) → List String
  | [] => []
  | entry :: rest => stringifyEntry entry :: stringifyFields rest

def stringifyEntry : String × Json → String
  | (name, value) => quote name ++ ":" ++ stringify value

end

end

end DContact.Lib.Json
