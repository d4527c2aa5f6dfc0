import DContact.Governance.PolicyScope

/-!
# Building scope keys

The builder trims the value of a dimension and refuses what a key could not hold. The parser
takes a value as it stands, so it reads keys that the builder never writes.
-/

namespace DContact.Governance

open Lib List

/-- What a key can hold as the value of a dimension. -/
def Admissible (value : String) : Prop :=
  value ≠ "" ∧ value ≠ "*" ∧ '|' ∉ value.toList ∧ '=' ∉ value.toList

instance decidableAdmissible (value : String) : Decidable (Admissible value) :=
  inferInstanceAs (Decidable (_ ∧ _))

def scopeValue (dimension : ScopeDimension) : Option String → Except ContentError String
  | none => .ok "*"
  | some value =>
      if Admissible (Text.trim value) then .ok (Text.trim value)
      else scopeInvalid ("scope dimension " ++ dimension.text ++ " มีค่าที่ไม่ canonical")

def buildCg4PolicyScopeKey (dimensions : ScopeDimensions) : Except ContentError String := do
  let parts ← readAll (fun dimension => do
    let value ← scopeValue dimension (dimensions dimension)
    .ok (dimension.text ++ "=" ++ value)) scopeDimensions
  .ok (String.intercalate "|" parts)

/-- The dimensions as the builder writes them. -/
def ScopeDimensions.normalized (dimensions : ScopeDimensions) : ScopeDimensions :=
  fun dimension => (dimensions dimension).map Text.trim

/-- What a key says of one dimension. -/
def partOf (dimensions : ScopeDimensions) (dimension : ScopeDimension) : String :=
  dimension.text ++ "=" ++ (dimensions dimension).getD "*"

/-- The key of values that are taken as they are. -/
def scopeKeyOf (dimensions : ScopeDimensions) : String :=
  String.intercalate "|" (scopeDimensions.map (partOf dimensions))

variable {dimensions : ScopeDimensions} {scopeKey : String} {dimension : ScopeDimension}

theorem scopeValue_ok {raw : Option String} {value : String} :
    scopeValue dimension raw = .ok value ↔ value = (raw.map Text.trim).getD "*" ∧
      ∀ bound, raw = some bound → Admissible (Text.trim bound) := by
  cases raw with
  | none => simp [scopeValue, eq_comm]
  | some bound =>
      unfold scopeValue
      by_cases holds : Admissible (Text.trim bound)
      · simp [holds, eq_comm]
      · simp [scopeInvalid, holds]

theorem build_ok : buildCg4PolicyScopeKey dimensions = .ok scopeKey ↔
    scopeKey = scopeKeyOf dimensions.normalized ∧
      ∀ dimension value, dimensions dimension = some value → Admissible (Text.trim value) := by
  simp only [buildCg4PolicyScopeKey, scopeDimensions, readAll, bind_ok_iff, scopeValue_ok]
  constructor
  · rintro ⟨_, ⟨_, ⟨_, ⟨rfl, channel⟩, ⟨⟩⟩, _, ⟨_, ⟨_, ⟨rfl, kind⟩, ⟨⟩⟩, _,
      ⟨_, ⟨_, ⟨rfl, purpose⟩, ⟨⟩⟩, _, ⟨_, ⟨_, ⟨rfl, source⟩, ⟨⟩⟩, _, ⟨⟩, ⟨⟩⟩, ⟨⟩⟩, ⟨⟩⟩, ⟨⟩⟩, ⟨⟩⟩
    refine ⟨rfl, fun dimension => ?_⟩
    cases dimension with
    | channel => exact channel
    | contactKind => exact kind
    | purpose => exact purpose
    | sourceType => exact source
  · rintro ⟨rfl, admissible⟩
    exact ⟨_, ⟨_, ⟨_, ⟨rfl, admissible _⟩, rfl⟩, _, ⟨_, ⟨_, ⟨rfl, admissible _⟩, rfl⟩, _,
      ⟨_, ⟨_, ⟨rfl, admissible _⟩, rfl⟩, _, ⟨_, ⟨_, ⟨rfl, admissible _⟩, rfl⟩, _, rfl, rfl⟩, rfl⟩,
      rfl⟩, rfl⟩, rfl⟩

/-- No dimension's name holds an `=`. -/
theorem name_before (expected : ScopeDimension) :
    ∀ character ∈ expected.text.toList, (character != '=') = true :=
  all_eq_true.mp (by cases expected <;> decide)

/-- What a part says after its first `=`. -/
theorem part_rest (expected : ScopeDimension) (value : String) :
    (expected.text ++ "=" ++ value).toList.takeWhile (· != '=') = expected.text.toList ∧
      (expected.text ++ "=" ++ value).toList.dropWhile (· != '=') = '=' :: value.toList := by
  have text : (expected.text ++ "=" ++ value).toList =
      expected.text.toList ++ '=' :: value.toList := by simp
  rw [text, takeWhile_append_of_pos (name_before expected),
    dropWhile_append_of_pos (name_before expected)]
  simp

theorem scopePart_ok {expected : ScopeDimension} {part : String} {value : Option String} :
    scopePart expected part = .ok value ↔ part = expected.text ++ "=" ++ value.getD "*" ∧
      value ≠ some "" ∧ value ≠ some "*" := by
  unfold scopePart
  constructor
  · intro ok
    have whole := takeWhile_append_dropWhile (p := (· != '=')) (l := part.toList)
    have head := head?_dropWhile_not (· != '=') part.toList
    split at ok
    next => cases ok
    next first rest found =>
      split at ok
      next => cases ok
      next named =>
        rw [not_or, not_not] at named
        obtain ⟨name, visible⟩ := named
        rw [found] at whole head
        have isEquals : first = '=' := by simpa using head
        have text : part = expected.text ++ "=" ++ String.ofList rest := by
          rw [← String.toList_inj, ← whole, ← name, isEquals]
          simp
        cases ok
        split
        next star => exact ⟨by rw [text, star]; rfl, nofun, nofun⟩
        next other =>
          refine ⟨text, ?_, ?_⟩
          · simpa using visible
          · intro same
            have := congrArg String.toList (Option.some.inj same)
            exact other (by simpa using this)
  · rintro ⟨rfl, visible, bound⟩
    rw [(part_rest expected _).1, (part_rest expected _).2]
    cases value with
    | none => simp
    | some value => 
        have some_ : value ≠ "" := fun same => visible (by rw [same])
        have other : value.toList ≠ ['*'] := fun same =>
          bound (by rw [← String.ofList_toList (s := value), same])
        simp [some_, other]

theorem bar_not_mem_part :
    '|' ∉ (partOf dimensions dimension).toList ↔
      ∀ value, dimensions dimension = some value → '|' ∉ value.toList := by
  have name : '|' ∉ dimension.text.toList := by cases dimension <;> decide
  cases bound : dimensions dimension with
  | none | some value => simp [partOf, bound, name]

/-- What the parser asks of values. -/
def Readable (dimensions : ScopeDimensions) : Prop :=
  ∀ dimension value, dimensions dimension = some value →
    value ≠ "" ∧ value ≠ "*" ∧ '|' ∉ value.toList

theorem split_scopeKeyOf (held : Readable dimensions) :
    Text.split (scopeKeyOf dimensions) '|' = scopeDimensions.map (partOf dimensions) := by
  refine Text.split_intercalate (fun part mem => ?_) (cons_ne_nil _ _)
  obtain ⟨dimension, -, rfl⟩ := mem_map.mp mem
  exact bar_not_mem_part.mpr fun value bound => (held dimension value bound).2.2

theorem parse_ok : parseCg4PolicyScopeKey scopeKey = .ok dimensions ↔
    scopeKey = scopeKeyOf dimensions ∧ Readable dimensions := by
  constructor
  · intro parsed
    unfold parseCg4PolicyScopeKey at parsed
    split at parsed
    next channelPart kindPart purposePart sourcePart pieces =>
      have parts : ∀ dimension, ∃ piece ∈ Text.split scopeKey '|',
          scopePart dimension piece = .ok (dimensions dimension) := by
        simp only [bind_ok_iff] at parsed
        obtain ⟨channel, channelOk, kind, kindOk, purpose, purposeOk, source, sourceOk, ⟨⟩⟩ := parsed
        rw [pieces]
        intro dimension
        cases dimension with
        | channel => exact ⟨_, by simp, channelOk⟩
        | contactKind => exact ⟨_, by simp, kindOk⟩
        | purpose => exact ⟨_, by simp, purposeOk⟩
        | sourceType => exact ⟨_, by simp, sourceOk⟩
      constructor
      · have whole : String.intercalate "|" (Text.split scopeKey '|') = scopeKey :=
          Text.intercalate_split
        simp only [bind_ok_iff, scopePart_ok] at parsed
        obtain ⟨channel, ⟨rfl, -⟩, kind, ⟨rfl, -⟩, purpose, ⟨rfl, -⟩, source, ⟨rfl, -⟩, ⟨⟩⟩ := parsed
        rw [← whole, pieces]
        rfl
      · intro dimension value bound
        obtain ⟨piece, mem, ok⟩ := parts dimension
        obtain ⟨rfl, visible, bounded⟩ := scopePart_ok.mp ok
        rw [bound] at visible bounded
        have single := bar_not_mem_part.mp (Text.not_mem_split mem) value bound
        exact ⟨fun same => visible (same ▸ rfl), fun same => bounded (same ▸ rfl), single⟩
    next => cases parsed
  · rintro ⟨rfl, held⟩
    have part (dimension : ScopeDimension) :
        scopePart dimension (partOf dimensions dimension) = .ok (dimensions dimension) :=
      scopePart_ok.mpr ⟨rfl, fun bound => (held dimension _ bound).1 rfl,
        fun bound => (held dimension _ bound).2.1 rfl⟩
    simp only [parseCg4PolicyScopeKey, split_scopeKeyOf held, scopeDimensions, map_cons,
      map_nil, part, bind, Except.bind]
    congr 1
    funext dimension
    cases dimension <;> rfl
/-- A built key is read back as it was built. -/
theorem parse_build (built : buildCg4PolicyScopeKey dimensions = .ok scopeKey) :
    parseCg4PolicyScopeKey scopeKey = .ok dimensions.normalized := by
  obtain ⟨rfl, admissible⟩ := build_ok.mp built
  refine parse_ok.mpr ⟨rfl, fun dimension value bound => ?_⟩
  obtain ⟨raw, found, rfl⟩ := Option.map_eq_some_iff.mp bound
  obtain ⟨visible, bounded, single, -⟩ := admissible dimension raw found
  exact ⟨visible, bounded, single⟩

/-- What stands in a part after its first `=`. -/
def partValue (part : String) : String := String.ofList (part.toList.dropWhile (· != '=')).tail

/-- Every value in a key is its own trim and holds no `=`. -/
def ValuesClean (scopeKey : String) : Prop :=
  ∀ part ∈ Text.split scopeKey '|',
    Text.trim (partValue part) = partValue part ∧ '=' ∉ (partValue part).toList

theorem valuesClean_iff (parsed : parseCg4PolicyScopeKey scopeKey = .ok dimensions) :
    ValuesClean scopeKey ↔ ∀ dimension value, dimensions dimension = some value →
      Text.trim value = value ∧ '=' ∉ value.toList := by
  obtain ⟨rfl, held⟩ := parse_ok.mp parsed
  have value (dimension : ScopeDimension) :
      partValue (partOf dimensions dimension) = (dimensions dimension).getD "*" := by
    rw [partValue, partOf, (part_rest dimension _).2, tail_cons, String.ofList_toList]
  have all (dimension : ScopeDimension) : dimension ∈ scopeDimensions := by
    cases dimension <;> simp [scopeDimensions]
  rw [ValuesClean, split_scopeKeyOf held]
  constructor
  · intro clean dimension bound found
    have here := clean _ (mem_map_of_mem (all dimension))
    rwa [value, found] at here
  · intro clean part mem
    obtain ⟨dimension, -, rfl⟩ := mem_map.mp mem
    rw [value]
    cases found : dimensions dimension with
    | none => decide
    | some bound => exact clean dimension bound found

/-- A built key is read back as the dimensions it was built from, trimmed. A key that is read
is built again from what was read exactly if its values are clean. -/
theorem scope_keys_round_trip (dimensions : ScopeDimensions) (scopeKey : String) :
    (buildCg4PolicyScopeKey dimensions = .ok scopeKey →
      parseCg4PolicyScopeKey scopeKey = .ok dimensions.normalized) ∧
    (parseCg4PolicyScopeKey scopeKey = .ok dimensions →
      (buildCg4PolicyScopeKey dimensions = .ok scopeKey ↔ ValuesClean scopeKey)) := by
  refine ⟨parse_build, fun parsed => ?_⟩
  rw [valuesClean_iff parsed]
  constructor
  · intro built dimension value bound
    have equal : dimensions = dimensions.normalized :=
      Except.ok.inj (parsed.symm.trans (parse_build built))
    have trimmed : Text.trim value = value := by
      have here := congrFun equal dimension
      rw [ScopeDimensions.normalized, bound, Option.map_some, Option.some.injEq] at here
      exact here.symm
    exact ⟨trimmed, trimmed ▸ ((build_ok.mp built).2 dimension value bound).2.2.2⟩
  · intro clean
    obtain ⟨rfl, held⟩ := parse_ok.mp parsed
    have equal : dimensions.normalized = dimensions := by
      funext dimension
      cases bound : dimensions dimension with
      | none => rw [ScopeDimensions.normalized, bound, Option.map_none]
      | some value =>
          rw [ScopeDimensions.normalized, bound, Option.map_some, (clean dimension value bound).1]
    refine build_ok.mpr ⟨by rw [equal], fun dimension value bound => ?_⟩
    obtain ⟨visible, bounded, single⟩ := held dimension value bound
    obtain ⟨trimmed, unequal⟩ := clean dimension value bound
    rw [trimmed]
    exact ⟨visible, bounded, single, unequal⟩

/-- A key with a space before a value is read, and built again without it. -/
theorem spaced_key_rebuilt_differently :
    ¬ ∀ scopeKey dimensions, parseCg4PolicyScopeKey scopeKey = .ok dimensions →
      buildCg4PolicyScopeKey dimensions = .ok scopeKey := by
  intro rebuilt
  let spaced : ScopeDimensions
    | .channel => some " LINE"
    | _ => none
  have parsed : parseCg4PolicyScopeKey "channel= LINE|contactKind=*|purpose=*|sourceType=*" =
      .ok spaced := by
    refine parse_ok.mpr ⟨by decide, fun dimension value bound => ?_⟩
    cases dimension <;> cases bound
    decide
  have built := (build_ok.mp (rebuilt _ _ parsed)).1
  revert built
  decide

end DContact.Governance
