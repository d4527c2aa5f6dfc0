import DContact.Governance.PolicyContent

/-!
# The semantic diff of two policy contents

The diff compares blocked minutes, callback modes, rule lists and the fallback
zone one dimension at a time. One relaxed dimension makes the whole change a
relaxation; this module states what it means that none is relaxed.
-/

namespace DContact.Governance

open List

inductive DiffDirection where
  | equal
  | tightening
  | relaxation
  deriving DecidableEq

inductive DiffDimension where
  | quietHours
  | holidays
  | callbackMode
  | overridableRules
  | allowedOperationalRuleCodes
  | timezoneFallback

structure DiffChange where
  dimension : DiffDimension
  direction : DiffDirection

inductive DiffClass where
  | tightening
  | neutral
  | relaxation
  deriving DecidableEq

structure PolicyDiff where
  diffClass : DiffClass
  changes : List DiffChange

/-- `CG4_EMPTY_POLICY_CONTENT`: no temporal restriction, no override allowed. -/
def emptyPolicyContent : PolicyContent where
  timezoneFallback := none
  quietHours := []
  callbackMode := .noOverride
  overridableRules := []
  allowedOperationalRuleCodes := []
  holidays := []

def minutesPerDay : Nat := 1440

def quietMinutes (content : PolicyContent) : List (Nat × Nat) :=
  (List.range' 1 7).flatMap fun weekday =>
    ((List.range minutesPerDay).filter
      (anyWindowMatches content.quietHours weekday)).map fun minute => (weekday, minute)

def holidayMinutes (content : PolicyContent) : List (CalendarDate × Nat) :=
  content.holidays.flatMap fun entry =>
    ((List.range minutesPerDay).filter fun minute =>
      !(decide (entry.effect = .windows) &&
        anyWindowMatches entry.windows (isoWeekday entry.localDate) minute)).map
      fun minute => (entry.localDate, minute)

def isSubset {α : Type} [BEq α] (left right : List α) : Bool :=
  left.all fun entry => right.contains entry

/-- More blocked is tighter; two incomparable sets count as a relaxation. -/
def blockedDirection {α : Type} [BEq α] (base candidate : List α) : DiffDirection :=
  let baseInCandidate := isSubset base candidate
  let candidateInBase := isSubset candidate base
  if baseInCandidate && candidateInBase then .equal
  else if baseInCandidate then .tightening
  else .relaxation

/-- More allowed is looser. -/
def allowlistDirection (base candidate : List String) : DiffDirection :=
  blockedDirection candidate base

def PolicyContent.hasTemporalConstraint (content : PolicyContent) : Bool :=
  !content.quietHours.isEmpty || !content.holidays.isEmpty

def CallbackMode.rank : CallbackMode → Nat
  | .noOverride => 0
  | .scopedOverride => 1
  | .timePolicyOverride => 2

def callbackModeDirection (base candidate : CallbackMode) : DiffDirection :=
  if candidate.rank = base.rank then .equal
  else if candidate.rank > base.rank then .relaxation
  else .tightening

/-- A different zone shifts every window, unless one side has no window to shift. -/
def timezoneDirection (base candidate : PolicyContent) : DiffDirection :=
  if base.timezoneFallback = candidate.timezoneFallback ∨
      base.hasTemporalConstraint = false ∨ candidate.hasTemporalConstraint = false then
    .equal
  else
    .relaxation

def diffChanges (base candidate : PolicyContent) : List DiffChange :=
  [⟨.quietHours, blockedDirection (quietMinutes base) (quietMinutes candidate)⟩,
    ⟨.holidays, blockedDirection (holidayMinutes base) (holidayMinutes candidate)⟩,
    ⟨.callbackMode, callbackModeDirection base.callbackMode candidate.callbackMode⟩,
    ⟨.overridableRules, allowlistDirection base.overridableRules candidate.overridableRules⟩,
    ⟨.allowedOperationalRuleCodes, allowlistDirection base.allowedOperationalRuleCodes
      candidate.allowedOperationalRuleCodes⟩,
    ⟨.timezoneFallback, timezoneDirection base candidate⟩]

def diffClassOf (changes : List DiffChange) : DiffClass :=
  if changes.any fun change => change.direction = .relaxation then .relaxation
  else if changes.all fun change => change.direction = .equal then .neutral
  else .tightening

/-- The first version on a scope is compared with the empty content. -/
def classifyCg4PolicyDiff (base : Option PolicyContent) (candidate : PolicyContent) :
    PolicyDiff :=
  let changes := diffChanges (base.getD emptyPolicyContent) candidate
  ⟨diffClassOf changes, changes⟩

variable {content : PolicyContent} {minute : Nat}

theorem mem_quietMinutes {weekday : Nat} :
    (weekday, minute) ∈ quietMinutes content ↔
      (1 ≤ weekday ∧ weekday ≤ 7) ∧ minute < minutesPerDay ∧
        anyWindowMatches content.quietHours weekday minute = true := by
  unfold quietMinutes
  simp only [mem_flatMap, mem_range'_1, mem_map, mem_filter, mem_range, Prod.mk.injEq]
  constructor
  · rintro ⟨day, range, min, ⟨bound, covered⟩, rfl, rfl⟩
    exact ⟨by omega, bound, covered⟩
  · rintro ⟨range, bound, covered⟩
    exact ⟨weekday, by omega, minute, ⟨bound, covered⟩, rfl, rfl⟩

/-- The diff's test for an open minute is the evaluator's, negated. -/
theorem HolidayEntry.closedAt_eq (entry : HolidayEntry) (weekday minute : Nat) :
    entry.closedAt weekday minute =
      !(decide (entry.effect = .windows) && anyWindowMatches entry.windows weekday minute) := by
  unfold HolidayEntry.closedAt
  cases entry.effect <;> simp

theorem mem_holidayMinutes {date : CalendarDate} :
    (date, minute) ∈ holidayMinutes content ↔
      minute < minutesPerDay ∧ ∃ entry ∈ content.holidays, entry.localDate = date ∧
        entry.closedAt (isoWeekday date) minute = true := by
  simp only [holidayMinutes, ← HolidayEntry.closedAt_eq, mem_flatMap, mem_map,
    mem_filter, mem_range, Prod.mk.injEq]
  constructor
  · rintro ⟨entry, mem, min, ⟨bound, closed⟩, rfl, rfl⟩
    exact ⟨bound, entry, mem, rfl, closed⟩
  · rintro ⟨bound, entry, mem, rfl, closed⟩
    exact ⟨entry, mem, minute, ⟨bound, closed⟩, rfl, rfl⟩

/-- With one entry for each date, the evaluator's first match is the only one. -/
theorem holidayCloses_iff (distinct : (content.holidays.map HolidayEntry.localDate).Nodup)
    (parts : ZonedParts) :
    holidayCloses parts content.holidays = true ↔
      ∃ date : CalendarDate, date.text = localDateKey parts ∧
        (date, parts.minuteOfDay) ∈ holidayMinutes content := by
  unfold holidayCloses
  cases found : content.holidays.find? fun entry => entry.localDate.text == localDateKey parts with
  | none =>
      have missing := find?_eq_none.mp found
      simp only [Bool.false_eq_true, false_iff, not_exists, not_and]
      intro date named blocked
      obtain ⟨-, entry, mem, rfl, -⟩ := mem_holidayMinutes.mp blocked
      exact missing entry mem (by simpa using named)
  | some entry =>
      have named : entry.localDate.text = localDateKey parts := by
        simpa using find?_some found
      have mem : entry ∈ content.holidays := mem_of_find?_eq_some found
      change entry.closedAt parts.weekday parts.minuteOfDay = true ↔ _
      rw [← isoWeekday_of_localDateKey named]
      constructor
      · intro closed
        exact ⟨entry.localDate, named,
          mem_holidayMinutes.mpr ⟨parts.minuteOfDay_lt, entry, mem, rfl, closed⟩⟩
      · rintro ⟨date, sameText, blocked⟩
        obtain ⟨-, other, otherMember, rfl, closed⟩ := mem_holidayMinutes.mp blocked
        have sameDate : other.localDate = entry.localDate :=
          CalendarDate.text_injective (sameText.trans named.symm)
        have same : other = entry :=
          inj_on_of_nodup_map distinct otherMember mem sameDate
        rw [← same]
        exact closed

theorem isSubset_iff {α : Type} [BEq α] [LawfulBEq α] {left right : List α} :
    isSubset left right = true ↔ ∀ entry ∈ left, entry ∈ right := by
  simp [isSubset]

theorem blockedDirection_ne_relaxation_iff {α : Type} [BEq α] [LawfulBEq α]
    {base candidate : List α} :
    blockedDirection base candidate ≠ .relaxation ↔ ∀ entry ∈ base, entry ∈ candidate := by
  rw [← isSubset_iff]
  unfold blockedDirection
  cases isSubset base candidate <;> cases isSubset candidate base <;> simp

theorem callbackModeDirection_ne_relaxation_iff {base candidate : CallbackMode} :
    callbackModeDirection base candidate ≠ .relaxation ↔ candidate.rank ≤ base.rank := by
  cases base <;> cases candidate <;> simp [callbackModeDirection, CallbackMode.rank]

variable {base candidate : PolicyContent}

theorem timezoneDirection_ne_relaxation_iff :
    timezoneDirection base candidate ≠ .relaxation ↔
      base.timezoneFallback = candidate.timezoneFallback ∨
        base.hasTemporalConstraint = false ∨ candidate.hasTemporalConstraint = false := by
  unfold timezoneDirection
  split <;> simp_all

/-- Every dimension of the candidate is narrower than or equal to that of the base. -/
structure NotRelaxed (base candidate : PolicyContent) : Prop where
  quiet : ∀ entry ∈ quietMinutes base, entry ∈ quietMinutes candidate
  holidays : ∀ entry ∈ holidayMinutes base, entry ∈ holidayMinutes candidate
  callbackMode : candidate.callbackMode.rank ≤ base.callbackMode.rank
  overridable : ∀ code ∈ candidate.overridableRules, code ∈ base.overridableRules
  operational : ∀ code ∈ candidate.allowedOperationalRuleCodes,
    code ∈ base.allowedOperationalRuleCodes
  timezone : base.timezoneFallback = candidate.timezoneFallback ∨
    base.hasTemporalConstraint = false ∨ candidate.hasTemporalConstraint = false

theorem diffClassOf_ne_relaxation_iff {changes : List DiffChange} :
    diffClassOf changes ≠ .relaxation ↔ ∀ change ∈ changes, change.direction ≠ .relaxation := by
  unfold diffClassOf
  by_cases relaxed : ∃ change ∈ changes, change.direction = .relaxation
  · simp [relaxed]
  · have none : ∀ change ∈ changes, change.direction ≠ .relaxation :=
      fun change mem same => relaxed ⟨change, mem, same⟩
    have noneAny : (changes.any fun change => change.direction = .relaxation) = false := by
      simpa using none
    simp only [noneAny, Bool.false_eq_true, if_false]
    split <;> simpa using none

theorem classify_ne_relaxation_iff :
    (classifyCg4PolicyDiff (some base) candidate).diffClass ≠ .relaxation ↔
      NotRelaxed base candidate := by
  simp only [classifyCg4PolicyDiff, Option.getD_some, diffClassOf_ne_relaxation_iff, diffChanges,
    allowlistDirection, forall_mem_cons, not_mem_nil, false_implies, implies_true,
    and_true, blockedDirection_ne_relaxation_iff, callbackModeDirection_ne_relaxation_iff,
    timezoneDirection_ne_relaxation_iff]
  constructor
  · rintro ⟨quiet, holidays, mode, overridable, operational, timezone⟩
    exact ⟨quiet, holidays, mode, overridable, operational, timezone⟩
  · rintro ⟨quiet, holidays, mode, overridable, operational, timezone⟩
    exact ⟨quiet, holidays, mode, overridable, operational, timezone⟩

end DContact.Governance
