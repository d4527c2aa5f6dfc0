import DContact.Governance.OverrideLaw
import Mathlib.Algebra.Ring.Divisibility.Basic

/-!
# The retry time of a refused contact

The search for `nextEligibleAt` goes forward in steps of five minutes and carries the wall clock
that it finds back to an instant. The retry time is the first eligible minute exactly when that
minute lies on a step and its wall clock names no other minute.
-/

namespace DContact.Governance

open Option

/-- A zone given by its offset in minutes at every minute of UTC. -/
def offsetZone (clock : Int → ZonedParts) (offset : Int → Int) : Zone := fun instant =>
  clock (instant / 60000 + offset (instant / 60000))

def EvaluationInput.eligibleAt (input : EvaluationInput) (zone : Zone) (instant : Instant) : Bool :=
  (evaluateInstant (zone instant) (preferredWindowsOf input.winner) input.quietHours
    input.holidays).isNone

/-- The zone in which the evaluator searches when a temporal rule refuses the contact. -/
def searchedZone (zones : ZoneDatabase) (input : EvaluationInput) : Option Zone :=
  ((resolvedTimezone zones input.winner input).map Prod.fst).filter fun _ =>
    (preferenceRefusal input.winner).isNone && temporalRefuses zones input

/-- The wall clock of an instant, carried back to an instant. -/
def carriedBack (zone : Zone) (instant : Instant) : Instant :=
  zonedToUtc zone (zone instant).year (zone instant).month (zone instant).day (zone instant).hour
    (zone instant).minute

theorem findSome?_guard {α β : Type} (accepts : α → Bool) (value : α → β) (items : List α) :
    items.findSome? (fun item => if accepts item then some (value item) else none) =
      (items.find? accepts).map value := by
  induction items with
  | nil => rfl
  | cons item rest ih =>
      cases accepted : accepts item <;> simp [accepted, ih]

/-- The minutes that the search steps through, five at a time. -/
def gridMinute (now : Int) (step : Nat) : Int := now / 60000 * 60000 + step * 300000

def lastStep : Nat := nextEligibleMaxLookaheadDays * 24 * 60 / nextEligibleStepMinutes

section Search

variable (input : EvaluationInput) (zone : Zone)

/-- An eligible minute after now. -/
def EligibleMinute (minute : Int) : Prop :=
  60000 ∣ minute ∧ input.now < minute ∧ input.eligibleAt zone minute = true

/-- No minute of the next thirty days is eligible. -/
def NoneEligible : Prop :=
  ∀ minute, EligibleMinute input zone minute → input.now + lastStep * 300000 < minute

/-- The first eligible minute lies on a step, and its wall clock is carried back to it; or it lies
on none, and the wall clock of the first eligible step happens to be carried back to it. -/
def FoundBySearch (first : Int) : Prop :=
  (∃ step ≤ lastStep, gridMinute input.now step = first ∧ carriedBack zone first = first) ∨
  ((∀ step, gridMinute input.now step ≠ first) ∧ ∃ step ≤ lastStep,
    input.eligibleAt zone (gridMinute input.now step) = true ∧
    (∀ earlier < step, input.eligibleAt zone (gridMinute input.now earlier) = false) ∧
    carriedBack zone (gridMinute input.now step) = first)

end Search

/-- A returned retry time is the first eligible instant after now, to the minute; when a search
returns none, no minute of its horizon is eligible. -/
def RetryUsable (zones : ZoneDatabase) (input : EvaluationInput) : Prop :=
  (∀ retry, (evaluateCg3Policy zones input).nextEligibleAt = some retry →
    ∃ zone, searchedZone zones input = some zone ∧ input.now < retry ∧
      input.eligibleAt zone retry = true ∧
      ∀ minute, EligibleMinute input zone minute → ¬ minute < retry) ∧
  ((evaluateCg3Policy zones input).nextEligibleAt = none →
    ∀ zone, searchedZone zones input = some zone → NoneEligible input zone)

variable {zones : ZoneDatabase} {input : EvaluationInput} {zone : Zone} {step : Nat}

theorem senderGate_nextEligibleAt (trace : List TraceEntry) (source : Option TimezoneSource)
    {passed : GateOutcome} (unset : passed.nextEligibleAt = none) :
    (senderGate input trace source passed).nextEligibleAt = none := by
  unfold senderGate
  cases senderInvalid input
  · exact unset
  · rfl

theorem nextEligibleAt_eq (zones : ZoneDatabase) (input : EvaluationInput) :
    (evaluateCg3Policy zones input).nextEligibleAt = (searchedZone zones input).bind fun zone =>
      findNextEligibleAt input.now zone (preferredWindowsOf input.winner) input.quietHours
        input.holidays := by
  have winner : resolveEffectivePreference input.preferences input = input.winner := rfl
  simp only [evaluateCg3Policy, searchedZone, temporalRefuses, winner]
  cases preferenceRefusal input.winner with
  | some refusal => simp
  | none =>
      cases hasTemporalConstraint input.winner input with
      | false => simp [afterPass, senderGate_nextEligibleAt]
      | true =>
          cases resolvedTimezone zones input.winner input with
          | none => rfl
          | some resolved =>
              cases reported : blockAt input.winner input resolved.1 with
              | none => simp [reported, afterPass, senderGate_nextEligibleAt]
              | some block =>
                  have gate := overrideGate_ok_iff input block.rule
                  cases passed : overrideGate input block.rule with
                  | error refusal =>
                      have refused : lifts input block.rule = false := by simpa [passed] using gate
                      simp [reported, afterBlock, passed, refused, Option.filter]
                  | ok lift =>
                      have lifted : lifts input block.rule = true := by simpa [passed] using gate
                      simp [reported, afterBlock, passed, lifted, senderGate_nextEligibleAt]

theorem blocked_now (searched : searchedZone zones input = some zone) :
    input.eligibleAt zone input.now = false := by
  obtain ⟨mapped, refused⟩ := filter_eq_some_iff.mp searched
  obtain ⟨resolved, found, rfl⟩ := map_eq_some_iff.mp mapped
  rw [Bool.and_eq_true, temporalRefuses, found, Bool.and_eq_true, any_eq_true] at refused
  obtain ⟨block, reported, -⟩ := refused.2.2
  exact congrArg Option.isNone reported

theorem dvd_carriedBack (zone : Zone) (instant : Instant) : 60000 ∣ carriedBack zone instant := by
  have whole (year month day hour minute : Int) : 60000 ∣ dateUtc year month day hour minute :=
    Int.dvd_mul_left _ _
  exact dvd_add (dvd_add (whole ..) (dvd_sub (whole ..) (whole ..))) (dvd_sub (whole ..) (whole ..))

theorem dvd_gridMinute (now : Int) (step : Nat) : 60000 ∣ gridMinute now step := by
  unfold gridMinute
  omega

theorem lt_gridMinute {now : Int} (later : 0 < step) : now < gridMinute now step := by
  unfold gridMinute
  omega

theorem gridMinute_le {now : Int} (within : step ≤ lastStep) :
    gridMinute now step ≤ now + lastStep * 300000 := by
  unfold gridMinute
  omega

theorem of_gridMinute_le {now : Int} {earlier later : Nat}
    (before : gridMinute now earlier ≤ gridMinute now later) : earlier ≤ later := by
  unfold gridMinute at before
  omega

section Grid

variable (steady : ∀ instant, zone instant = zone (instant / 60000 * 60000))

include steady

theorem zone_step (step : Nat) :
    zone (input.now + ((step * nextEligibleStepMinutes : Nat) : Int) * 60000) =
      zone (gridMinute input.now step) := by
  have grid (now : Int) : (now + (step * 5 : Nat) * 60000) / 60000 * 60000 =
      now / 60000 * 60000 + step * 300000 := by
    omega
  rw [steady]
  exact congrArg zone (grid input.now)

theorem findNextEligibleAt_eq :
    findNextEligibleAt input.now zone (preferredWindowsOf input.winner) input.quietHours
        input.holidays =
      ((List.range (lastStep + 1)).find? fun step =>
          input.eligibleAt zone (gridMinute input.now step)).map
        fun step => carriedBack zone (gridMinute input.now step) := by
  rw [← findSome?_guard]
  unfold findNextEligibleAt
  dsimp only
  congr 1
  funext step
  simp only [zone_step steady, EvaluationInput.eligibleAt, carriedBack]
  split
  next eligible => simp [eligible]
  next eligible => simp [eligible]

theorem eligibleMinute_step (blocked : input.eligibleAt zone input.now = false)
    (eligible : input.eligibleAt zone (gridMinute input.now step) = true) :
    EligibleMinute input zone (gridMinute input.now step) := by
  refine ⟨dvd_gridMinute _ _, lt_gridMinute (Nat.pos_of_ne_zero ?_), eligible⟩
  rintro rfl
  have here : input.eligibleAt zone (gridMinute input.now 0) = input.eligibleAt zone input.now := by
    simp only [EvaluationInput.eligibleAt, steady input.now, gridMinute, Nat.cast_zero, Int.zero_mul,
      Int.add_zero]
  rw [here, blocked] at eligible
  cases eligible

theorem search_iff (blocked : input.eligibleAt zone input.now = false) :
    (match findNextEligibleAt input.now zone (preferredWindowsOf input.winner) input.quietHours
        input.holidays with
      | some retry => IsLeast {minute | EligibleMinute input zone minute} retry
      | none => NoneEligible input zone) ↔
    NoneEligible input zone ∨ ∃ first, IsLeast {minute | EligibleMinute input zone minute} first ∧
      FoundBySearch input zone first := by
  rw [findNextEligibleAt_eq steady]
  cases found : (List.range (lastStep + 1)).find? fun step =>
      input.eligibleAt zone (gridMinute input.now step) with
  | none =>
      have steps {step : Nat} (within : step ≤ lastStep) :
          input.eligibleAt zone (gridMinute input.now step) = false := by
        simpa using List.find?_eq_none.mp found step (List.mem_range.mpr (Nat.lt_succ_of_le within))
      refine ⟨.inl, ?_⟩
      rintro (none_ | ⟨first, ⟨⟨-, -, minute⟩, -⟩, ⟨step, within, rfl, -⟩ | ⟨-, step, within, eligible, -⟩⟩)
      · exact none_
      · simp [steps within] at minute
      · simp [steps within] at eligible
  | some step =>
      obtain ⟨eligible, listed, earlier⟩ := List.find?_range_eq_some.mp found
      have within := Nat.le_of_lt_succ (List.mem_range.mp listed)
      have minute := eligibleMinute_step steady blocked eligible
      have same {other : Nat} (least : IsLeast {minute | EligibleMinute input zone minute}
          (gridMinute input.now other)) : other = step := by
        refine Nat.le_antisymm (of_gridMinute_le (least.2 minute)) (Nat.le_of_not_lt fun before => ?_)
        simpa [least.1.2.2] using earlier other before
      change IsLeast _ (carriedBack zone (gridMinute input.now step)) ↔ _
      constructor
      · intro least
        refine .inr ⟨_, least, ?_⟩
        by_cases onGrid : ∃ other, gridMinute input.now other =
            carriedBack zone (gridMinute input.now step)
        · obtain ⟨other, equal⟩ := onGrid
          rw [← equal] at least
          obtain rfl := same least
          exact .inl ⟨other, within, equal, congrArg (carriedBack zone) equal.symm⟩
        · exact .inr ⟨fun other equal => onGrid ⟨other, equal⟩, step, within, eligible,
            fun other before => by simpa using earlier other before, rfl⟩
      · rintro (none_ | ⟨first, least, ⟨other, -, rfl, back⟩ |
          ⟨-, other, -, otherEligible, blockedBefore, back⟩⟩)
        · exact absurd (none_ _ minute) (Int.not_lt.mpr (gridMinute_le within))
        · obtain rfl := same least
          exact back.symm ▸ least
        · obtain rfl : other = step := by
            rcases Nat.lt_trichotomy other step with before | equal | after
            · simpa [otherEligible] using earlier other before
            · exact equal
            · simp [blockedBefore step after] at eligible
          exact back.symm ▸ least

end Grid

theorem isLeast_iff {retry : Int} (whole : 60000 ∣ retry) :
    IsLeast {minute | EligibleMinute input zone minute} retry ↔
      input.now < retry ∧ input.eligibleAt zone retry = true ∧
        ∀ minute, EligibleMinute input zone minute → ¬ minute < retry := by
  constructor
  · rintro ⟨⟨-, later, eligible⟩, least⟩
    exact ⟨later, eligible, fun minute mem => Int.not_lt.mpr (least mem)⟩
  · rintro ⟨later, eligible, least⟩
    exact ⟨⟨whole, later, eligible⟩, fun minute mem => Int.not_lt.mp (least minute mem)⟩

/-- The zones that a function of names gives their offsets. -/
def offsetZones (clock : Int → ZonedParts) (offsets : String → Option (Int → Int)) : ZoneDatabase :=
  fun name => (offsets name).map (offsetZone clock)

variable {clock : Int → ZonedParts} {offsets : String → Option (Int → Int)}

theorem steady_of_searched (searched : searchedZone (offsetZones clock offsets) input = some zone)
    (instant : Instant) : zone instant = zone (instant / 60000 * 60000) := by
  obtain ⟨mapped, -⟩ := filter_eq_some_iff.mp searched
  obtain ⟨resolved, found, rfl⟩ := map_eq_some_iff.mp mapped
  obtain ⟨candidate, -, named⟩ := List.exists_of_findSome?_eq_some found
  obtain ⟨shown, known, rfl⟩ := map_eq_some_iff.mp named
  obtain ⟨name, -, known⟩ := bind_eq_some_iff.mp known
  split at known
  next => cases known
  next =>
    obtain ⟨offset, -, rfl⟩ := map_eq_some_iff.mp known
    have minute (now : Int) : now / 60000 * 60000 / 60000 = now / 60000 := by omega
    have same := minute instant
    simp only [offsetZone]
    rw [same]

theorem retryUsable_iff (clock : Int → ZonedParts) (offsets : String → Option (Int → Int))
    (input : EvaluationInput) :
    RetryUsable (offsetZones clock offsets) input ↔
      ∀ zone, searchedZone (offsetZones clock offsets) input = some zone →
        NoneEligible input zone ∨ ∃ first, IsLeast {minute | EligibleMinute input zone minute} first ∧
          FoundBySearch input zone first := by
  unfold RetryUsable
  rw [nextEligibleAt_eq]
  cases searched : searchedZone (offsetZones clock offsets) input with
  | none => simp
  | some zone =>
      have steady := steady_of_searched searched
      simp only [Option.some.injEq, forall_eq', bind_some, exists_eq_left']
      rw [← search_iff steady (blocked_now searched)]
      cases found : findNextEligibleAt input.now zone (preferredWindowsOf input.winner)
          input.quietHours input.holidays with
      | none => simp
      | some retry =>
          rw [findNextEligibleAt_eq steady] at found
          obtain ⟨step, -, rfl⟩ := map_eq_some_iff.mp found
          simp [isLeast_iff (dvd_carriedBack zone _)]

/-- The wall clock of Christmas Day. -/
def christmasClock (localMinute : Int) : ZonedParts :=
  { christmasNight with
    hour := (localMinute / 60 % 24).toNat
    minute := (localMinute % 60).toNat
    hour_lt := by omega
    minute_lt := by omega }

/-- At eight in the morning in Bangkok, where the quiet hours last for three minutes more. -/
def morningRequest : EvaluationInput :=
  { christmasRequest { nightPolicy [] [] with quietHours := [⟨everyDay, ⟨21, 0⟩, ⟨8, 3⟩⟩] } with
    now := dateUtc 2026 12 25 1 0 }

theorem retry_later_than_needed :
    ¬ ∀ (clock : Int → ZonedParts) (offsets : String → Option (Int → Int)) (input : EvaluationInput),
      RetryUsable (offsetZones clock offsets) input := by
  intro law
  have found : (evaluateCg3Policy (offsetZones christmasClock fun _ => some fun _ => 420)
      morningRequest).nextEligibleAt = some (dateUtc 2026 12 25 1 5) := by
    decide +kernel
  obtain ⟨zone, searched, -, -, least⟩ := (law christmasClock (fun _ => some fun _ => 420)
    morningRequest).1 _ found
  have resolved : searchedZone (offsetZones christmasClock fun _ => some fun _ => 420)
      morningRequest = some (offsetZone christmasClock fun _ => 420) := by
    rfl
  cases resolved.symm.trans searched
  exact least (dateUtc 2026 12 25 1 3) ⟨by decide, by decide, by decide⟩ (by decide)

end DContact.Governance
