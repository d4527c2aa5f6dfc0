import DContact.Governance.PolicyContent
import Mathlib.Data.List.Pairwise

/-!
# Declared and enforced windows

Normalization expands windows to minutes of the week and carries what a window covers
after midnight into the next day. The evaluator reads one weekday at a time and gives
a window that runs past midnight the early minutes of the day on which it begins. The
two agree exactly when every weekday has the same early minutes.
-/

namespace DContact.Governance

open Lib List

/-! ## Half-open intervals -/

def Contains (interval : Nat × Nat) (minute : Nat) : Prop :=
  interval.1 ≤ minute ∧ minute < interval.2

instance decidableContains (interval : Nat × Nat) (minute : Nat) :
    Decidable (Contains interval minute) :=
  inferInstanceAs (Decidable (_ ∧ _))

def MinutesApart (left right : Nat × Nat) : Prop :=
  ∀ minute, Contains left minute → ¬ Contains right minute

theorem MinutesApart.symm {left right : Nat × Nat} (apart : MinutesApart left right) :
    MinutesApart right left :=
  fun minute inRight inLeft => apart minute inLeft inRight

/-- Sorted intervals none of which begins before its predecessor has ended are apart. -/
theorem apart_of_not_overlapping {intervals : List (Nat × Nat)}
    (sorted : intervals.Pairwise fun left right => left.1 ≤ right.1)
    (proper : ∀ interval ∈ intervals, interval.1 < interval.2)
    (separate : overlapping intervals = false) : intervals.Pairwise MinutesApart := by
  have ends : intervals.Pairwise fun left right => left.2 ≤ right.1 := by
    induction intervals with
    | nil => exact .nil
    | cons first rest ih =>
        obtain ⟨ahead, sortedRest⟩ := pairwise_cons.mp sorted
        have properRest : ∀ interval ∈ rest, interval.1 < interval.2 :=
          fun interval mem => proper interval (mem_cons_of_mem first mem)
        cases rest with
        | nil => exact pairwise_singleton _ _
        | cons second later =>
            simp only [overlapping, Bool.or_eq_false_iff, decide_eq_false_iff_not,
              Nat.not_lt] at separate
            have tail := ih sortedRest properRest separate.2
            refine pairwise_cons.mpr ⟨fun interval mem => ?_, tail⟩
            rcases mem_cons.mp mem with rfl | mem
            · exact separate.1
            · exact separate.1.trans ((pairwise_cons.mp sortedRest).1 interval mem)
  refine ends.imp fun {left right} ordered minute inLeft inRight => ?_
  have stops := inLeft.2
  have starts := inRight.1
  omega

theorem sortIntervals_perm (intervals : List (Nat × Nat)) :
    (sortIntervals intervals).Perm intervals :=
  perm_insertionSort _ intervals

theorem sortIntervals_lex (intervals : List (Nat × Nat)) : (sortIntervals intervals).Pairwise
    fun left right => left.1 < right.1 ∨ (left.1 = right.1 ∧ left.2 ≤ right.2) := by
  have total : Std.Total fun left right : Nat × Nat =>
      left.1 < right.1 ∨ (left.1 = right.1 ∧ left.2 ≤ right.2) :=
    ⟨fun left right => by omega⟩
  have trans : IsTrans (Nat × Nat) fun left right =>
      left.1 < right.1 ∨ (left.1 = right.1 ∧ left.2 ≤ right.2) :=
    ⟨fun left middle right => by omega⟩
  exact pairwise_insertionSort (r := fun left right : Nat × Nat =>
    left.1 < right.1 ∨ (left.1 = right.1 ∧ left.2 ≤ right.2)) intervals

theorem sortIntervals_sorted (intervals : List (Nat × Nat)) :
    (sortIntervals intervals).Pairwise fun left right => left.1 ≤ right.1 :=
  (sortIntervals_lex intervals).imp fun {left right} ordered => by omega

/-! ## Minutes of one window -/

def LocalTimeWindow.start (window : LocalTimeWindow) : Nat := window.startLocal.localMinute

def LocalTimeWindow.stop (window : LocalTimeWindow) : Nat := window.endLocal.localMinute

/-- What the window covers of the day on which it begins, from its start on. -/
def LocalTimeWindow.Opens (window : LocalTimeWindow) (minute : Nat) : Prop :=
  window.start ≤ minute ∧ (minute < window.stop ∨ window.stop ≤ window.start)

/-- What the window covers after midnight. -/
def LocalTimeWindow.Carries (window : LocalTimeWindow) (minute : Nat) : Prop :=
  window.stop ≤ window.start ∧ minute < window.stop

/-- Sunday is followed by Monday. -/
def nextDay (day : Nat) : Nat := day % 7 + 1

def weekMinute (weekday minuteOfDay : Nat) : Nat := (weekday - 1) * (24 * 60) + minuteOfDay

theorem LocalTime.localMinute_lt (time : LocalTime) : time.localMinute < 1440 := by
  have hours := time.hour.isLt
  have minutes := time.minute.isLt
  unfold LocalTime.localMinute
  omega

theorem LocalTime.localMinute_injective {left right : LocalTime}
    (same : left.localMinute = right.localMinute) : left = right := by
  have leftMinutes := left.minute.isLt
  have rightMinutes := right.minute.isLt
  unfold LocalTime.localMinute at same
  have hours : left.hour = right.hour := Fin.ext (by omega)
  have minutes : left.minute = right.minute := Fin.ext (by omega)
  cases left
  cases right
  simp_all

variable {window other : LocalTimeWindow} {windows : List LocalTimeWindow}
  {day weekday minute index : Nat} {value : Json}

theorem withinWindow_iff : withinWindow window weekday minute = true ↔
    weekday ∈ window.daysOfWeek ∧ (window.Opens minute ∨ window.Carries minute) := by
  unfold withinWindow LocalTimeWindow.Opens LocalTimeWindow.Carries LocalTimeWindow.start
    LocalTimeWindow.stop
  cases listed : window.daysOfWeek.contains weekday with
  | false =>
      have absent : weekday ∉ window.daysOfWeek := by simpa using listed
      simp [absent]
  | true =>
      have present : weekday ∈ window.daysOfWeek := by simpa using listed
      simp only [Bool.not_true, Bool.false_eq_true, if_false, present, true_and]
      split <;> simp only [Bool.and_eq_true, Bool.or_eq_true, decide_eq_true_eq] <;> omega

/-- The intervals of one day cover its minutes from the start on, and the early minutes
of the day after it. -/
theorem dayIntervals_contains (dayRange : 1 ≤ day ∧ day ≤ 7)
    (weekdayRange : 1 ≤ weekday ∧ weekday ≤ 7) (early : minute < 1440) :
    (∃ interval ∈ dayIntervals window day, Contains interval (weekMinute weekday minute)) ↔
      (day = weekday ∧ window.Opens minute) ∨ (nextDay day = weekday ∧ window.Carries minute) := by
  have startsEarly := window.startLocal.localMinute_lt
  have stopsEarly := window.endLocal.localMinute_lt
  unfold dayIntervals LocalTimeWindow.Opens LocalTimeWindow.Carries LocalTimeWindow.start
    LocalTimeWindow.stop weekMinute nextDay
  dsimp only
  split <;> split <;>
    simp only [mem_cons, not_mem_nil, or_false, exists_eq_or_imp, exists_eq_left,
      Contains] <;> omega

theorem dayIntervals_proper (dayRange : 1 ≤ day ∧ day ≤ 7) :
    ∀ interval ∈ dayIntervals window day, interval.1 < interval.2 := by
  have startsEarly := window.startLocal.localMinute_lt
  unfold dayIntervals
  dsimp only
  split <;> split <;>
    simp only [mem_cons, not_mem_nil, or_false, forall_eq_or_imp, forall_eq] <;> omega

/-! ## What normalization accepts -/

structure AcceptedWindows (windows : List LocalTimeWindow) : Prop where
  occupied : ∀ window ∈ windows, window.daysOfWeek ≠ []
  weekdays : ∀ window ∈ windows, ∀ day ∈ window.daysOfWeek, 1 ≤ day ∧ day ≤ 7
  apart : (windowIntervals windows).Pairwise MinutesApart

theorem weekday?_range (read : weekday? value = some day) : 1 ≤ day ∧ day ≤ 7 := by
  obtain ⟨number, -, read⟩ := Option.bind_eq_some_iff.mp read
  split at read
  · cases read
    omega
  · cases read

variable {days : List Nat}

theorem mem_weekdays {items : List Json} (read : items.mapM weekday? = some days) {day : Nat} :
    day ∈ days ↔ ∃ item ∈ items, weekday? item = some day := by
  induction items generalizing days with
  | nil =>
      cases read
      simp
  | cons item rest ih =>
      rw [mapM_cons] at read
      obtain ⟨first, firstRead, read⟩ := Option.bind_eq_some_iff.mp read
      obtain ⟨tail, tailRead, read⟩ := Option.bind_eq_some_iff.mp read
      cases read
      simp [ih tailRead, firstRead, eq_comm]

def sortDays (days : List Nat) : List Nat := days.eraseDups.insertionSort (· ≤ ·)

theorem mem_sortDays : day ∈ sortDays days ↔ day ∈ days := by
  rw [sortDays, mem_insertionSort, mem_eraseDups]

theorem normalizeDays_ok {value : Option Json} (ok : normalizeDays value index = .ok days) :
    ∃ items read, value = some (.arr items) ∧
      items.mapM weekday? = some read ∧ read ≠ [] ∧ days = sortDays read := by
  unfold normalizeDays at ok
  split at ok
  next items =>
    split at ok
    next first rest read =>
      cases ok
      exact ⟨items, _, rfl, read, cons_ne_nil _ _, rfl⟩
    next => cases ok
  all_goals cases ok

theorem normalizeWindow_ok (ok : normalizeWindow index value = .ok window) :
    normalizeDays (value.get? "daysOfWeek") index = .ok window.daysOfWeek ∧
      (∃ field, localMinute (value.get? "startLocal") field = .ok window.startLocal) ∧
      ∃ field, localMinute (value.get? "endLocal") field = .ok window.endLocal := by
  unfold normalizeWindow at ok
  cases value
  case null => cases ok
  all_goals
    obtain ⟨fields, ⟨⟩, ok⟩ := bind_ok ok
    obtain ⟨days, daysOk, ok⟩ := bind_ok ok
    obtain ⟨startLocal, startOk, ok⟩ := bind_ok ok
    obtain ⟨endLocal, endOk, ok⟩ := bind_ok ok
    cases ok
    exact ⟨daysOk, ⟨_, startOk⟩, _, endOk⟩

theorem normalizeWindow_days (ok : normalizeWindow index value = .ok window) :
    window.daysOfWeek ≠ [] ∧ ∀ day ∈ window.daysOfWeek, 1 ≤ day ∧ day ≤ 7 := by
  obtain ⟨items, read, -, itemsRead, some_, days⟩ := normalizeDays_ok (normalizeWindow_ok ok).1
  rw [days]
  refine ⟨fun empty => some_ (eq_nil_iff_forall_not_mem.mpr fun day mem => ?_), fun day mem => ?_⟩
  · exact not_mem_nil (empty ▸ mem_sortDays.mpr mem)
  · obtain ⟨item, -, one⟩ := (mem_weekdays itemsRead).mp (mem_sortDays.mp mem)
    exact weekday?_range one

theorem normalizeLocalTimeWindows_ok
    (ok : normalizeLocalTimeWindows value = .ok windows) : ∃ items normalized,
      value = .arr items ∧ Json.readFrom normalizeWindow 0 items = .ok normalized ∧
      overlapping (sortIntervals (windowIntervals normalized)) = false ∧
      windows.Perm normalized := by
  unfold normalizeLocalTimeWindows at ok
  split at ok
  next items =>
    obtain ⟨normalized, read, ok⟩ := bind_ok ok
    split at ok
    next => cases ok
    next separate =>
      cases ok
      exact ⟨items, normalized, rfl, read, Bool.eq_false_iff.mpr separate,
        ((Text.sortBy_perm daysKey _).trans (Text.sortBy_perm _ _)).trans (Text.sortBy_perm _ _)⟩
  next => cases ok

theorem accepted_of_normalized (ok : normalizeLocalTimeWindows value = .ok windows) :
    AcceptedWindows windows := by
  obtain ⟨items, normalized, -, read, separate, order⟩ := normalizeLocalTimeWindows_ok ok
  have days : ∀ window ∈ normalized,
      window.daysOfWeek ≠ [] ∧ ∀ day ∈ window.daysOfWeek, 1 ≤ day ∧ day ≤ 7 := by
    intro window mem
    obtain ⟨item, -, _, itemOk⟩ := Json.exists_reads (Json.forall₂_of_readFrom read) mem
    exact normalizeWindow_days itemOk
  have proper : ∀ interval ∈ windowIntervals normalized, interval.1 < interval.2 := by
    intro interval mem
    obtain ⟨window, listed, mem⟩ := mem_flatMap.mp mem
    obtain ⟨day, dayListed, mem⟩ := mem_flatMap.mp mem
    exact dayIntervals_proper ((days window listed).2 day dayListed) interval mem
  have sorted := sortIntervals_perm (windowIntervals normalized)
  have apart := apart_of_not_overlapping (sortIntervals_sorted (windowIntervals normalized))
    (fun interval mem => proper interval (sorted.mem_iff.mp mem)) separate
  exact {
    occupied := fun window mem => (days window (order.mem_iff.mp mem)).1
    weekdays := fun window mem => (days window (order.mem_iff.mp mem)).2
    apart := ((sorted.trans (order.flatMap_right _).symm).pairwise_iff MinutesApart.symm).mp apart }

/-! ## Agreement -/

def DeclaredAt (windows : List LocalTimeWindow) (weekday minuteOfDay : Nat) : Prop :=
  ∃ interval ∈ windowIntervals windows, Contains interval (weekMinute weekday minuteOfDay)

instance decidableDeclaredAt (windows : List LocalTimeWindow) (weekday minuteOfDay : Nat) :
    Decidable (DeclaredAt windows weekday minuteOfDay) :=
  inferInstanceAs (Decidable (∃ interval ∈ windowIntervals windows, Contains interval _))

def CoverageAgrees (windows : List LocalTimeWindow) : Prop :=
  ∀ weekday, 1 ≤ weekday → weekday ≤ 7 → ∀ minuteOfDay < 1440,
    (DeclaredAt windows weekday minuteOfDay ↔
      anyWindowMatches windows weekday minuteOfDay = true)

/-- Every window which runs past midnight is matched on all seven days by a window which runs past
midnight and ends at the same time. -/
def SameEarlyMinutesEveryDay (windows : List LocalTimeWindow) : Prop :=
  ∀ window ∈ windows, window.Carries 0 → ∀ day, 1 ≤ day → day ≤ 7 →
    ∃ other ∈ windows, other.Carries 0 ∧ day ∈ other.daysOfWeek ∧ other.endLocal = window.endLocal

theorem anyWindowMatches_iff : anyWindowMatches windows weekday minute = true ↔
    ∃ window ∈ windows, weekday ∈ window.daysOfWeek ∧
      (window.Opens minute ∨ window.Carries minute) := by
  simp only [anyWindowMatches, any_eq_true, withinWindow_iff]

theorem LocalTimeWindow.Carries.past (carries : window.Carries minute) : window.Carries 0 :=
  ⟨carries.1, Nat.zero_lt_of_lt carries.2⟩

theorem LocalTimeWindow.Carries.of_endLocal (carries : window.Carries minute)
    (past : other.Carries 0) (same : other.endLocal = window.endLocal) : other.Carries minute := by
  have stops : other.stop = window.stop := congrArg LocalTime.localMinute same
  exact ⟨past.1, stops ▸ carries.2⟩

theorem nextDay_iterate (range : 1 ≤ day ∧ day ≤ 7) (count : Nat) :
    nextDay^[count] day = (day - 1 + count) % 7 + 1 := by
  induction count with
  | zero =>
      simp only [Function.iterate_zero, id_eq]
      omega
  | succ count ih =>
      rw [Function.iterate_succ_apply', ih]
      unfold nextDay
      omega

namespace AcceptedWindows

variable (accepted : AcceptedWindows windows)
include accepted

/-- Windows on two days which share a minute are one window on one day. -/
theorem same (listed : window ∈ windows) (otherListed : other ∈ windows) {otherDay : Nat}
    (onDay : day ∈ window.daysOfWeek) (onOtherDay : otherDay ∈ other.daysOfWeek)
    (inside : ∃ interval ∈ dayIntervals window day, Contains interval minute)
    (insideToo : ∃ interval ∈ dayIntervals other otherDay, Contains interval minute) :
    window = other ∧ day = otherDay := by
  obtain ⟨interval, isOf, inside⟩ := inside
  obtain ⟨otherInterval, isOfOther, insideToo⟩ := insideToo
  obtain ⟨within, across⟩ := pairwise_flatMap.mp accepted.apart
  by_cases sameWindow : window = other
  · subst sameWindow
    refine ⟨rfl, ?_⟩
    by_contra differs
    have days := (pairwise_flatMap.mp (within window listed)).2
    have symmetric : Std.Symm fun one another : Nat => ∀ x ∈ dayIntervals window one,
        ∀ y ∈ dayIntervals window another, MinutesApart x y :=
      ⟨fun one another apart x inOne y inOther => (apart y inOther x inOne).symm⟩
    exact days.forall onDay onOtherDay differs interval isOf otherInterval isOfOther minute inside
      insideToo
  · exfalso
    have symmetric : Std.Symm fun one another : LocalTimeWindow =>
        ∀ x ∈ one.daysOfWeek.flatMap (dayIntervals one),
          ∀ y ∈ another.daysOfWeek.flatMap (dayIntervals another), MinutesApart x y :=
      ⟨fun one another apart x inOne y inOther => (apart y inOther x inOne).symm⟩
    exact across.forall listed otherListed sameWindow
      interval (mem_flatMap.mpr ⟨day, onDay, isOf⟩)
      otherInterval (mem_flatMap.mpr ⟨otherDay, onOtherDay, isOfOther⟩) minute inside insideToo

theorem declaredAt_iff (range : 1 ≤ weekday ∧ weekday ≤ 7) (early : minute < 1440) :
    DeclaredAt windows weekday minute ↔ ∃ window ∈ windows, ∃ day ∈ window.daysOfWeek,
      (day = weekday ∧ window.Opens minute) ∨ (nextDay day = weekday ∧ window.Carries minute) := by
  constructor
  · rintro ⟨interval, mem, inside⟩
    obtain ⟨window, listed, mem⟩ := mem_flatMap.mp mem
    obtain ⟨day, onDay, mem⟩ := mem_flatMap.mp mem
    have dayRange := accepted.weekdays window listed day onDay
    exact ⟨window, listed, day, onDay,
      (dayIntervals_contains dayRange range early).mp ⟨interval, mem, inside⟩⟩
  · rintro ⟨window, listed, day, onDay, covers⟩
    have dayRange := accepted.weekdays window listed day onDay
    obtain ⟨interval, mem, inside⟩ := (dayIntervals_contains dayRange range early).mpr covers
    exact ⟨interval, mem_flatMap.mpr ⟨window, listed, mem_flatMap.mpr ⟨day, onDay, mem⟩⟩, inside⟩

/-- Where every day has the same early minutes, it does not matter whose they are. -/
theorem agrees (same : SameEarlyMinutesEveryDay windows) : CoverageAgrees windows := by
  intro weekday first last minute early
  rw [accepted.declaredAt_iff ⟨first, last⟩ early, anyWindowMatches_iff]
  constructor
  · rintro ⟨window, listed, day, onDay, ⟨rfl, opens⟩ | ⟨-, carries⟩⟩
    · exact ⟨window, listed, onDay, .inl opens⟩
    · obtain ⟨other, otherListed, past, onDay, ends⟩ :=
        same window listed carries.past weekday first last
      exact ⟨other, otherListed, onDay, .inr (carries.of_endLocal past ends)⟩
  · rintro ⟨window, listed, onDay, opens | carries⟩
    · exact ⟨window, listed, weekday, onDay, .inl ⟨rfl, opens⟩⟩
    · -- the day before
      obtain ⟨other, otherListed, past, onDay, ends⟩ :=
        same window listed carries.past ((weekday + 5) % 7 + 1) (by omega) (by omega)
      refine ⟨other, otherListed, _, onDay, .inr ⟨?_, carries.of_endLocal past ends⟩⟩
      unfold nextDay
      omega

/-- Two windows which run past midnight from one day are one: both cover its last minute. -/
theorem one_past_midnight (listed : window ∈ windows) (otherListed : other ∈ windows)
    (past : window.Carries 0) (otherPast : other.Carries 0) (onDay : day ∈ window.daysOfWeek)
    (otherOnDay : day ∈ other.daysOfWeek) : window = other := by
  have range := accepted.weekdays window listed day onDay
  have last : ∀ window : LocalTimeWindow, window.Carries 0 →
      ∃ interval ∈ dayIntervals window day, Contains interval (weekMinute day 1439) := by
    intro window past
    have startsEarly : window.start < 1440 := window.startLocal.localMinute_lt
    exact (dayIntervals_contains range range (by decide)).mpr
      (.inl ⟨rfl, by omega, .inr past.1⟩)
  exact (accepted.same listed otherListed onDay otherOnDay (last window past)
    (last other otherPast)).1

variable (agreed : CoverageAgrees windows) (listed : window ∈ windows) (past : window.Carries 0)
  (onDay : day ∈ window.daysOfWeek)
include agreed listed past onDay

/-- Agreement hands the early minutes of a day on to the next day. -/
theorem handed_on : ∃ next ∈ windows, next.Carries 0 ∧ nextDay day ∈ next.daysOfWeek ∧
    window.stop ≤ next.stop := by
  have stopsEarly : window.stop < 1440 := window.endLocal.localMinute_lt
  have someMinute := past.2
  have early : window.stop - 1 < 1440 := by omega
  have range : 1 ≤ nextDay day ∧ nextDay day ≤ 7 := by
    unfold nextDay
    omega
  have carries : window.Carries (window.stop - 1) := ⟨past.1, by omega⟩
  have declared := (accepted.declaredAt_iff range early).mpr
    ⟨window, listed, day, onDay, .inr ⟨rfl, carries⟩⟩
  obtain ⟨next, nextListed, nextOnDay, opens | nextCarries⟩ :=
    anyWindowMatches_iff.mp ((agreed _ range.1 range.2 _ early).mp declared)
  · -- a window that opens in these minutes would overlap what is carried into them
    exfalso
    have both := accepted.same listed nextListed onDay nextOnDay
      ((dayIntervals_contains (accepted.weekdays _ listed _ onDay) range early).mpr
        (.inr ⟨rfl, carries⟩))
      ((dayIntervals_contains range range early).mpr (.inl ⟨rfl, opens⟩))
    have moved := both.2
    unfold nextDay at moved
    omega
  · refine ⟨next, nextListed, nextCarries.past, nextOnDay, ?_⟩
    have later := nextCarries.2
    omega

theorem handed_around (count : Nat) : ∃ later ∈ windows, later.Carries 0 ∧
    nextDay^[count] day ∈ later.daysOfWeek ∧ window.stop ≤ later.stop := by
  induction count with
  | zero => exact ⟨window, listed, past, onDay, Nat.le_refl _⟩
  | succ count ih =>
      obtain ⟨later, laterListed, laterPast, laterOnDay, longer⟩ := ih
      obtain ⟨next, nextListed, nextPast, nextOnDay, longerStill⟩ :=
        accepted.handed_on agreed laterListed laterPast laterOnDay
      rw [Function.iterate_succ_apply']
      exact ⟨next, nextListed, nextPast, nextOnDay, longer.trans longerStill⟩

omit listed past onDay in
/-- Handed around the week, early minutes come back to the day they started from, so no
day on the way has more of them. -/
theorem same_of_agrees : SameEarlyMinutesEveryDay windows := by
  intro window listed past day first last
  obtain ⟨origin, onOrigin⟩ := exists_mem_of_ne_nil _ (accepted.occupied window listed)
  have range := accepted.weekdays window listed origin onOrigin
  obtain ⟨there, thereListed, therePast, thereOnDay, longer⟩ :=
    accepted.handed_around agreed listed past onOrigin (day + 7 - origin)
  have arrives : nextDay^[day + 7 - origin] origin = day := by
    rw [nextDay_iterate range]
    omega
  rw [arrives] at thereOnDay
  obtain ⟨back, backListed, backPast, backOnDay, longerBack⟩ :=
    accepted.handed_around agreed thereListed therePast thereOnDay (origin + 7 - day)
  have returns : nextDay^[origin + 7 - day] day = origin := by
    rw [nextDay_iterate ⟨first, last⟩]
    omega
  rw [returns] at backOnDay
  obtain rfl := accepted.one_past_midnight listed backListed past backPast onOrigin backOnDay
  exact ⟨there, thereListed, therePast, thereOnDay,
    LocalTime.localMinute_injective (Nat.le_antisymm longerBack longer)⟩

end AcceptedWindows

/-- Accepted windows are enforced as they are declared exactly when every weekday has the same early
minutes. -/
theorem declared_windows_are_enforced_iff
    (accepted : normalizeLocalTimeWindows value = .ok windows) :
    CoverageAgrees windows ↔ SameEarlyMinutesEveryDay windows :=
  ⟨(accepted_of_normalized accepted).same_of_agrees, (accepted_of_normalized accepted).agrees⟩

def nightOn (daysOfWeek : List Nat) : LocalTimeWindow := ⟨daysOfWeek, ⟨22, 0⟩, ⟨6, 0⟩⟩

def nightWindowsJson (daysOfWeek : List Json) : Json :=
  .arr [.obj [("daysOfWeek", .arr daysOfWeek), ("startLocal", .str "22:00"),
    ("endLocal", .str "06:00")]]

def everyWeekday : List Nat := [1, 2, 3, 4, 5, 6, 7]

theorem declared_windows_are_enforced_every_night : CoverageAgrees [nightOn everyWeekday] := by
  have accepted : normalizeLocalTimeWindows
      (nightWindowsJson [.num 1, .num 2, .num 3, .num 4, .num 5, .num 6, .num 7]) =
        .ok [nightOn everyWeekday] := rfl
  refine (declared_windows_are_enforced_iff accepted).mpr fun window listed past day first last => ?_
  obtain rfl := mem_singleton.mp listed
  refine ⟨nightOn everyWeekday, listed, past, ?_, rfl⟩
  simp only [nightOn, everyWeekday, mem_cons, not_mem_nil, or_false]
  omega

/-- On Tuesday at five in the morning the night that began on Monday is declared, but the
evaluator does not enforce it. -/
theorem monday_night_is_not_enforced :
    normalizeLocalTimeWindows (nightWindowsJson [.num 1]) = .ok [nightOn [1]] ∧
      ¬ CoverageAgrees [nightOn [1]] := by
  refine ⟨rfl, fun agrees => ?_⟩
  have declared : DeclaredAt [nightOn [1]] 2 300 := by decide
  have enforced := (agrees 2 (by decide) (by decide) 300 (by decide)).mp declared
  exact absurd enforced (by decide)

end DContact.Governance
