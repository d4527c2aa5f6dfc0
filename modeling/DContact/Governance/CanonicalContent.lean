import DContact.Governance.PolicyStore
import DContact.Governance.WindowCoverage

/-!
# The canonical form of policy content

Contents that list their windows, weekdays, rule codes or holidays in another order normalize to
one content. Normalized content normalizes to itself, and no two of its windows share a minute of
the week.
-/

namespace DContact.Governance

open Lib List LocalTime Json

theorem digit?_of_isDigit {character : Char} (digit : character.isDigit = true) :
    digit? character = some (character.toNat - '0'.toNat) := by
  rw [digit?, if_pos]
  simpa [Char.isDigit, Char.le_def] using digit

theorem padStart_digits (width value : Nat) :
    ∀ character ∈ (padStart width value).toList, character.isDigit = true := by
  intro character mem
  simp only [padStart, String.toList_ofList, List.leftpad, mem_append, mem_replicate] at mem
  rcases mem with ⟨-, rfl⟩ | mem
  · decide
  · exact Nat.isDigit_of_mem_toDigits (by decide) (by decide) mem

theorem twoDigits?_of_isDigit {tens ones : Char} (high : tens.isDigit = true)
    (low : ones.isDigit = true) :
    twoDigits? tens ones = some (Nat.ofDigitChars 10 [tens, ones] 0) := by
  simp [twoDigits?, digit?_of_isDigit high, digit?_of_isDigit low, Nat.ofDigitChars_cons,
    Nat.mul_comm]

theorem twoDigits?_padStart {value : Nat} (small : value < 100) :
    ∃ tens ones, (padStart 2 value).toList = [tens, ones] ∧ twoDigits? tens ones = some value := by
  have two : (padStart 2 value).toList.length = 2 := length_padStart (by decide) small
  obtain ⟨tens, ones, chars⟩ := length_eq_two.mp two
  have digits := padStart_digits 2 value
  have back := ofDigitChars_padStart 2 value
  rw [chars] at digits back
  have read := twoDigits?_of_isDigit (digits tens (by simp)) (digits ones (by simp))
  exact ⟨tens, ones, chars, back ▸ read⟩

theorem LocalTime.length_text (time : LocalTime) : time.text.toList.length = 5 := by
  have early : time.hour.val < 10 ^ 2 ∧ time.minute.val < 10 ^ 2 := by omega
  simp [text, length_padStart (by decide) early.1, length_padStart (by decide) early.2]

theorem LocalTime.ofText?_text (time : LocalTime) : ofText? time.text = some time := by
  have early : time.hour.val < 100 ∧ time.minute.val < 100 := by omega
  obtain ⟨h1, h2, hours, hour⟩ := twoDigits?_padStart early.1
  obtain ⟨m1, m2, minutes, minute⟩ := twoDigits?_padStart early.2
  have chars : time.text.toList = [h1, h2, ':', m1, m2] := by
    simp [text, hours, minutes]
  simp [ofText?, chars, hour, minute]

theorem CalendarDate.ofText?_text (date : CalendarDate) :
    CalendarDate.ofText? date.text = some date := by
  have four : (padStart 4 date.year).toList.length = 4 := length_padStart (by decide) date.year.isLt
  obtain ⟨y1, y2, y3, y4, years⟩ := length_eq_four.mp four
  obtain ⟨m1, m2, months, month⟩ := twoDigits?_padStart date.month.isLt
  obtain ⟨d1, d2, days, day⟩ := twoDigits?_padStart date.day.isLt
  have digits := padStart_digits 4 date.year
  have back := ofDigitChars_padStart 4 date.year
  rw [years] at digits back
  have century := twoDigits?_of_isDigit (digits y1 (by simp)) (digits y2 (by simp))
  have year := twoDigits?_of_isDigit (digits y3 (by simp)) (digits y4 (by simp))
  have whole : Nat.ofDigitChars 10 [y1, y2] 0 * 100 + Nat.ofDigitChars 10 [y3, y4] 0 = date.year := by
    rw [← back]
    simp only [Nat.ofDigitChars_cons, Nat.ofDigitChars_nil]
    omega
  have chars : date.text.toList = [y1, y2, y3, y4, '-', m1, m2, '-', d1, d2] := by
    simp [CalendarDate.text, years, months, days]
  simp [CalendarDate.ofText?, chars, century, year, month, day, whole]

/-- Where two values are read by name, they hold related values. -/
def SameFields (related : String → Json → Json → Prop) (left right : Json) : Prop :=
  ∀ name, Option.Rel (related name) (left.get? name) (right.get? name)

/-- The same value twice, or two arrays whose items are related. -/
inductive SameItems (related : List Json → List Json → Prop) : Json → Json → Prop where
  | same (value : Json) : SameItems related value value
  | items {left right : List Json} (alike : related left right) :
      SameItems related (.arr left) (.arr right)

/-- Two arrays hold related elements, in any order. -/
abbrev Permuted (related : Json → Json → Prop) : Json → Json → Prop :=
  SameItems fun left right => ∃ middle, left.Perm middle ∧ List.Forall₂ related middle right

/-- Two arrays hold the same elements, in any order and any number of times. -/
abbrev SameMembers : Json → Json → Prop :=
  SameItems fun left right => ∀ item, item ∈ left ↔ item ∈ right

def SameWindow : Json → Json → Prop :=
  SameFields fun name => if name = "daysOfWeek" then SameMembers else Eq

def SameHoliday : Json → Json → Prop :=
  SameFields fun name => if name = "windows" then Permuted SameWindow else Eq

def SameContent : Json → Json → Prop :=
  SameFields fun name =>
    if name = "quietHours" then Permuted SameWindow
    else if name = "overridableRules" ∨ name = "allowedOperationalRuleCodes" then SameMembers
    else if name = "holidays" then Permuted SameHoliday
    else Eq

variable {left right : Json} {index otherIndex : Nat}

theorem nodup_eraseDups {α : Type} [BEq α] [LawfulBEq α] :
    (items : List α) → items.eraseDups.Nodup
  | [] => nodup_nil
  | item :: rest => by
      rw [eraseDups_cons, nodup_cons, mem_eraseDups]
      exact ⟨by simp, nodup_eraseDups _⟩
termination_by items => items.length
decreasing_by exact Nat.lt_succ_of_le (List.length_filter_le _ _)

theorem eraseDups_perm {α : Type} [BEq α] [LawfulBEq α] {left right : List α}
    (same : ∀ item, item ∈ left ↔ item ∈ right) : left.eraseDups.Perm right.eraseDups := by
  rw [perm_ext_iff_of_nodup (nodup_eraseDups left) (nodup_eraseDups right)]
  simpa only [mem_eraseDups] using same

theorem eraseDups_of_nodup {α : Type} [BEq α] [LawfulBEq α] {items : List α}
    (distinct : items.Nodup) : items.eraseDups = items := by
  induction items with
  | nil => rfl
  | cons item rest ih =>
      obtain ⟨absent, others⟩ := nodup_cons.mp distinct
      have kept : rest.filter (fun other => !other == item) = rest := by
        refine filter_eq_self.mpr fun other mem => ?_
        simpa using fun same : other = item => absent (same ▸ mem)
      rw [eraseDups_cons, kept, ih others]

theorem sortDays_sorted (days : List Nat) : (sortDays days).Pairwise (· ≤ ·) :=
  pairwise_insertionSort _ _

theorem sortDays_congr {left right : List Nat} (same : ∀ day, day ∈ left ↔ day ∈ right) :
    sortDays left = sortDays right := by
  have moved : (sortDays left).Perm (sortDays right) :=
    (perm_insertionSort _ _).trans
      ((eraseDups_perm same).trans (perm_insertionSort _ _).symm)
  exact moved.eq_of_pairwise (fun _ _ _ _ => Nat.le_antisymm) (sortDays_sorted left)
    (sortDays_sorted right)

theorem sortDays_idem (days : List Nat) : sortDays (sortDays days) = sortDays days := by
  exact sortDays_congr fun day => mem_sortDays

variable {days : List Nat}

theorem normalizeDays_congr {left right : Option Json} {otherDays : List Nat}
    (same : Option.Rel SameMembers left right) (ok : normalizeDays left index = .ok days)
    (otherOk : normalizeDays right otherIndex = .ok otherDays) : days = otherDays := by
  obtain ⟨items, read, rfl, itemsRead, -, rfl⟩ := normalizeDays_ok ok
  obtain ⟨others, otherRead, rfl, othersRead, -, rfl⟩ := normalizeDays_ok otherOk
  refine sortDays_congr fun day => ?_
  rw [mem_weekdays itemsRead, mem_weekdays othersRead]
  cases same with
  | some same =>
      cases same with
      | same => rfl
      | items alike => simp only [alike]

variable {value : Option Json} {field otherField : String}

theorem localMinute_congr {time other : LocalTime} (ok : localMinute value field = .ok time)
    (otherOk : localMinute value otherField = .ok other) : time = other := by
  unfold localMinute at ok otherOk
  dsimp only at ok otherOk
  repeat' split at ok
  all_goals cases ok
  simp_all

theorem rel_eq {left right : Option Json} (same : Option.Rel Eq left right) : left = right := by
  cases same with
  | some same => rw [same]
  | none => rfl

variable {window : LocalTimeWindow}

theorem normalizeWindow_congr {other : LocalTimeWindow} (same : SameWindow left right)
    (ok : normalizeWindow index left = .ok window)
    (otherOk : normalizeWindow otherIndex right = .ok other) : window = other := by
  obtain ⟨daysOk, ⟨_, startOk⟩, _, endOk⟩ := normalizeWindow_ok ok
  obtain ⟨otherDaysOk, ⟨_, otherStartOk⟩, _, otherEndOk⟩ := normalizeWindow_ok otherOk
  have days := normalizeDays_congr (same "daysOfWeek") daysOk otherDaysOk
  have start := localMinute_congr startOk (rel_eq (same "startLocal") ▸ otherStartOk)
  have stop := localMinute_congr endOk (rel_eq (same "endLocal") ▸ otherEndOk)
  cases window
  cases other
  simp_all

theorem day_text (day : Nat) : (toString day).toList = Nat.toDigits 10 day := by
  simp [Nat.repr]

theorem daysKey_injective {left right : LocalTimeWindow} (some_ : left.daysOfWeek ≠ [])
    (other_ : right.daysOfWeek ≠ []) (same : daysKey left = daysKey right) :
    left.daysOfWeek = right.daysOfWeek := by
  have parts (window : LocalTimeWindow) (occupied : window.daysOfWeek ≠ []) :
      Text.split (daysKey window) ',' = window.daysOfWeek.map toString := by
    refine Text.split_intercalate (fun part mem => ?_) (by simpa using occupied)
    obtain ⟨day, -, rfl⟩ := mem_map.mp mem
    rw [day_text]
    exact fun comma => absurd (Nat.isDigit_of_mem_toDigits (by decide) (by decide) comma) (by decide)
  have texts : left.daysOfWeek.map toString = right.daysOfWeek.map toString := by
    rw [← parts left some_, ← parts right other_, same]
  refine map_injective_iff.mpr (fun day other equal => ?_) texts
  have digits := congrArg (fun text : String => Nat.ofDigitChars 10 text.toList 0) equal
  simpa only [day_text, Nat.ofDigitChars_ten_toDigits] using digits

theorem LocalTime.text_injective {left right : LocalTime} (same : left.text = right.text) :
    left = right := by
  have read := congrArg ofText? same
  rwa [ofText?_text, ofText?_text, Option.some.injEq] at read

theorem windowKey_injective {left right : LocalTimeWindow} (some_ : left.daysOfWeek ≠ [])
    (other_ : right.daysOfWeek ≠ []) (same : windowKey left = windowKey right) : left = right := by
  have lists := congrArg String.toList same
  simp only [windowKey, String.toList_append] at lists
  obtain ⟨front, ends⟩ := append_inj' lists
    (by rw [length_text, length_text])
  obtain ⟨front, -⟩ := append_inj' front rfl
  obtain ⟨front, starts⟩ := append_inj' front
    (by rw [length_text, length_text])
  obtain ⟨keys, -⟩ := append_inj' front rfl
  have days := daysKey_injective some_ other_ (String.toList_inj.mp keys)
  have start := text_injective (String.toList_inj.mp starts)
  have stop := text_injective (String.toList_inj.mp ends)
  cases left
  cases right
  simp_all

variable {windows others : List LocalTimeWindow}

theorem AcceptedWindows.nodup (accepted : AcceptedWindows windows) : windows.Nodup := by
  refine (pairwise_flatMap.mp accepted.apart).2.imp_of_mem
    fun {window other} mem _ apart same => ?_
  subst same
  obtain ⟨day, onDay⟩ := exists_mem_of_ne_nil _ (accepted.occupied window mem)
  have range := accepted.weekdays window mem day onDay
  have opens : window.Opens window.start := ⟨Nat.le_refl _, Nat.lt_or_ge _ _⟩
  obtain ⟨interval, isOf, inside⟩ := (dayIntervals_contains range range
    window.startLocal.localMinute_lt).mpr (.inl ⟨rfl, opens⟩)
  have listed := mem_flatMap.mpr ⟨day, onDay, isOf⟩
  exact apart interval listed interval listed _ inside inside

theorem AcceptedWindows.perm (accepted : AcceptedWindows windows) (moved : windows.Perm others) :
    AcceptedWindows others where
  occupied window mem := accepted.occupied window (moved.mem_iff.mpr mem)
  weekdays window mem := accepted.weekdays window (moved.mem_iff.mpr mem)
  apart := ((moved.flatMap_right _).pairwise_iff MinutesApart.symm).mp accepted.apart

/-- The order of accepted windows is lost in sorting. -/
theorem AcceptedWindows.sorted (accepted : AcceptedWindows windows) (moved : windows.Perm others) :
    sortWindows windows = sortWindows others := by
  refine Text.sortBy_eq_of_perm moved ?_
  refine accepted.nodup.map_on fun left leftMem right rightMem same => ?_
  exact windowKey_injective (accepted.occupied left leftMem) (accepted.occupied right rightMem) same

theorem windows_congr (same : Permuted SameWindow left right)
    (ok : normalizeLocalTimeWindows left = .ok windows)
    (otherOk : normalizeLocalTimeWindows right = .ok others) :
    sortWindows windows = sortWindows others := by
  obtain ⟨items, normalized, rfl, read, -, order⟩ := normalizeLocalTimeWindows_ok ok
  obtain ⟨otherItems, otherNormalized, rfl, otherRead, -, otherOrder⟩ :=
    normalizeLocalTimeWindows_ok otherOk
  refine (accepted_of_normalized ok).sorted (order.trans (.trans ?_ otherOrder.symm))
  cases same with
  | same =>
      rw [Except.ok.inj (read.symm.trans otherRead)]
  | items alike =>
      obtain ⟨_, moved, alike⟩ := alike
      refine readFrom_perm (fun same => ?_) moved alike read otherRead
      rintro ⟨_, ok⟩ ⟨_, otherOk⟩
      exact normalizeWindow_congr same ok otherOk

variable {code : String}

theorem ruleCode_congr {value : Json} {other : String} (ok : ruleCode field index value = .ok code)
    (otherOk : ruleCode otherField otherIndex value = .ok other) : code = other := by
  unfold ruleCode at ok otherOk
  repeat' split at ok
  all_goals cases ok
  simp_all

variable {codes : List String}

theorem ruleCodeList_ok (ok : ruleCodeList left field = .ok codes) : ∃ items read,
      left = .arr items ∧ readFrom (ruleCode field) 0 items = .ok read ∧
      codes = Text.sortBy id read.eraseDups := by
  unfold ruleCodeList at ok
  split at ok
  next items =>
    obtain ⟨read, readOk, ok⟩ := bind_ok ok
    cases ok
    exact ⟨items, read, rfl, readOk, rfl⟩
  next => cases ok

theorem mem_codes {items : List Json}
    (reads : List.Forall₂ (Json.Reads (ruleCode field)) items codes) :
    code ∈ codes ↔ ∃ item ∈ items, Json.Reads (ruleCode field) item code := by
  induction reads with
  | nil => simp
  | @cons item first rest others reads _ ih =>
      have one : code = first ↔ Json.Reads (ruleCode field) item code := by
        refine ⟨fun same => same ▸ reads, fun ⟨_, ok⟩ => ?_⟩
        obtain ⟨_, firstOk⟩ := reads
        exact ruleCode_congr ok firstOk
      simp only [mem_cons, one, ih, exists_eq_or_imp]

theorem ruleCodeList_congr {otherCodes : List String} (same : SameMembers left right)
    (ok : ruleCodeList left field = .ok codes) (otherOk : ruleCodeList right field = .ok otherCodes) :
    codes = otherCodes := by
  obtain ⟨items, read, rfl, readOk, rfl⟩ := ruleCodeList_ok ok
  obtain ⟨others, otherRead, rfl, otherReadOk, rfl⟩ := ruleCodeList_ok otherOk
  refine Text.sortBy_eq_of_perm (eraseDups_perm fun code => ?_) (by simpa using nodup_eraseDups read)
  rw [mem_codes (forall₂_of_readFrom readOk), mem_codes (forall₂_of_readFrom otherReadOk)]
  cases same with
  | same => rfl
  | items alike => simp only [alike]

variable {entry : HolidayEntry}

theorem holidayEntry_ok (ok : holidayEntry index left = .ok entry) :
    (∃ text, left.get? "localDate" = some (.str text) ∧
      CalendarDate.ofText? text = some entry.localDate) ∧
    ((left.get? "effect" = some (.str "CLOSED") ∧ entry.effect = .closed ∧ entry.windows = []) ∨
      ∃ windows, left.get? "effect" = some (.str "WINDOWS") ∧ entry.effect = .windows ∧
        normalizeLocalTimeWindows (orElse (left.get? "windows") (.arr [])) = .ok windows ∧
        windows ≠ [] ∧ entry.windows = sortWindows windows) := by
  obtain ⟨fields, fieldsOk, rest⟩ := bind_ok ok
  obtain rfl := record_ok fieldsOk
  clear ok fieldsOk
  dsimp only at rest
  split at rest
  next text found =>
    split at rest
    next date read =>
      obtain ⟨localDate, ⟨⟩, rest⟩ := bind_ok rest
      split at rest
      next effect =>
        cases rest
        exact ⟨⟨text, found, read⟩, .inl ⟨effect, rfl, rfl⟩⟩
      next effect =>
        obtain ⟨windows, windowsOk, rest⟩ := bind_ok rest
        split at rest
        next => cases rest
        next some_ =>
          cases rest
          exact ⟨⟨text, found, read⟩,
            .inr ⟨windows, effect, rfl, windowsOk, by simpa using some_, rfl⟩⟩
      next => cases rest
    next => cases rest
  next => cases rest

theorem orElse_congr {related : List Json → List Json → Prop} {left right : Option Json}
    (same : Option.Rel (SameItems related) left right) :
    SameItems related (orElse left (.arr [])) (orElse right (.arr [])) := by
  cases same with
  | none => exact .same _
  | some same =>
      cases same with
      | same => exact .same _
      | items alike => exact .items alike

theorem holidayEntry_congr {other : HolidayEntry} (same : SameHoliday left right)
    (ok : holidayEntry index left = .ok entry) (otherOk : holidayEntry otherIndex right = .ok other) :
    entry = other := by
  obtain ⟨⟨text, found, date⟩, effect⟩ := holidayEntry_ok ok
  obtain ⟨⟨otherText, otherFound, otherDate⟩, otherEffect⟩ := holidayEntry_ok otherOk
  have texts := found.symm.trans ((rel_eq (same "localDate")).trans otherFound)
  have dates : entry.localDate = other.localDate := by
    cases texts
    exact Option.some.inj (date.symm.trans otherDate)
  have effects : left.get? "effect" = right.get? "effect" := rel_eq (same "effect")
  rcases effect with ⟨closed, isClosed, none_⟩ | ⟨windows, opens, isOpen, windowsOk, -, sorted⟩ <;>
    rcases otherEffect with ⟨otherClosed, otherIsClosed, otherNone⟩ |
      ⟨others, otherOpens, otherIsOpen, othersOk, -, otherSorted⟩
  · cases entry
    cases other
    simp_all
  · simp [closed, otherOpens] at effects
  · simp [opens, otherClosed] at effects
  · have equal := windows_congr (orElse_congr (same "windows")) windowsOk othersOk
    cases entry
    cases other
    simp_all

theorem sortHolidays_congr {read other : List HolidayEntry} (moved : read.Perm other)
    (distinct : (read.map HolidayEntry.localDate).Nodup) :
    Text.sortBy (fun entry => entry.localDate.text) read =
      Text.sortBy (fun entry => entry.localDate.text) other := by
  refine Text.sortBy_eq_of_perm moved ?_
  rw [show (fun entry : HolidayEntry => entry.localDate.text) =
    CalendarDate.text ∘ HolidayEntry.localDate from rfl, ← map_map]
  exact distinct.map fun _ _ => CalendarDate.text_injective

variable {entries : List HolidayEntry}

theorem holidayEntries_congr {others : List HolidayEntry} (same : Permuted SameHoliday left right)
    (ok : holidayEntries left = .ok entries) (otherOk : holidayEntries right = .ok others) :
    entries = others := by
  obtain ⟨items, read, rfl, readOk, distinct, rfl⟩ := holidayEntries_ok ok
  obtain ⟨otherItems, otherRead, rfl, otherReadOk, -, rfl⟩ := holidayEntries_ok otherOk
  refine sortHolidays_congr ?_ distinct
  cases same with
  | same => rw [Except.ok.inj (readOk.symm.trans otherReadOk)]
  | items alike =>
      obtain ⟨_, moved, alike⟩ := alike
      refine readFrom_perm (fun same => ?_) moved alike readOk otherReadOk
      rintro ⟨_, ok⟩ ⟨_, otherOk⟩
      exact holidayEntry_congr same ok otherOk

variable {zones : ZoneDatabase} {content other : PolicyContent}

theorem ReadAs.congr (same : SameContent left right) (read : ReadAs zones left content)
    (otherRead : ReadAs zones right other) : content = other := by
  obtain ⟨windows, windowsOk, quiet⟩ := read.quietHours
  obtain ⟨others, othersOk, otherQuiet⟩ := otherRead.quietHours
  have timezone := read.timezone
  rw [rel_eq (same "timezoneFallback"), otherRead.timezone] at timezone
  have mode := read.callbackMode
  rw [rel_eq (same "callbackMode"), otherRead.callbackMode] at mode
  have hours := windows_congr (orElse_congr (same "quietHours")) windowsOk othersOk
  have rules := ruleCodeList_congr (orElse_congr (same "overridableRules")) read.overridableRules
    otherRead.overridableRules
  have operational := ruleCodeList_congr (orElse_congr (same "allowedOperationalRuleCodes"))
    read.allowedOperationalRuleCodes otherRead.allowedOperationalRuleCodes
  have holidays := holidayEntries_congr (orElse_congr (same "holidays")) read.holidays
    otherRead.holidays
  cases content
  cases other
  simp_all

theorem weekdays_json (range : ∀ day ∈ days, 1 ≤ day ∧ day ≤ 7) :
    (days.map fun day : Nat => num day).mapM weekday? = some days := by
  induction days with
  | nil => rfl
  | cons day rest ih =>
      obtain ⟨here, later⟩ := forall_mem_cons.mp range
      have one : weekday? (.num day) = some day := by
        simp [weekday?, integer?]
        omega
      simp [mapM_cons, one, ih later]

theorem normalizeDays_json (occupied : days ≠ []) (range : ∀ day ∈ days, 1 ≤ day ∧ day ≤ 7)
    (sorted : sortDays days = days) :
    normalizeDays (some (.arr (days.map fun day : Nat => .num day))) index = .ok days := by
  cases days with
  | nil => exact absurd rfl occupied
  | cons day rest =>
      simp only [normalizeDays, weekdays_json range]
      exact congrArg _ sorted

/-- A window as normalization returns it. -/
def NormalWindow (window : LocalTimeWindow) : Prop :=
  window.daysOfWeek ≠ [] ∧ (∀ day ∈ window.daysOfWeek, 1 ≤ day ∧ day ≤ 7) ∧
    sortDays window.daysOfWeek = window.daysOfWeek

theorem localMinute_text (time : LocalTime) (field : String) :
    localMinute (some (.str time.text)) field = .ok time := by
  simp [localMinute, ofText?_text]

theorem normalizeWindow_json (normal : NormalWindow window) :
    normalizeWindow index window.toJson = .ok window := by
  obtain ⟨occupied, range, sorted⟩ := normal
  have lifted : (List.flatMap (fun day : Nat => [(day : Rat)]) window.daysOfWeek).map num =
      window.daysOfWeek.map fun day : Nat => num day := by
    rw [← map_eq_flatMap, map_map]
    rfl
  simp [normalizeWindow, LocalTimeWindow.toJson, field, bind, Except.bind, lifted,
    normalizeDays_json occupied range sorted, localMinute_text]

theorem sortIntervals_congr {left right : List (Nat × Nat)} (moved : left.Perm right) :
    sortIntervals left = sortIntervals right := by
  have order (intervals : List (Nat × Nat)) := sortIntervals_lex intervals
  have same : (sortIntervals left).Perm (sortIntervals right) :=
    (sortIntervals_perm left).trans (moved.trans (sortIntervals_perm right).symm)
  refine same.eq_of_pairwise (fun first second _ _ forward backward => ?_) (order left) (order right)
  exact Prod.ext (by omega) (by omega)

theorem windows_again (ok : normalizeLocalTimeWindows left = .ok windows) :
    ∃ again, normalizeLocalTimeWindows (.arr ((sortWindows windows).map LocalTimeWindow.toJson)) =
      .ok again ∧ sortWindows again = sortWindows windows := by
  obtain ⟨items, normalized, rfl, read, separate, order⟩ := normalizeLocalTimeWindows_ok ok
  have accepted := accepted_of_normalized ok
  have moved : (sortWindows windows).Perm normalized := (Text.sortBy_perm _ _).trans order
  have normal : ∀ window ∈ sortWindows windows, NormalWindow window := by
    intro window mem
    have listed := (Text.sortBy_perm windowKey windows).mem_iff.mp mem
    refine ⟨accepted.occupied window listed, accepted.weekdays window listed, ?_⟩
    obtain ⟨item, -, _, readOk⟩ := exists_reads (forall₂_of_readFrom read)
      (moved.mem_iff.mp mem)
    obtain ⟨_, days, -, -, -, same⟩ := normalizeDays_ok (normalizeWindow_ok readOk).1
    rw [same, sortDays_idem]
  have again : readFrom normalizeWindow 0 ((sortWindows windows).map LocalTimeWindow.toJson) =
      .ok (sortWindows windows) :=
    readFrom_map fun window mem index => normalizeWindow_json (normal window mem)
  have apart : overlapping (sortIntervals (windowIntervals (sortWindows windows))) = false := by
    rw [windowIntervals, sortIntervals_congr (moved.flatMap_right _)]
    exact separate
  have sorted (key : LocalTimeWindow → String) (windows : List LocalTimeWindow) :
      windows.Perm (Text.sortBy key windows) := (Text.sortBy_perm key windows).symm
  refine ⟨_, by simp only [normalizeLocalTimeWindows, again, apart, bind, Except.bind]; rfl, ?_⟩
  exact (accepted.sorted ((sorted _ _).trans ((sorted _ _).trans
    ((sorted _ _).trans (sorted _ _))))).symm

theorem codes_again (ok : ruleCodeList left field = .ok codes) :
    ruleCodeList (.arr (codes.map .str)) field = .ok codes := by
  obtain ⟨items, read, rfl, readOk, rfl⟩ := ruleCodeList_ok ok
  have distinct := nodup_eraseDups read
  have sorted := Text.sortBy_perm id read.eraseDups
  have again : readFrom (ruleCode field) 0 ((Text.sortBy id read.eraseDups).map .str) =
      .ok (Text.sortBy id read.eraseDups) := by
    refine readFrom_map fun code mem index => ?_
    have listed := mem_eraseDups.mp (sorted.mem_iff.mp mem)
    obtain ⟨item, -, _, itemOk⟩ := exists_reads (forall₂_of_readFrom readOk) listed
    unfold ruleCode at itemOk
    split at itemOk
    next text =>
      split at itemOk
      next => cases itemOk
      next visible =>
        cases itemOk
        simp [ruleCode, Text.trim_trim, Text.isBlank_trim (Bool.eq_false_iff.mpr visible)]
    next => cases itemOk
  have kept := eraseDups_of_nodup (sorted.nodup_iff.mpr distinct)
  simp only [ruleCodeList, again, kept, bind, Except.bind]
  rw [← Text.sortBy_eq_of_perm sorted.symm (by simpa using distinct)]

theorem holiday_again (ok : holidayEntry index left = .ok entry) :
    holidayEntry otherIndex entry.toJson = .ok entry := by
  obtain ⟨-, ⟨-, closed, none_⟩ | ⟨windows, -, opens, windowsOk, some_, sorted⟩⟩ :=
    holidayEntry_ok ok
  · cases entry
    subst closed none_
    simp [holidayEntry, HolidayEntry.toJson, record, field, CalendarDate.ofText?_text, bind,
      Except.bind]
  · obtain ⟨again, againOk, same⟩ := windows_again windowsOk
    cases entry
    subst opens sorted
    have nonempty : again ≠ [] := by
      rintro rfl
      have empty := Text.sortBy_perm windowKey windows
      rw [show Text.sortBy windowKey windows = [] from same.symm] at empty
      exact some_ empty.symm.eq_nil
    simp [holidayEntry, HolidayEntry.toJson, record, field, CalendarDate.ofText?_text, bind,
      Except.bind, orElse, againOk, same, nonempty]

theorem holidays_again (ok : holidayEntries left = .ok entries) :
    holidayEntries (.arr (entries.map HolidayEntry.toJson)) = .ok entries := by
  obtain ⟨items, read, rfl, readOk, distinct, rfl⟩ := holidayEntries_ok ok
  have sorted := Text.sortBy_perm (fun entry : HolidayEntry => entry.localDate.text) read
  have again : readFrom holidayEntry 0
      ((Text.sortBy (fun entry => entry.localDate.text) read).map HolidayEntry.toJson) =
      .ok (Text.sortBy (fun entry => entry.localDate.text) read) := by
    refine readFrom_map fun entry mem index => ?_
    obtain ⟨item, -, _, itemOk⟩ := exists_reads (forall₂_of_readFrom readOk)
      (sorted.mem_iff.mp mem)
    exact holiday_again itemOk
  have kept := (sorted.map HolidayEntry.localDate).nodup_iff.mpr distinct
  simp only [holidayEntries, again, bind, Except.bind, if_pos kept]
  rw [← sortHolidays_congr sorted.symm distinct]

theorem timezone_again {zone : Option String} (ok : timezoneField zones value = .ok zone) :
    timezoneField zones (some (zone.elim .null .str)) = .ok zone := by
  cases zone with
  | none => rfl
  | some zone =>
      obtain ⟨text, visible, known, rfl⟩ := timezoneField_ok ok
      simp [timezoneField, Text.trim_trim, known, Text.isBlank_trim visible]

theorem ReadAs.again (read : ReadAs zones left content) :
    normalizeCg4PolicyContent zones content.toJson = .ok content := by
  obtain ⟨windows, windowsOk, quiet⟩ := read.quietHours
  obtain ⟨again, againOk, same⟩ := windows_again windowsOk
  have mode : callbackMode? (some (.str content.callbackMode.text)) = some content.callbackMode := by
    cases content.callbackMode <;> rfl
  rw [← quiet] at againOk same
  simp [normalizeCg4PolicyContent, PolicyContent.toJson, record, contentFields, field, mode,
    timezone_again read.timezone, orElse, againOk, same, codes_again read.overridableRules,
    codes_again read.allowedOperationalRuleCodes, holidays_again read.holidays, bind, Except.bind]

theorem apart_sortWindows (ok : normalizeLocalTimeWindows left = .ok windows) :
    (windowIntervals (sortWindows windows)).Pairwise MinutesApart :=
  ((accepted_of_normalized ok).perm (Text.sortBy_perm windowKey windows).symm).apart

theorem ReadAs.apart (read : ReadAs zones left content) :
    (windowIntervals content.quietHours).Pairwise MinutesApart ∧
      ∀ entry ∈ content.holidays, (windowIntervals entry.windows).Pairwise MinutesApart := by
  obtain ⟨windows, windowsOk, quiet⟩ := read.quietHours
  refine ⟨quiet ▸ apart_sortWindows windowsOk, fun entry mem => ?_⟩
  obtain ⟨items, holidays, -, holidaysOk, -, sorted⟩ := holidayEntries_ok read.holidays
  rw [sorted, Text.mem_sortBy] at mem
  obtain ⟨item, -, _, itemOk⟩ := exists_reads (forall₂_of_readFrom holidaysOk) mem
  obtain ⟨-, ⟨-, -, none_⟩ | ⟨windows, -, -, windowsOk, -, sorted⟩⟩ := holidayEntry_ok itemOk
  · rw [none_]
    exact .nil
  · rw [sorted]
    exact apart_sortWindows windowsOk

end DContact.Governance
