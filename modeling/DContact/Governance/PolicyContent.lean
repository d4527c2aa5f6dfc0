import DContact.Governance.PolicyEvaluator
import DContact.Lib.JsonObject
import DContact.Lib.Transition

/-!
# Policy content and its normalization

Authoring input is an arbitrary JSON value. Normalization either fails with the
error which the source throws or yields canonical content: rule codes without
duplicates in order, windows and holidays in order, and one entry for each date.
The compiled facts are exactly what the evaluator reads.
-/

namespace DContact.Governance

open Lib

/-- `CG4_POLICY_SCHEMA_VERSION`. -/
def policySchemaVersion : Nat := 1

/-- `CG4_EVALUATOR_VERSION`. -/
def evaluatorVersion : String := "CG4_EVALUATOR_V1"

/-- `Cg4PolicyContentV1`. -/
structure PolicyContent where
  timezoneFallback : Option String
  quietHours : List LocalTimeWindow
  callbackMode : CallbackMode
  overridableRules : List String
  allowedOperationalRuleCodes : List String
  holidays : List HolidayEntry

inductive ContentErrorCode where
  | validationFailed
  | scopeInvalid
  | ruleNotRegistered
  | nonOverridableRule
  | policyVersionUnsupported
  | typeError
  | rangeError

structure ContentError where
  code : ContentErrorCode
  message : String

def validationFailed {α : Type} (message : String) : Except ContentError α :=
  .error ⟨.validationFailed, message⟩

/-- A `TypeError` of the host for a value which the source does not inspect. -/
def hostTypeError {α : Type} : Except ContentError α := .error ⟨.typeError, ""⟩

def digit? (character : Char) : Option Nat :=
  if '0' ≤ character ∧ character ≤ '9' then some (character.toNat - '0'.toNat) else none

def twoDigits? (tens ones : Char) : Option Nat := do
  let high ← digit? tens
  let low ← digit? ones
  some (high * 10 + low)

/-- The pattern `^(?:[01]\d|2[0-3]):[0-5]\d$`. -/
def LocalTime.ofText? (text : String) : Option LocalTime :=
  match text.toList with
  | [h1, h2, ':', m1, m2] => do
      let hour ← twoDigits? h1 h2
      let minute ← twoDigits? m1 m2
      if hours : hour < 24 then
        if minutes : minute < 60 then some ⟨⟨hour, hours⟩, ⟨minute, minutes⟩⟩ else none
      else none
  | _ => none

/-- The pattern `^\d{4}-\d{2}-\d{2}$`. -/
def CalendarDate.ofText? (text : String) : Option CalendarDate :=
  match text.toList with
  | [y1, y2, y3, y4, '-', m1, m2, '-', d1, d2] => do
      let century ← twoDigits? y1 y2
      let year ← twoDigits? y3 y4
      let month ← twoDigits? m1 m2
      let day ← twoDigits? d1 d2
      some ⟨Fin.ofNat 10000 (century * 100 + year), Fin.ofNat 100 month, Fin.ofNat 100 day⟩
  | _ => none

def localMinute (value : Option Json) (field : String) : Except ContentError LocalTime :=
  let malformed : Except ContentError LocalTime :=
    .error ⟨.typeError, field ++ " ต้องเป็นเวลา HH:mm"⟩
  match value with
  | some (.str text) =>
      match LocalTime.ofText? text with
      | some time => .ok time
      | none => malformed
  | _ => malformed

def weekday? (value : Json) : Option Nat := do
  let day ← value.integer?
  if 1 ≤ day ∧ day ≤ 7 then some day.toNat else none

/-- Days without duplicates in increasing order; `new Set` of a missing list is empty. -/
def normalizeDays (value : Option Json) (index : Nat) : Except ContentError (List Nat) :=
  let outOfRange : Except ContentError (List Nat) :=
    .error ⟨.typeError, "windows[" ++ toString index ++ "].daysOfWeek ต้องอยู่ระหว่าง 1 ถึง 7"⟩
  match value with
  | some (.arr items) =>
      match items.mapM weekday? with
      | some (day :: rest) =>
          .ok ((day :: rest).eraseDups.insertionSort fun left right => left ≤ right)
      | _ => outOfRange
  | none | some .null | some (.str _) => outOfRange
  | some _ => hostTypeError

def normalizeWindow (index : Nat) (value : Json) : Except ContentError LocalTimeWindow := do
  let fields ←
    match value with
    | .obj fields => .ok fields
    | .null => hostTypeError
    | _ => .ok []
  let daysOfWeek ← normalizeDays (Json.field fields "daysOfWeek") index
  let path := "windows[" ++ toString index ++ "]"
  let startLocal ← localMinute (Json.field fields "startLocal") (path ++ ".startLocal")
  let endLocal ← localMinute (Json.field fields "endLocal") (path ++ ".endLocal")
  .ok ⟨daysOfWeek, startLocal, endLocal⟩

/-- The intervals of the week that one window stands for on one day. A window
which reaches past the end of the week continues at its beginning. -/
def dayIntervals (window : LocalTimeWindow) (day : Nat) : List (Nat × Nat) :=
  let weekMinutes := 7 * 24 * 60
  let startMinute := window.startLocal.localMinute
  let endMinute := window.endLocal.localMinute
  let start := (day - 1) * 24 * 60 + startMinute
  let unwrappedEnd :=
    (day - 1) * 24 * 60 + endMinute + (if endMinute ≤ startMinute then 24 * 60 else 0)
  if unwrappedEnd ≤ weekMinutes then [(start, unwrappedEnd)]
  else [(start, weekMinutes), (0, unwrappedEnd - weekMinutes)]

def windowIntervals (windows : List LocalTimeWindow) : List (Nat × Nat) :=
  windows.flatMap fun window => window.daysOfWeek.flatMap (dayIntervals window)

def sortIntervals (intervals : List (Nat × Nat)) : List (Nat × Nat) :=
  intervals.insertionSort fun left right =>
    left.1 < right.1 ∨ (left.1 = right.1 ∧ left.2 ≤ right.2)

/-- Whether some interval begins before its predecessor has ended. -/
def overlapping : List (Nat × Nat) → Bool
  | first :: second :: rest =>
      decide (second.1 < first.2) || overlapping (second :: rest)
  | _ => false

def daysKey (window : LocalTimeWindow) : String :=
  String.intercalate "," (window.daysOfWeek.map toString)

def windowKey (window : LocalTimeWindow) : String :=
  daysKey window ++ "|" ++ window.startLocal.text ++ "|" ++ window.endLocal.text

def sortWindows (windows : List LocalTimeWindow) : List LocalTimeWindow :=
  Text.sortBy windowKey windows

/-- The final order is lexicographic in days, start and end. On these texts of
digits, commas and colons `localeCompare` and `<` agree. -/
def normalizeLocalTimeWindows (value : Json) : Except ContentError (List LocalTimeWindow) :=
  match value with
  | .arr items => do
      let normalized ← Json.readFrom normalizeWindow 0 items
      if overlapping (sortIntervals (windowIntervals normalized)) then
        .error ⟨.rangeError, "local-time windows ทับซ้อนกันหลัง normalize"⟩
      else
        .ok (Text.sortBy daysKey (Text.sortBy (fun window => window.startLocal.text)
          (Text.sortBy (fun window => window.endLocal.text) normalized)))
  | _ => hostTypeError

def record (value : Json) (field : String) : Except ContentError (List (String × Json)) :=
  match value with
  | .obj fields => .ok fields
  | _ => validationFailed (field ++ " ต้องเป็น object")

def ruleCode (field : String) (index : Nat) (value : Json) : Except ContentError String :=
  match value with
  | .str text =>
      if Text.isBlank text then
        validationFailed (field ++ "[" ++ toString index ++ "] ต้องเป็น string")
      else .ok (Text.trim text)
  | _ => validationFailed (field ++ "[" ++ toString index ++ "] ต้องเป็น string")

def ruleCodeList (value : Json) (field : String) : Except ContentError (List String) :=
  match value with
  | .arr items => do
      let codes ← Json.readFrom (ruleCode field) 0 items
      .ok (Text.sortBy id codes.eraseDups)
  | _ => validationFailed (field ++ " ต้องเป็น array ของ rule code")

/-- `timezone` of the source: an absent zone is `null`. -/
def timezoneField (zones : ZoneDatabase) (value : Option Json) :
    Except ContentError (Option String) :=
  match value with
  | none | some .null => .ok none
  | some (.str text) =>
      if Text.isBlank text then validationFailed "timezoneFallback ต้องเป็น IANA zone"
      else if isValidTimeZone zones (Text.trim text) then .ok (some (Text.trim text))
      else validationFailed
        ("timezoneFallback " ++ Text.trim text ++ " ไม่ใช่ IANA zone ที่รู้จัก")
  | some _ => validationFailed "timezoneFallback ต้องเป็น IANA zone"

def holidayEntry (index : Nat) (value : Json) : Except ContentError HolidayEntry := do
  let path := "holidays[" ++ toString index ++ "]"
  let fields ← record value path
  let localDate ←
    match Json.field fields "localDate" with
    | some (.str text) =>
        match CalendarDate.ofText? text with
        | some date => .ok date
        | none => validationFailed (path ++ ".localDate ต้องเป็น YYYY-MM-DD")
    | _ => validationFailed (path ++ ".localDate ต้องเป็น YYYY-MM-DD")
  match Json.field fields "effect" with
  | some (.str "CLOSED") => .ok ⟨localDate, .closed, []⟩
  | some (.str "WINDOWS") =>
      let windows ← normalizeLocalTimeWindows (Json.orElse (Json.field fields "windows") (.arr []))
      if windows.isEmpty then
        validationFailed (path ++ " แบบ WINDOWS ต้องมีอย่างน้อยหนึ่ง window")
      else
        .ok ⟨localDate, .windows, sortWindows windows⟩
  | _ => validationFailed (path ++ ".effect ต้องเป็น CLOSED หรือ WINDOWS")

/-- `holidays` of the source: at most one entry for each date. -/
def holidayEntries (value : Json) : Except ContentError (List HolidayEntry) :=
  match value with
  | .arr items => do
      let entries ← Json.readFrom holidayEntry 0 items
      if (entries.map HolidayEntry.localDate).Nodup then
        .ok (Text.sortBy (fun entry => entry.localDate.text) entries)
      else
        validationFailed "holidays ต้องมี localDate ไม่ซ้ำ"
  | _ => validationFailed "holidays ต้องเป็น array"

def contentFields : List String :=
  ["timezoneFallback", "quietHours", "callbackMode", "overridableRules",
    "allowedOperationalRuleCodes", "holidays"]

def callbackMode? : Option Json → Option CallbackMode
  | some (.str "NO_OVERRIDE") => some .noOverride
  | some (.str "SCOPED_OVERRIDE") => some .scopedOverride
  | some (.str "TIME_POLICY_OVERRIDE") => some .timePolicyOverride
  | _ => none

/-- Unknown fields are rejected rather than dropped. -/
def normalizeCg4PolicyContent (zones : ZoneDatabase) (raw : Json) :
    Except ContentError PolicyContent := do
  let fields ← record raw "content"
  let unknown := (fields.map Prod.fst).filter fun key => !contentFields.contains key
  if !unknown.isEmpty then
    validationFailed ("content มี field ที่ schema v" ++ toString policySchemaVersion ++
      " ไม่รู้จัก: " ++ String.intercalate ", " (Text.sortBy id unknown))
  else
    match callbackMode? (Json.field fields "callbackMode") with
    | none =>
        validationFailed
          "callbackMode ต้องเป็น NO_OVERRIDE | SCOPED_OVERRIDE | TIME_POLICY_OVERRIDE"
    | some callbackMode =>
        let orEmpty (name : String) : Json := Json.orElse (Json.field fields name) (.arr [])
        let timezoneFallback ← timezoneField zones (Json.field fields "timezoneFallback")
        let quietHours ← normalizeLocalTimeWindows (orEmpty "quietHours")
        let overridableRules ← ruleCodeList (orEmpty "overridableRules") "overridableRules"
        let allowedOperationalRuleCodes ←
          ruleCodeList (orEmpty "allowedOperationalRuleCodes") "allowedOperationalRuleCodes"
        let holidays ← holidayEntries (orEmpty "holidays")
        .ok ⟨timezoneFallback, sortWindows quietHours, callbackMode, overridableRules,
          allowedOperationalRuleCodes, holidays⟩

def ruleCodeProblem (field : String) (mechanism : OverrideMechanism) (mechanismText : String)
    (ruleCode : String) : Option ContentError :=
  let resolution := resolveCg4RuleMetadata ruleCode
  if !resolution.known then
    some ⟨.ruleNotRegistered, field ++ " อ้าง rule " ++ ruleCode ++ " ที่ไม่อยู่ใน " ++
      ruleRegistryVersion⟩
  else if !resolution.metadata.overridable then
    some ⟨.nonOverridableRule, field ++ " อ้าง rule " ++ ruleCode ++ " ที่ override ไม่ได้"⟩
  else if !resolution.metadata.allowedOverrideMechanisms.contains mechanism then
    some ⟨.nonOverridableRule,
      "rule " ++ ruleCode ++ " ไม่รองรับ mechanism " ++ mechanismText⟩
  else
    none

def registryProblem (content : PolicyContent) : Option ContentError :=
  (content.overridableRules.findSome?
    (ruleCodeProblem "overridableRules" .customerCallback "CUSTOMER_CALLBACK")).or
  (content.allowedOperationalRuleCodes.findSome?
    (ruleCodeProblem "allowedOperationalRuleCodes" .approvedException "APPROVED_EXCEPTION"))

/-- `assertCg4PolicyRegistryConsistent`. -/
def assertCg4PolicyRegistryConsistent (content : PolicyContent) : Except ContentError Unit :=
  match registryProblem content with
  | some problem => .error problem
  | none => .ok ()

/-- The projection of a content which the evaluator reads. -/
def PolicyContent.facts (content : PolicyContent) (version : Nat) : PolicyFacts where
  version := version
  timezoneFallback := content.timezoneFallback
  quietHours := content.quietHours
  callbackMode := content.callbackMode
  overridableRules := content.overridableRules
  holidays := content.holidays

/-- `compileCg4Policy` under the current schema, registry and evaluator versions. -/
def compileCg4Policy (zones : ZoneDatabase) (raw : Json) (version : Nat) :
    Except ContentError PolicyContent := do
  if version = 0 then
    validationFailed "version ต้องเป็น integer มากกว่า 0"
  else
    let content ← normalizeCg4PolicyContent zones raw
    assertCg4PolicyRegistryConsistent content
    .ok content

/-- Content that normalization returns for some input on some host. -/
def Normalized (content : PolicyContent) : Prop :=
  ∃ zones raw, normalizeCg4PolicyContent zones raw = .ok content

variable {zones : ZoneDatabase} {raw : Json} {content : PolicyContent}

theorem record_ok {field : String} {fields : List (String × Json)}
    (ok : record raw field = .ok fields) : raw = .obj fields := by
  unfold record at ok
  split at ok <;> cases ok
  rfl

theorem holidayEntries_ok {entries : List HolidayEntry} (ok : holidayEntries raw = .ok entries) :
    ∃ items read, raw = .arr items ∧ Json.readFrom holidayEntry 0 items = .ok read ∧
      (read.map HolidayEntry.localDate).Nodup ∧
      entries = Text.sortBy (fun entry => entry.localDate.text) read := by
  unfold holidayEntries at ok
  split at ok
  next items =>
    obtain ⟨read, readOk, ok⟩ := bind_ok ok
    split at ok
    next distinct =>
      cases ok
      exact ⟨items, read, rfl, readOk, distinct, rfl⟩
    next => cases ok
  next => cases ok

theorem timezoneField_ok {value : Option Json} {zone : String}
    (ok : timezoneField zones value = .ok (some zone)) : ∃ text, Text.isBlank text = false ∧
      isValidTimeZone zones (Text.trim text) = true ∧ zone = Text.trim text := by
  unfold timezoneField at ok
  split at ok
  next => cases ok
  next => cases ok
  next text =>
    split at ok
    next => cases ok
    next visible =>
      split at ok
      next known =>
        cases ok
        exact ⟨text, Bool.eq_false_iff.mpr visible, known, rfl⟩
      next => cases ok
  next => cases ok

def orNoItems (raw : Json) (name : String) : Json := Json.orElse (raw.get? name) (.arr [])

/-- What normalization reads from accepted content. -/
structure ReadAs (zones : ZoneDatabase) (raw : Json) (content : PolicyContent) : Prop where
  timezone : timezoneField zones (raw.get? "timezoneFallback") = .ok content.timezoneFallback
  callbackMode : callbackMode? (raw.get? "callbackMode") = some content.callbackMode
  quietHours : ∃ windows, normalizeLocalTimeWindows (orNoItems raw "quietHours") = .ok windows ∧
    content.quietHours = sortWindows windows
  overridableRules : ruleCodeList (orNoItems raw "overridableRules") "overridableRules" =
    .ok content.overridableRules
  allowedOperationalRuleCodes : ruleCodeList (orNoItems raw "allowedOperationalRuleCodes")
    "allowedOperationalRuleCodes" = .ok content.allowedOperationalRuleCodes
  holidays : holidayEntries (orNoItems raw "holidays") = .ok content.holidays

theorem readAs (ok : normalizeCg4PolicyContent zones raw = .ok content) :
    ReadAs zones raw content := by
  obtain ⟨fields, fieldsOk, rest⟩ := bind_ok ok
  obtain rfl := record_ok fieldsOk
  clear ok fieldsOk
  dsimp only at rest
  split at rest
  next => cases rest
  next =>
    split at rest
    next => cases rest
    next mode modeOk =>
      obtain ⟨zone, zoneOk, rest⟩ := bind_ok rest
      obtain ⟨quiet, quietOk, rest⟩ := bind_ok rest
      obtain ⟨rules, rulesOk, rest⟩ := bind_ok rest
      obtain ⟨operational, operationalOk, rest⟩ := bind_ok rest
      obtain ⟨holidays, holidaysOk, rest⟩ := bind_ok rest
      cases rest
      exact ⟨zoneOk, modeOk, ⟨quiet, quietOk, rfl⟩, rulesOk, operationalOk, holidaysOk⟩

theorem Normalized.dates_nodup (normalized : Normalized content) :
    (content.holidays.map HolidayEntry.localDate).Nodup := by
  obtain ⟨zones, raw, ok⟩ := normalized
  obtain ⟨items, read, -, -, distinct, sorted⟩ := holidayEntries_ok (readAs ok).holidays
  exact sorted ▸ ((Text.sortBy_perm _ read).map HolidayEntry.localDate).nodup_iff.mpr distinct

theorem Normalized.zone_ne_empty (normalized : Normalized content) {zone : String}
    (fallback : content.timezoneFallback = some zone) : zone ≠ "" := by
  obtain ⟨zones, raw, ok⟩ := normalized
  obtain ⟨text, visible, -, rfl⟩ := timezoneField_ok (fallback ▸ (readAs ok).timezone)
  exact Text.trim_ne_empty visible

end DContact.Governance
