import TurningGood.Foundation.Search
import TurningGood.Foundation.Text

/-!
# Cron expressions and their next firing

Instants are microseconds since 0001-01-01T00:00 UTC.  A timezone maps a
minute of UTC to the fields of the local calendar.  The next firing of an
expression is searched minute by minute, for two leap years at most.
-/

namespace TurningGood.Proactive

open TurningGood.Foundation

variable {expression : String} {after : Nat}

/-! ## Parsing -/

/-- An entry of `_FIELD_SPECS`. -/
structure FieldSpec where
  name : String
  minimum : Nat
  maximum : Nat
  deriving DecidableEq, Repr

def minuteSpec : FieldSpec := ⟨"minute", 0, 59⟩
def hourSpec : FieldSpec := ⟨"hour", 0, 23⟩
def dayOfMonthSpec : FieldSpec := ⟨"day-of-month", 1, 31⟩
def monthSpec : FieldSpec := ⟨"month", 1, 12⟩
def dayOfWeekSpec : FieldSpec := ⟨"day-of-week", 0, 7⟩

/-- `CronSpec`: the values that each field admits. -/
structure CronSpec where
  minute : List Nat
  hour : List Nat
  dayOfMonth : List Nat
  month : List Nat
  dayOfWeek : List Nat
  dayOfMonthUnconstrained : Bool
  dayOfWeekUnconstrained : Bool
  deriving DecidableEq, Repr

/-- `_parse_value`. -/
def parseValue (text : List Char) (spec : FieldSpec) : Except String Nat :=
  match Text.parseDecimal text with
  | none => .error (spec.name ++ " 格式错误：" ++ String.ofList text)
  | some value =>
    if value < spec.minimum ∨ spec.maximum < value then
      .error (spec.name ++ " 超出范围 " ++ toString spec.minimum ++ "-" ++ toString spec.maximum)
    else
      .ok value

/-- `_split_step`. -/
def splitStep (part : List Char) (spec : FieldSpec) :
    Except String (List Char × Nat) :=
  match Text.splitFirst '/' part with
  | none => .ok (part, 1)
  | some (rangeText, stepText) =>
    match Text.parseDecimal stepText with
    | none => .error (spec.name ++ " 步长必须大于 0")
    | some 0 => .error (spec.name ++ " 步长必须大于 0")
    | some step => .ok (rangeText, step)

/-- `range(start, end + 1, step)`. -/
def steppedRange (start stop step : Nat) : List Nat :=
  (List.range' start (stop + 1 - start)).filter fun value =>
    (value - start) % step = 0

/-- `_parse_part`. -/
def parsePart (part : List Char) (spec : FieldSpec) :
    Except String (List Nat) := do
  let (rangeText, step) ← splitStep part spec
  if rangeText = ['*'] then
    return steppedRange spec.minimum spec.maximum step
  match Text.splitFirst '-' rangeText with
  | some (first, last) =>
    let start ← parseValue first spec
    let stop ← parseValue last spec
    if stop < start then
      throw (spec.name ++ " 区间起点不能大于终点")
    return steppedRange start stop step
  | none =>
    let value ← parseValue rangeText spec
    if step ≠ 1 then
      throw (spec.name ++ " 只有 * 或区间可以使用步长")
    return [value]

/-- `_parse_field`. -/
def parseField (raw : List Char) (spec : FieldSpec) :
    Except String (List Nat) :=
  if raw = [] then
    .error (spec.name ++ " 不能为空")
  else
    (raw.splitOn ',').foldlM (fun values part => (values ++ ·) <$> parsePart part spec) []

/-- The fields of an expression, `expression.strip().split()`. -/
def cronFields (expression : String) : List (List Char) :=
  Text.splitWords (Text.stripChars expression.toList)

/-- `_parse`. -/
def parseCron (expression : String) : Except String CronSpec :=
  match cronFields expression with
  | [minute, hour, dayOfMonth, month, dayOfWeek] => do
    let minutes ← parseField minute minuteSpec
    let hours ← parseField hour hourSpec
    let daysOfMonth ← parseField dayOfMonth dayOfMonthSpec
    let months ← parseField month monthSpec
    let daysOfWeek ← parseField dayOfWeek dayOfWeekSpec
    return {
      minute := minutes
      hour := hours
      dayOfMonth := daysOfMonth
      month := months
      dayOfWeek := daysOfWeek.map fun value => if value = 7 then 0 else value
      dayOfMonthUnconstrained := dayOfMonth == ['*']
      dayOfWeekUnconstrained := dayOfWeek == ['*'] }
  | fields =>
    .error ("Cron 必须包含 5 个字段，实际为 " ++ toString fields.length)

/-- `validate_cron`: the error of an expression, if it has one. -/
def validateCron (expression : String) : Option String :=
  match parseCron expression with
  | .ok _ => none
  | .error error => some error

theorem parseCron_strip (expression : String) :
    parseCron (Text.strip expression) = parseCron expression := by
  have fields :
      cronFields (Text.strip expression) = cronFields expression := by
    simp only [cronFields, Text.strip, String.toList_ofList, Text.stripChars_stripChars]
  simp only [parseCron, fields]

/-- The fields of a local calendar that an expression looks at. -/
structure LocalTime where
  minute : Nat
  hour : Nat
  day : Nat
  month : Nat
  weekday : Nat
  deriving DecidableEq, Repr

/-- A timezone, as the local time of each minute of UTC. -/
abbrev Timezone := Nat → LocalTime

/-- `_matches`: restricted days of month and of week are alternatives. -/
def CronSpec.matches (spec : CronSpec) (moment : LocalTime) : Bool :=
  if moment.minute ∉ spec.minute ∨ moment.hour ∉ spec.hour ∨
      moment.month ∉ spec.month then
    false
  else
    let dayOfMonthMatches : Bool := moment.day ∈ spec.dayOfMonth
    let dayOfWeekMatches : Bool := (moment.weekday + 1) % 7 ∈ spec.dayOfWeek
    if spec.dayOfMonthUnconstrained && spec.dayOfWeekUnconstrained then
      true
    else if spec.dayOfMonthUnconstrained then
      dayOfWeekMatches
    else if spec.dayOfWeekUnconstrained then
      dayOfMonthMatches
    else
      dayOfMonthMatches || dayOfWeekMatches

/-- The days before a month in a year that is no leap year. -/
def daysBeforeMonth (month : Nat) : Nat :=
  [0, 0, 31, 59, 90, 120, 151, 181, 212, 243, 273, 304, 334].getD month 0

/-- The day of a month, by the days since the start of its year. -/
def monthAndDay (leapYear : Bool) (dayOfYear : Nat) : Nat × Nat :=
  let before (month : Nat) :=
    daysBeforeMonth month + if 2 < month ∧ leapYear then 1 else 0
  let guess := (dayOfYear + 50) / 32
  let month := if dayOfYear < before guess then guess - 1 else guess
  (month, dayOfYear - before month + 1)

/-- Month and day by the days since 0001-01-01, as `date.fromordinal`. -/
def calendarDay (days : Nat) : Nat × Nat :=
  let inEra := days % 146097
  let centuries := inEra / 36524
  let inCentury := inEra % 36524
  let cycles := inCentury / 1461
  let inCycle := inCentury % 1461
  let years := inCycle / 365
  if years = 4 ∨ centuries = 4 then
    (12, 31)
  else
    monthAndDay (years = 3 ∧ (cycles ≠ 24 ∨ centuries = 3)) (inCycle % 365)

/-- The fields of a minute in UTC. -/
def utc : Timezone := fun minute =>
  let days := minute / 1440
  { minute := minute % 60
    hour := minute / 60 % 24
    day := (calendarDay days).2
    month := (calendarDay days).1
    weekday := days % 7 }

/-! ## The next firing -/

/-- The microseconds of a minute. -/
def minuteMicros : Nat := 60000000

/-- The number of minutes in which a firing is searched. -/
def searchHorizon : Nat := 366 * 24 * 60 * 2

/-- `next_cron_fire`: the first matching minute after the minute of `after`. -/
def nextCronFire (expression : String) (after : Nat) (timezone : Timezone) :
    Except String Nat := do
  let spec ← parseCron expression
  match firstFrom (fun minute => spec.matches (timezone minute))
      searchHorizon (after / minuteMicros + 1) with
  | some minute => return minute * minuteMicros
  | none => throw "Cron 在两年内没有可执行时刻"

/--
The expression admits a minute after the minute of `after`, no more than the
search horizon later.
-/
def FiresWithinHorizon (expression : String) (after : Nat) (timezone : Timezone) : Prop :=
  ∃ spec minute, parseCron expression = .ok spec ∧ after / minuteMicros < minute ∧
      minute ≤ after / minuteMicros + searchHorizon ∧
      spec.matches (timezone minute) = true

variable {timezone : Timezone}

theorem nextCronFire_eq_ok_iff {fire : Nat} :
    nextCronFire expression after timezone = .ok fire ↔ ∃ spec minute,
        parseCron expression = .ok spec ∧ firstFrom (fun minute => spec.matches (timezone minute))
              searchHorizon (after / minuteMicros + 1) = some minute ∧
          fire = minute * minuteMicros := by
  unfold nextCronFire
  cases parseCron expression with
  | error error =>
    constructor
    · intro found
      cases found
    · rintro ⟨spec, minute, accepted, _⟩
      cases accepted
  | ok spec =>
    simp only [bind, Except.bind, Except.ok.injEq, exists_and_left, exists_eq_left']
    cases firstFrom (fun minute => spec.matches (timezone minute))
        searchHorizon (after / minuteMicros + 1) with
    | none =>
      constructor
      · intro found
        cases found
      · rintro ⟨minute, missing, _⟩
        cases missing
    | some minute =>
      constructor
      · intro found
        exact ⟨minute, rfl, (Except.ok.inj found).symm⟩
      · rintro ⟨_, ⟨rfl⟩, rfl⟩
        rfl

theorem nextCronFire_isOk_iff : (∃ fire, nextCronFire expression after timezone = .ok fire) ↔
      FiresWithinHorizon expression after timezone := by
  simp only [nextCronFire_eq_ok_iff]
  constructor
  · rintro ⟨_, spec, minute, accepted, search, rfl⟩
    rcases firstFrom_eq_some search with ⟨low, high, hit, _⟩
    exact ⟨spec, minute, accepted, by omega, by omega, hit⟩
  · rintro ⟨spec, minute, accepted, low, high, hit⟩
    have found :=
      (firstFrom_isSome_iff (fun minute => spec.matches (timezone minute))
        searchHorizon (after / minuteMicros + 1)).mpr
        ⟨minute, by omega, by omega, hit⟩
    rcases Option.isSome_iff_exists.mp found with ⟨first, search⟩
    exact ⟨_, spec, first, accepted, search, rfl⟩

instance (expression : String) (after : Nat) (timezone : Timezone) :
    Decidable (FiresWithinHorizon expression after timezone) :=
  match found : nextCronFire expression after timezone with
  | .ok fire => isTrue (nextCronFire_isOk_iff.mp ⟨fire, found⟩)
  | .error error => isFalse fun fires => by
    rcases nextCronFire_isOk_iff.mpr fires with ⟨fire, other⟩
    rw [found] at other
    cases other

theorem nextCronFire_later {fire : Nat}
    (found : nextCronFire expression after timezone = .ok fire) :
    after < fire := by
  rcases nextCronFire_eq_ok_iff.mp found with ⟨spec, minute, _, search, rfl⟩
  have later := (firstFrom_eq_some search).1
  have positive : 0 < minuteMicros := by decide
  exact (Nat.div_lt_iff_lt_mul positive).mp (by omega)

theorem nextCronFire_strip (expression : String) (after : Nat) (timezone : Timezone) :
    nextCronFire (Text.strip expression) after timezone =
      nextCronFire expression after timezone := by
  simp only [nextCronFire, parseCron_strip]

/-! ## Following the firings -/

/-- `cron_matches`. -/
def cronMatches (expression : String) (moment : LocalTime) : Except String Bool :=
  (·.matches moment) <$> parseCron expression

/-- The next firings, each searched from the one before. -/
def nextCronFires (expression : String) (timezone : Timezone) : Nat → Nat → List Nat
  | 0, _ => []
  | count + 1, after =>
    match nextCronFire expression after timezone with
    | .ok fire => fire :: nextCronFires expression timezone count fire
    | .error _ => []

theorem later_of_mem_nextCronFires {count fire : Nat}
    (member : fire ∈ nextCronFires expression timezone count after) : after < fire := by
  induction count generalizing after with
  | zero => cases member
  | succ count induction =>
    simp only [nextCronFires] at member
    split at member
    next first found =>
      have later := nextCronFire_later found
      rcases List.mem_cons.mp member with rfl | member
      · exact later
      · exact Nat.lt_trans later (induction member)
    next => cases member

theorem nextCronFires_increasing (count after : Nat) :
    (nextCronFires expression timezone count after).Pairwise (· < ·) := by
  induction count generalizing after with
  | zero => exact .nil
  | succ count induction =>
    simp only [nextCronFires]
    split
    next first found =>
      exact .cons (fun _ member => later_of_mem_nextCronFires member) (induction first)
    next => exact .nil

/-- A found firing is the only matching minute up to itself. -/
theorem cronMatches_iff_of_nextCronFire {fire minute : Nat}
    (found : nextCronFire expression after timezone = .ok fire)
    (later : after / minuteMicros < minute) (within : minute * minuteMicros ≤ fire) :
    cronMatches expression (timezone minute) = .ok true ↔ minute * minuteMicros = fire := by
  rcases nextCronFire_eq_ok_iff.mp found with ⟨spec, first, accepted, search, rfl⟩
  rcases firstFrom_eq_some search with ⟨-, -, hit, before⟩
  have positive : 0 < minuteMicros := by decide
  have bounded := Nat.le_of_mul_le_mul_right within positive
  have meaning : cronMatches expression (timezone minute) = .ok true ↔
      spec.matches (timezone minute) = true := by
    simp [cronMatches, accepted, Functor.map, Except.map]
  rw [meaning]
  constructor
  · intro found
    by_contra other
    have missed := before minute (by omega) (Nat.lt_of_le_of_ne bounded (by
      rintro rfl
      exact other rfl))
    rw [found] at missed
    cases missed
  · intro same
    rw [Nat.eq_of_mul_eq_mul_right positive same]
    exact hit

/--
The firings that are found one from another are in increasing order, and up
to the last of them they are exactly the minutes that match the expression.
-/
theorem nextCronFires_enumerate {count last : Nat}
    (final : (nextCronFires expression timezone count after).getLast? = some last) :
    (nextCronFires expression timezone count after).Pairwise (· < ·) ∧
      ∀ instant ≤ last, instant ∈ nextCronFires expression timezone count after ↔
        ∃ minute, instant = minute * minuteMicros ∧ after / minuteMicros < minute ∧
          cronMatches expression (timezone minute) = .ok true := by
  refine ⟨nextCronFires_increasing count after, ?_⟩
  induction count generalizing after with
  | zero => cases final
  | succ count induction =>
    simp only [nextCronFires] at final ⊢
    split at final
    next fire found =>
      intro instant within
      rcases nextCronFire_eq_ok_iff.mp found with ⟨spec, first, accepted, search, rfl⟩
      have low := (firstFrom_eq_some search).1
      have positive : 0 < minuteMicros := by decide
      have first_eq : first * minuteMicros / minuteMicros = first :=
        Nat.mul_div_cancel _ positive
      rw [List.mem_cons]
      rcases Nat.lt_or_ge (first * minuteMicros) instant with beyond | upTo
      · rw [List.getLast?_cons] at final
        cases rest : (nextCronFires expression timezone count
            (first * minuteMicros)).getLast? with
        | none =>
          simp only [rest, Option.getD_none, Option.some.injEq] at final
          omega
        | some end_ =>
          rw [rest] at final
          rw [induction (rest.trans final) instant within, first_eq]
          constructor
          · rintro (rfl | ⟨minute, rfl, later, hit⟩)
            · omega
            · exact ⟨minute, rfl, by omega, hit⟩
          · rintro ⟨minute, rfl, -, hit⟩
            exact .inr ⟨minute, rfl, Nat.lt_of_mul_lt_mul_right beyond, hit⟩
      · constructor
        · rintro (rfl | member)
          · exact ⟨first, rfl, by omega,
              (cronMatches_iff_of_nextCronFire found (by omega) (Nat.le_refl _)).mpr rfl⟩
          · have later := later_of_mem_nextCronFires member
            omega
        · rintro ⟨minute, rfl, later, hit⟩
          exact .inl ((cronMatches_iff_of_nextCronFire found later upTo).mp hit)
    next => cases final

/-- Each quarter of an hour, from midnight on. -/
theorem nextCronFires_enumerate_quarters :
    (nextCronFires "*/15 * * * *" utc 4 0).Pairwise (· < ·) := by
  have final : (nextCronFires "*/15 * * * *" utc 4 0).getLast? =
      some (60 * minuteMicros) := by decide +kernel
  exact (nextCronFires_enumerate final).1

end TurningGood.Proactive
