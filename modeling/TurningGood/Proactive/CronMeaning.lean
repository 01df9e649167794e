import Mathlib.Order.Bounds.Basic
import TurningGood.Foundation.Fallible
import TurningGood.Proactive.Scheduler

/-!
# What cron expressions mean

The fields of an expression are lists of single values, ranges and steps.
Their texts are a grammar, and the parser accepts exactly the texts of the
grammar.  An expression matches the moments whose fields it admits, where a
restricted day of the month and a restricted day of the week are
alternatives, and the next firing is the least matching minute.
-/

namespace TurningGood.Proactive

open TurningGood.Foundation

variable {step value : Nat} {text : List Char}

/-! ## Parts of a field -/

/-- What stands between two commas of a field. -/
inductive CronPart where
  | every (step : Nat)
  | single (value : Nat)
  | range (first last step : Nat)
  deriving DecidableEq, Repr

/-- A text of decimal digits with a value. -/
def Numeral (text : List Char) (value : Nat) : Prop := Text.parseDecimal text = some value

/-- A body with its step, which may be left out for one. -/
def Stepped (body : List Char) (step : Nat) (text : List Char) : Prop :=
  '/' ∉ body ∧ ((text = body ∧ step = 1) ∨
    ∃ digits, text = body ++ '/' :: digits ∧ Numeral digits step ∧ 0 < step)

namespace CronPart

/-- The texts of a part. -/
def Written : CronPart → List Char → Prop
  | every step, text => Stepped ['*'] step text
  | single value, text =>
    ∃ digits, Stepped digits 1 text ∧ Numeral digits value
  | range first last step, text =>
    ∃ low high, Stepped (low ++ '-' :: high) step text ∧
      Numeral low first ∧ Numeral high last

/-- The values of a part lie within the bounds of its field. -/
def Fits (spec : FieldSpec) : CronPart → Prop
  | every _ => True
  | single value => spec.minimum ≤ value ∧ value ≤ spec.maximum
  | range first last _ =>
    spec.minimum ≤ first ∧ first ≤ last ∧ last ≤ spec.maximum

/-- The values that a part admits. -/
def Admits (spec : FieldSpec) : CronPart → Nat → Prop
  | every step, value =>
    spec.minimum ≤ value ∧ value ≤ spec.maximum ∧ (value - spec.minimum) % step = 0
  | single admitted, value => value = admitted
  | range first last step, value =>
    first ≤ value ∧ value ≤ last ∧ (value - first) % step = 0

/-- The list of these values. -/
def values (spec : FieldSpec) : CronPart → List Nat
  | every step => steppedRange spec.minimum spec.maximum step
  | single value => [value]
  | range first last step => steppedRange first last step

end CronPart

theorem mem_steppedRange {start stop : Nat} : value ∈ steppedRange start stop step ↔
      start ≤ value ∧ value ≤ stop ∧ (value - start) % step = 0 := by
  rw [steppedRange, List.mem_filter, List.mem_range'_1, decide_eq_true_iff, and_assoc]
  constructor
  · rintro ⟨low, high, same⟩
    exact ⟨low, by omega, same⟩
  · rintro ⟨low, high, same⟩
    exact ⟨low, by omega, same⟩

theorem CronPart.mem_values {spec : FieldSpec} {part : CronPart} :
    value ∈ part.values spec ↔ part.Admits spec value := by
  cases part with
  | every step => exact mem_steppedRange
  | single admitted => exact List.mem_singleton
  | range first last step => exact mem_steppedRange

theorem Numeral.digits (numeral : Numeral text value) :
    ∀ char ∈ text, (Text.digitValue? char).isSome = true := by
  have onLoop : ∀ (chars : List Char) (start value : Nat),
      chars.foldlM (fun value char =>
        (Text.digitValue? char).map (value * 10 + ·)) start = some value →
      ∀ char ∈ chars, (Text.digitValue? char).isSome = true := by
    intro chars
    induction chars with
    | nil => exact fun _ _ _ char member => nomatch member
    | cons char rest induction =>
      intro start value read
      rw [List.foldlM_cons] at read
      rcases Option.bind_eq_some_iff.mp read with ⟨next, first, more⟩
      rcases Option.map_eq_some_iff.mp first with ⟨digit, found, -⟩
      rw [List.forall_mem_cons, found]
      exact ⟨rfl, induction next value more⟩
  rw [Numeral, Text.parseDecimal] at numeral
  split at numeral
  · cases numeral
  · exact onLoop text 0 value numeral

theorem Numeral.not_mem (numeral : Numeral text value) {char : Char}
    (other : Text.digitValue? char = none) : char ∉ text := by
  intro member
  have digit := numeral.digits char member
  rw [other] at digit
  cases digit

theorem parseValue_eq_ok_iff {spec : FieldSpec} : parseValue text spec = .ok value ↔
      Numeral text value ∧ spec.minimum ≤ value ∧ value ≤ spec.maximum := by
  rw [parseValue, Numeral]
  cases Text.parseDecimal text with
  | none => simp
  | some found =>
    dsimp only
    split
    · rename_i outside
      simp only [reduceCtorEq, Option.some.injEq, false_iff]
      rintro ⟨rfl, low, high⟩
      omega
    · rename_i inside
      simp only [Except.ok.injEq, Option.some.injEq]
      constructor
      · rintro rfl
        exact ⟨rfl, by omega, by omega⟩
      · exact fun holds => holds.1

theorem splitStep_eq_ok_iff {body : List Char} {spec : FieldSpec} :
    splitStep text spec = .ok (body, step) ↔ Stepped body step text := by
  rw [splitStep, Stepped]
  cases found : Text.splitFirst '/' text with
  | none =>
    have absent := Text.splitFirst_eq_none_iff.mp found
    simp only [Except.ok.injEq, Prod.mk.injEq]
    constructor
    · rintro ⟨rfl, rfl⟩
      exact ⟨absent, .inl ⟨rfl, rfl⟩⟩
    · rintro ⟨-, ⟨rfl, rfl⟩ | ⟨digits, rfl, -⟩⟩
      · exact ⟨rfl, rfl⟩
      · simp at absent
  | some parts =>
    rcases parts with ⟨front, back⟩
    rcases Text.splitFirst_eq_some_iff.mp found with ⟨rfl, absent⟩
    have sole : ∀ digits, front ++ '/' :: back = body ++ '/' :: digits →
        '/' ∉ body → front = body ∧ back = digits := by
      intro digits same plain
      have again := Text.splitFirst_eq_some_iff.mpr
        ⟨same, plain⟩
      rw [found] at again
      cases again
      exact ⟨rfl, rfl⟩
    constructor
    · intro read
      dsimp only at read
      split at read
      · cases read
      · cases read
      · rename_i value notZero numeral
        cases read
        exact ⟨absent, .inr ⟨back, rfl, numeral, Nat.pos_of_ne_zero notZero⟩⟩
    · rintro ⟨plain, ⟨same, rfl⟩ | ⟨digits, same, numeral, positive⟩⟩
      · rw [← same] at plain
        simp at plain
      · rcases sole digits same plain with ⟨rfl, rfl⟩
        rw [Numeral] at numeral
        dsimp only
        rw [numeral]
        cases step with
        | zero => omega
        | succ step => rfl

/-! ## The parser reads the grammar -/

theorem digitValue?_minus : Text.digitValue? '-' = none := by decide +kernel

theorem digitValue?_star : Text.digitValue? '*' = none := by decide +kernel

/-- What follows the step of a part. -/
def parseBody (spec : FieldSpec) (body : List Char) (step : Nat) :
    Except String (List Nat) := do
  if body = ['*'] then
    return steppedRange spec.minimum spec.maximum step
  match Text.splitFirst '-' body with
  | some (first, last) =>
    let start ← parseValue first spec
    let stop ← parseValue last spec
    if stop < start then
      throw (spec.name ++ " 区间起点不能大于终点")
    return steppedRange start stop step
  | none =>
    let value ← parseValue body spec
    if step ≠ 1 then
      throw (spec.name ++ " 只有 * 或区间可以使用步长")
    return [value]

theorem parsePart_eq (text : List Char) (spec : FieldSpec) :
    parsePart text spec = (splitStep text spec).bind fun split =>
        parseBody spec split.1 split.2 := rfl

variable {values : List Nat}

theorem parseBody_range {spec : FieldSpec} {low high : List Char}
    (plain : '-' ∉ low) (notStar : low ++ '-' :: high ≠ ['*']) :
    parseBody spec (low ++ '-' :: high) step = .ok values ↔
      ∃ first last, Numeral low first ∧ Numeral high last ∧
        (CronPart.range first last step).Fits spec ∧
        values = steppedRange first last step := by
  have split := Text.splitFirst_eq_some_iff.mpr
    ⟨(rfl : low ++ '-' :: high = low ++ '-' :: high), plain⟩
  rw [parseBody, if_neg notStar, split]
  change (Except.bind (parseValue low spec) fun start =>
    Except.bind (parseValue high spec) fun stop =>
      if stop < start then .error _ else
        .ok (steppedRange start stop step)) = .ok values ↔ _
  simp only [bind_eq_ok, parseValue_eq_ok_iff]
  constructor
  · rintro ⟨first, ⟨isFirst, lowFirst, -⟩, last, ⟨isLast, -, highLast⟩,
      made⟩
    split at made
    · cases made
    · rename_i ordered
      cases made
      exact ⟨first, last, isFirst, isLast,
        ⟨lowFirst, Nat.not_lt.mp ordered, highLast⟩, rfl⟩
  · rintro ⟨first, last, isFirst, isLast, ⟨low, ordered, high⟩, rfl⟩
    refine ⟨first, ⟨isFirst, low, by omega⟩, last, ⟨isLast, by omega, high⟩,
      ?_⟩
    rw [if_neg (Nat.not_lt.mpr ordered)]

theorem parseBody_single {spec : FieldSpec} {body : List Char}
    (plain : '-' ∉ body) (notStar : body ≠ ['*']) :
    parseBody spec body step = .ok values ↔ step = 1 ∧ ∃ value, Numeral body value ∧
        (CronPart.single value).Fits spec ∧ values = [value] := by
  rw [parseBody, if_neg notStar, Text.splitFirst_eq_none_iff.mpr plain]
  change (Except.bind (parseValue body spec) fun value =>
    if step ≠ 1 then .error _ else .ok [value]) = .ok values ↔ _
  simp only [bind_eq_ok, parseValue_eq_ok_iff]
  constructor
  · rintro ⟨value, ⟨numeral, low, high⟩, made⟩
    split at made
    · cases made
    · rename_i one
      cases made
      exact ⟨not_not.mp one, value, numeral, ⟨low, high⟩, rfl⟩
  · rintro ⟨rfl, value, numeral, ⟨low, high⟩, rfl⟩
    exact ⟨value, ⟨numeral, low, high⟩, by simp⟩

theorem parsePart_eq_ok_iff {spec : FieldSpec} : parsePart text spec = .ok values ↔
      ∃ part : CronPart, part.Written text ∧ part.Fits spec ∧
        values = part.values spec := by
  rw [parsePart_eq, bind_eq_ok]
  constructor
  · rintro ⟨⟨body, step⟩, split, read⟩
    have stepped := splitStep_eq_ok_iff.mp split
    by_cases star : body = ['*']
    · subst star
      cases read
      exact ⟨.every step, stepped, trivial, rfl⟩
    · by_cases ranged : '-' ∈ body
      · rcases hasSplit : Text.splitFirst '-' body with - | ⟨low, high⟩
        · exact absurd ranged (Text.splitFirst_eq_none_iff.mp hasSplit)
        · rcases Text.splitFirst_eq_some_iff.mp hasSplit with ⟨rfl, plain⟩
          rcases (parseBody_range plain star).mp read with
            ⟨first, last, isFirst, isLast, fits, rfl⟩
          exact ⟨.range first last step,
            ⟨low, high, stepped, isFirst, isLast⟩, fits, rfl⟩
      · rcases (parseBody_single ranged star).mp read with ⟨rfl, value, numeral, fits, rfl⟩
        exact ⟨.single value, ⟨body, stepped, numeral⟩, fits, rfl⟩
  · rintro ⟨part, written, fits, rfl⟩
    cases part with
    | every step => exact ⟨(['*'], step), splitStep_eq_ok_iff.mpr written, rfl⟩
    | single value =>
      rcases written with ⟨digits, stepped, numeral⟩
      refine ⟨(digits, 1), splitStep_eq_ok_iff.mpr stepped, ?_⟩
      have notStar : digits ≠ ['*'] := by
        rintro rfl
        exact numeral.not_mem digitValue?_star List.mem_cons_self
      apply (parseBody_single (numeral.not_mem digitValue?_minus) notStar).mpr
      exact ⟨rfl, value, numeral, fits, rfl⟩
    | range first last step =>
      rcases written with ⟨low, high, stepped, isFirst, isLast⟩
      refine ⟨(low ++ '-' :: high, step), splitStep_eq_ok_iff.mpr stepped, ?_⟩
      have notStar : low ++ '-' :: high ≠ ['*'] := by
        intro same
        have member : '-' ∈ ['*'] := by
          rw [← same]
          simp
        exact absurd member (by decide)
      apply (parseBody_range (isFirst.not_mem digitValue?_minus) notStar).mpr
      exact ⟨first, last, isFirst, isLast, fits, rfl⟩

/-! ## Fields and expressions -/

/-- The parts of a field, between its commas. -/
def FieldWritten (spec : FieldSpec) (parts : List CronPart) (raw : List Char) : Prop :=
  raw ≠ [] ∧ List.Forall₂ CronPart.Written parts (raw.splitOn ',') ∧ ∀ part ∈ parts, part.Fits spec

/-- The values that a field admits. -/
def Admitted (spec : FieldSpec) (parts : List CronPart) (value : Nat) : Prop :=
  ∃ part ∈ parts, part.Admits spec value

theorem parseField_eq_ok_iff {raw : List Char} {spec : FieldSpec} :
    parseField raw spec = .ok values ↔ ∃ parts, FieldWritten spec parts raw ∧
        values = parts.flatMap (CronPart.values spec) := by
  have onTexts : ∀ (texts : List (List Char)) (start values : List Nat),
      texts.foldlM (fun values part => (values ++ ·) <$> parsePart part spec) start = .ok values ↔
        ∃ parts, List.Forall₂ CronPart.Written parts texts ∧ (∀ part ∈ parts, part.Fits spec) ∧
          values = start ++ parts.flatMap (CronPart.values spec) := by
    intro texts
    induction texts with
    | nil =>
      intro start values
      rw [List.foldlM_nil]
      constructor
      · intro same
        cases same
        exact ⟨[], .nil, by simp, by simp⟩
      · rintro ⟨parts, written, -, rfl⟩
        cases written
        simp [pure, Except.pure]
    | cons text rest induction =>
      intro start values
      rw [List.foldlM_cons]
      change Except.bind _ _ = .ok values ↔ _
      rw [bind_eq_ok]
      constructor
      · rintro ⟨next, first, more⟩
        cases read : parsePart text spec with
        | error error =>
          rw [read] at first
          cases first
        | ok found =>
          rw [read] at first
          cases first
          rcases parsePart_eq_ok_iff.mp read with ⟨part, written, fits, rfl⟩
          rcases (induction _ _).mp more with ⟨parts, others, othersFit, rfl⟩
          refine ⟨part :: parts, .cons written others, ?_, ?_⟩
          · rw [List.forall_mem_cons]
            exact ⟨fits, othersFit⟩
          · rw [List.flatMap_cons, List.append_assoc]
      · rintro ⟨parts, written, fit, rfl⟩
        cases written with
        | @cons part _ parts _ first others =>
          rw [List.forall_mem_cons] at fit
          have read := parsePart_eq_ok_iff.mpr
            ⟨part, first, fit.1, rfl⟩
          refine ⟨start ++ part.values spec, ?_, ?_⟩
          · rw [read]
            rfl
          · apply (induction _ _).mpr
            refine ⟨parts, others, fit.2, ?_⟩
            rw [List.flatMap_cons, List.append_assoc]
  rw [parseField]
  by_cases empty : raw = []
  · rw [if_pos empty]
    simp only [reduceCtorEq, false_iff]
    rintro ⟨parts, written, -⟩
    exact written.1 empty
  · rw [if_neg empty, onTexts]
    constructor
    · rintro ⟨parts, written, fit, rfl⟩
      exact ⟨parts, ⟨empty, written, fit⟩, rfl⟩
    · rintro ⟨parts, ⟨-, written, fit⟩, rfl⟩
      exact ⟨parts, written, fit, rfl⟩

theorem mem_flatMap_values {spec : FieldSpec} {parts : List CronPart} :
    value ∈ parts.flatMap (CronPart.values spec) ↔
      Admitted spec parts value := by
  simp only [List.mem_flatMap, CronPart.mem_values, Admitted]

/-- The fields of an expression. -/
structure CronFields where
  minute : List CronPart
  hour : List CronPart
  dayOfMonth : List CronPart
  month : List CronPart
  dayOfWeek : List CronPart
  anyDayOfMonth : Bool
  anyDayOfWeek : Bool

namespace CronFields

/-- The texts of the five fields; an asterisk alone restricts no day. -/
def Written (fields : CronFields) (expression : String) : Prop :=
  ∃ minute hour dayOfMonth month dayOfWeek,
    cronFields expression = [minute, hour, dayOfMonth, month, dayOfWeek] ∧
    FieldWritten minuteSpec fields.minute minute ∧
    FieldWritten hourSpec fields.hour hour ∧
    FieldWritten dayOfMonthSpec fields.dayOfMonth dayOfMonth ∧
    FieldWritten monthSpec fields.month month ∧
    FieldWritten dayOfWeekSpec fields.dayOfWeek dayOfWeek ∧
    (fields.anyDayOfMonth = true ↔ dayOfMonth = ['*']) ∧
    (fields.anyDayOfWeek = true ↔ dayOfWeek = ['*'])

variable (fields : CronFields) (moment : LocalTime)

/-- The day of the month is admitted. -/
def MatchesDayOfMonth : Prop := Admitted dayOfMonthSpec fields.dayOfMonth moment.day

/-- The day of the week is admitted, where 0 and 7 are the Sunday. -/
def MatchesDayOfWeek : Prop := ∃ value, Admitted dayOfWeekSpec fields.dayOfWeek value ∧
    (if value = 7 then 0 else value) = (moment.weekday + 1) % 7

/-- Restricted days are alternatives; otherwise every restriction holds. -/
def MatchesDay : Prop :=
  if fields.anyDayOfMonth = false ∧ fields.anyDayOfWeek = false then
    fields.MatchesDayOfMonth moment ∨ fields.MatchesDayOfWeek moment
  else
    (fields.anyDayOfMonth = false → fields.MatchesDayOfMonth moment) ∧
      (fields.anyDayOfWeek = false → fields.MatchesDayOfWeek moment)

/-- The moment has the minute, the hour, the month and the day. -/
def Matches : Prop := Admitted minuteSpec fields.minute moment.minute ∧
    Admitted hourSpec fields.hour moment.hour ∧
    Admitted monthSpec fields.month moment.month ∧
    fields.MatchesDay moment

/-- The values that the parser collects. -/
def spec : CronSpec where
  minute := fields.minute.flatMap (CronPart.values minuteSpec)
  hour := fields.hour.flatMap (CronPart.values hourSpec)
  dayOfMonth := fields.dayOfMonth.flatMap (CronPart.values dayOfMonthSpec)
  month := fields.month.flatMap (CronPart.values monthSpec)
  dayOfWeek := (fields.dayOfWeek.flatMap (CronPart.values dayOfWeekSpec)).map
    fun value => if value = 7 then 0 else value
  dayOfMonthUnconstrained := fields.anyDayOfMonth
  dayOfWeekUnconstrained := fields.anyDayOfWeek

theorem spec_matches_iff :
    fields.spec.matches moment = true ↔ fields.Matches moment := by
  have week : (moment.weekday + 1) % 7 ∈ fields.spec.dayOfWeek ↔
      fields.MatchesDayOfWeek moment := by
    simp only [spec, List.mem_map, mem_flatMap_values, MatchesDayOfWeek]
  have day : moment.day ∈ fields.spec.dayOfMonth ↔
      fields.MatchesDayOfMonth moment := mem_flatMap_values
  have minute : moment.minute ∈ fields.spec.minute ↔
      Admitted minuteSpec fields.minute moment.minute := mem_flatMap_values
  have hour : moment.hour ∈ fields.spec.hour ↔
      Admitted hourSpec fields.hour moment.hour := mem_flatMap_values
  have month : moment.month ∈ fields.spec.month ↔
      Admitted monthSpec fields.month moment.month := mem_flatMap_values
  have days : ((if fields.anyDayOfMonth && fields.anyDayOfWeek then true
      else if fields.anyDayOfMonth then
        decide ((moment.weekday + 1) % 7 ∈ fields.spec.dayOfWeek)
      else if fields.anyDayOfWeek then
        decide (moment.day ∈ fields.spec.dayOfMonth)
      else decide (moment.day ∈ fields.spec.dayOfMonth) ||
        decide ((moment.weekday + 1) % 7 ∈ fields.spec.dayOfWeek)) = true) ↔
      fields.MatchesDay moment := by
    rw [MatchesDay, ← week, ← day]
    cases fields.anyDayOfMonth <;> cases fields.anyDayOfWeek <;> simp
  rw [CronSpec.matches, Matches, ← minute, ← hour, ← month, ← days]
  by_cases outside : moment.minute ∉ fields.spec.minute ∨
      moment.hour ∉ fields.spec.hour ∨ moment.month ∉ fields.spec.month
  · rw [if_pos outside]
    constructor
    · exact nofun
    · rintro ⟨first, second, third, -⟩
      rcases outside with wrong | wrong | wrong
      · exact absurd first wrong
      · exact absurd second wrong
      · exact absurd third wrong
  · rw [if_neg outside]
    simp only [not_or, not_not] at outside
    constructor
    · exact fun hit => ⟨outside.1, outside.2.1, outside.2.2, hit⟩
    · exact fun holds => holds.2.2.2

end CronFields

theorem parseCron_eq_ok_iff {expression : String} {spec : CronSpec} :
    parseCron expression = .ok spec ↔ ∃ fields : CronFields, fields.Written expression ∧
        spec = fields.spec := by
  constructor
  · intro accepted
    rw [parseCron] at accepted
    split at accepted
    · rename_i minute hour dayOfMonth month dayOfWeek texts
      change Except.bind _ _ = _ at accepted
      rcases bind_eq_ok.mp accepted with ⟨minutes, first, more⟩
      rcases bind_eq_ok.mp more with ⟨hours, second, more⟩
      rcases bind_eq_ok.mp more with ⟨days, third, more⟩
      rcases bind_eq_ok.mp more with ⟨months, fourth, more⟩
      rcases bind_eq_ok.mp more with ⟨weekdays, fifth, made⟩
      rcases parseField_eq_ok_iff.mp first with ⟨minute', isMinute, rfl⟩
      rcases parseField_eq_ok_iff.mp second with ⟨hour', isHour, rfl⟩
      rcases parseField_eq_ok_iff.mp third with ⟨day', isDay, rfl⟩
      rcases parseField_eq_ok_iff.mp fourth with ⟨month', isMonth, rfl⟩
      rcases parseField_eq_ok_iff.mp fifth with ⟨weekday', isWeekday, rfl⟩
      cases made
      refine ⟨⟨minute', hour', day', month', weekday', dayOfMonth == ['*'],
        dayOfWeek == ['*']⟩, ?_, rfl⟩
      exact ⟨minute, hour, dayOfMonth, month, dayOfWeek, texts, isMinute,
        isHour, isDay, isMonth, isWeekday, beq_iff_eq, beq_iff_eq⟩
    · cases accepted
  · rintro ⟨fields, written, rfl⟩
    rcases written with ⟨minute, hour, dayOfMonth, month, dayOfWeek, texts,
      isMinute, isHour, isDay, isMonth, isWeekday, anyDay, anyWeekday⟩
    have first := parseField_eq_ok_iff.mpr ⟨_, isMinute, rfl⟩
    have second := parseField_eq_ok_iff.mpr ⟨_, isHour, rfl⟩
    have third := parseField_eq_ok_iff.mpr ⟨_, isDay, rfl⟩
    have fourth := parseField_eq_ok_iff.mpr ⟨_, isMonth, rfl⟩
    have fifth := parseField_eq_ok_iff.mpr ⟨_, isWeekday, rfl⟩
    have sameDay : (dayOfMonth == ['*']) = fields.anyDayOfMonth := by
      rw [Bool.eq_iff_iff, beq_iff_eq, anyDay]
    have sameWeekday : (dayOfWeek == ['*']) = fields.anyDayOfWeek := by
      rw [Bool.eq_iff_iff, beq_iff_eq, anyWeekday]
    rw [parseCron, texts]
    simp only [first, second, third, fourth, fifth, sameDay, sameWeekday]
    rfl

/--
An accepted expression is written in the grammar.  The next firing of what is
written is the least matching minute behind the minute of `after`, and there
is none exactly when no minute within the horizon matches.
-/
theorem nextCronFire_least {expression : String} (accepted : validateCron expression = none) :
    (∃ fields : CronFields, fields.Written expression) ∧
      ∀ fields : CronFields, fields.Written expression → ∀ (after : Nat) (timezone : Timezone),
          (∀ fire, nextCronFire expression after timezone = .ok fire ↔
            ∃ minute, fire = minute * minuteMicros ∧ minute ≤ after / minuteMicros + searchHorizon ∧
              IsLeast {minute | after / minuteMicros < minute ∧
                fields.Matches (timezone minute)} minute) ∧
          ((∃ error, nextCronFire expression after timezone = .error error) ↔
            ¬ ∃ minute, after / minuteMicros < minute ∧
              minute ≤ after / minuteMicros + searchHorizon ∧
              fields.Matches (timezone minute)) := by
  constructor
  · rw [validateCron] at accepted
    split at accepted
    · rename_i spec read
      rcases parseCron_eq_ok_iff.mp read with ⟨fields, written, -⟩
      exact ⟨fields, written⟩
    · cases accepted
  · intro fields written after timezone
    have read : parseCron expression = .ok fields.spec :=
      parseCron_eq_ok_iff.mpr ⟨fields, written, rfl⟩
    constructor
    · intro fire
      rw [nextCronFire_eq_ok_iff]
      constructor
      · rintro ⟨spec, minute, same, search, rfl⟩
        rw [read] at same
        cases same
        rcases firstFrom_eq_some search with ⟨low, high, hit, first⟩
        refine ⟨minute, rfl, by omega, ⟨by omega, ?_⟩, ?_⟩
        · exact (fields.spec_matches_iff _).mp hit
        · rintro other ⟨later, found⟩
          by_contra earlier
          have missed := first other (by omega) (by omega)
          rw [(fields.spec_matches_iff _).mpr found] at missed
          cases missed
      · rintro ⟨minute, rfl, within, ⟨later, found⟩, least⟩
        refine ⟨fields.spec, minute, read, ?_, rfl⟩
        have present := (firstFrom_isSome_iff
          (fun minute => fields.spec.matches (timezone minute))
          searchHorizon (after / minuteMicros + 1)).mpr
          ⟨minute, by omega, by omega, (fields.spec_matches_iff _).mpr found⟩
        rcases Option.isSome_iff_exists.mp present with ⟨first, search⟩
        rcases firstFrom_eq_some search with ⟨low, high, hit, before⟩
        have before' := least ⟨(by omega : after / minuteMicros < first),
          (fields.spec_matches_iff _).mp hit⟩
        have same : first = minute := by
          rcases Nat.lt_or_ge minute first with earlier | done
          · have missed := before minute (by omega) earlier
            rw [(fields.spec_matches_iff _).mpr found] at missed
            cases missed
          · omega
        rw [search, same]
    · have fires := @nextCronFire_isOk_iff expression after timezone
      have meaning : FiresWithinHorizon expression after timezone ↔
          ∃ minute, after / minuteMicros < minute ∧ minute ≤ after / minuteMicros + searchHorizon ∧
            fields.Matches (timezone minute) := by
        simp only [FiresWithinHorizon, read, Except.ok.injEq,
          exists_and_left, exists_eq_left', fields.spec_matches_iff]
      rw [← meaning, ← fires]
      cases nextCronFire expression after timezone with
      | ok fire => simp
      | error error => simp

/-- An expression with a list, a range and a step. -/
theorem nextCronFire_least_workdays : (∃ fields : CronFields, fields.Written "*/30 9,14 * * 1-5") ∧
      nextCronFire "*/30 9,14 * * 1-5" 0 utc = .ok (540 * minuteMicros) :=
  ⟨(nextCronFire_least (by decide +kernel)).1, by decide +kernel⟩

end TurningGood.Proactive
