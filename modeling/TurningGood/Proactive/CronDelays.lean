import TurningGood.Foundation.Rounding
import TurningGood.Proactive.CronManager

/-!
# Relative delays

A one-shot job may be given a delay instead of a moment.  The delay is added
to the current time and the sum is written as local time with whole seconds.
The job is then created like every other job, which compares the written
moment with the current time.  A delay can be scheduled exactly when the sum
is a whole second, so that the writing drops nothing.
-/

namespace TurningGood.Proactive

open TurningGood.Foundation

variable {now : ℕ}

/-! ## Delays and written moments -/

/--
A value of `delay_seconds`; numbers are exact, and the reader of JSON also
knows the infinite ones and the one that is not a number.
-/
inductive Delay where
  | finite (seconds : ℚ)
  | infinite (negative : Bool)
  | notANumber
  | other
  deriving DecidableEq, Repr

/-- The schema of `create_cron`: a number that is not below the minimum. -/
def Delay.admitted : Delay → Bool
  | .finite seconds => !decide (seconds < 1 / 1000)
  | .infinite negative => !negative
  | .notANumber => true
  | .other => false

/-- The delay is a number that is at most zero. -/
def Delay.notPositive : Delay → Bool
  | .finite seconds => decide (seconds ≤ 0)
  | .infinite negative => negative
  | .notANumber => false
  | .other => false

/-- `timedelta(seconds=...)` in microseconds. -/
def timedelta : Delay → Except String ℤ
  | .finite seconds =>
    let micros := roundHalfEven (seconds * 1000000)
    if 999999999 < |micros / 86400000000| then
      .error "must have magnitude <= 999999999"
    else
      .ok micros
  | .infinite _ => .error "cannot convert float infinity to integer"
  | .notANumber => .error "cannot convert float NaN to integer"
  | .other => .error "unsupported type for timedelta seconds component"

/-- The last microsecond of the year 9999, from 0001-01-01 on. -/
def maxMoment : ℤ := 3652059 * 86400000000 - 1

/-- A `datetime` holds the moment. -/
def Representable (moment : ℤ) : Prop := 0 ≤ moment ∧ moment ≤ maxMoment

instance (moment : ℤ) : Decidable (Representable moment) := inferInstanceAs (Decidable (_ ∧ _))

/-- The offset of a timezone from UTC in seconds, by the moment of UTC. -/
abbrev UtcOffset := ℤ → ℤ

/-- An `isoformat(timespec="seconds")` with its offset. -/
structure IsoText where
  localSecond : ℤ
  offset : ℤ
  deriving DecidableEq, Repr

/-- The moment of UTC that a written moment stands for. -/
def IsoText.moment (text : IsoText) : ℤ := (text.localSecond - text.offset) * 1000000

/-- `next_run_at_after_delay`. -/
def nextRunAtAfterDelay (delay : Delay) (now : ℕ) (timezone : UtcOffset) :
    Except String IsoText :=
  if delay = .other then
    .error "delay_seconds 必须是数字"
  else if delay.notPositive then
    .error "delay_seconds 必须大于 0"
  else do
    let length ← timedelta delay
    let moment := now + length
    if Representable moment then
      let offset := timezone moment
      let localMoment := moment + offset * 1000000
      if Representable localMoment then
        return ⟨localMoment / 1000000, offset⟩
      else
        throw "date value out of range"
    else
      throw "date value out of range"

/-! ## What is returned -/

/-- The current time and a delay, as `timedelta` rounds it. -/
def delayedMoment (seconds : ℚ) (now : ℕ) : ℤ := now + roundHalfEven (seconds * 1000000)

/-- A delay of so many seconds can be added to the current time. -/
structure InRange (seconds : ℚ) (now : ℕ) (timezone : UtcOffset) :
    Prop where
  moment : Representable (delayedMoment seconds now)
  localMoment : Representable (delayedMoment seconds now +
    timezone (delayedMoment seconds now) * 1000000)

/-- What is written for a moment in a timezone. -/
def isoSeconds (moment : ℤ) (timezone : UtcOffset) : IsoText where
  localSecond := (moment + timezone moment * 1000000) / 1000000
  offset := timezone moment

theorem isoSeconds_moment (moment : ℤ) (timezone : UtcOffset) :
    (isoSeconds moment timezone).moment = moment / 1000000 * 1000000 := by
  rw [IsoText.moment, isoSeconds, Int.add_mul_ediv_right _ _ (by decide),
    add_sub_cancel_right]

theorem timedelta_of_representable {seconds : ℚ} (positive : 0 < seconds)
    (moment : Representable (delayedMoment seconds now)) :
    timedelta (.finite seconds) =
      .ok (roundHalfEven (seconds * 1000000)) := by
  have near := (roundHalfEven_near (seconds * 1000000)).2
  have notNegative : 0 ≤ roundHalfEven (seconds * 1000000) := by
    have above : (-1 : ℚ) < roundHalfEven (seconds * 1000000) := by linarith
    have whole : -1 < roundHalfEven (seconds * 1000000) := by
      exact_mod_cast above
    omega
  have bounded := moment.2
  rw [delayedMoment, maxMoment] at bounded
  rw [timedelta]
  apply if_neg
  rw [abs_of_nonneg (Int.ediv_nonneg notNegative (by decide))]
  omega

theorem nextRunAtAfterDelay_eq_ok_iff {delay : Delay} {timezone : UtcOffset}
    {text : IsoText} :
    nextRunAtAfterDelay delay now timezone = .ok text ↔
      ∃ seconds, delay = .finite seconds ∧ 0 < seconds ∧ InRange seconds now timezone ∧
        text = isoSeconds (delayedMoment seconds now) timezone := by
  constructor
  · intro written
    rw [nextRunAtAfterDelay] at written
    split_ifs at written with unfit notPositive
    cases delay with
    | finite seconds =>
      have positive : 0 < seconds := by
        simpa [Delay.notPositive] using notPositive
      cases added : timedelta (.finite seconds) with
      | error error =>
        rw [added] at written
        cases written
      | ok length =>
        have rounded : length = roundHalfEven (seconds * 1000000) := by
          rw [timedelta] at added
          split_ifs at added
          cases added
          rfl
        rw [added, rounded] at written
        replace written :
            (if Representable (delayedMoment seconds now) then
              if Representable (delayedMoment seconds now +
                  timezone (delayedMoment seconds now) * 1000000) then
                .ok (isoSeconds (delayedMoment seconds now) timezone)
              else .error "date value out of range"
            else .error "date value out of range") =
              Except.ok text := written
        split_ifs at written with inside localInside
        cases written
        exact ⟨seconds, rfl, positive, ⟨inside, localInside⟩, rfl⟩
    | infinite negative => cases written
    | notANumber => cases written
    | other => exact absurd rfl unfit
  · rintro ⟨seconds, rfl, positive, ⟨inside, localInside⟩, rfl⟩
    have notPositive : ¬ (Delay.finite seconds).notPositive = true := by
      simpa [Delay.notPositive] using positive
    rw [nextRunAtAfterDelay, if_neg nofun, if_neg notPositive,
      timedelta_of_representable positive inside]
    exact (if_pos inside).trans (if_pos localInside)

/-- A one-shot request with a written moment and nothing else amiss. -/
structure JobRequest.OneShotAt (request : JobRequest) (moment : ℕ) :
    Prop where
  prompt : Text.strip request.prompt ≠ ""
  channels : "" ∉ request.channels
  oneShot : request.recurring = false
  noCron : request.cron = none
  nextRunAt : request.nextRunAt = some (.aware moment)

theorem createJob_isOk_iff {zones : ZoneDatabase} {manager : CronManager}
    {request : JobRequest} {jobId : String} {moment : ℕ}
    (wellFormed : request.OneShotAt moment) :
    (∃ created, manager.createJob zones request jobId now = .ok created) ↔
      now < moment := by
  rw [CronManager.createJob, if_neg wellFormed.prompt,
    if_neg wellFormed.channels, CronManager.firstDeadline,
    wellFormed.oneShot, wellFormed.nextRunAt]
  by_cases late : moment ≤ now
  · rw [if_neg nofun]
    simp only [if_pos late]
    constructor
    · rintro ⟨created, impossible⟩
      cases impossible
    · omega
  · rw [if_neg nofun]
    simp only [if_neg late]
    constructor
    · omega
    · intro _
      simp only [CronManager.requestedJob, CronPlan.make, wellFormed.oneShot, wellFormed.noCron]
      exact ⟨_, rfl⟩

/--
The delay gives a moment behind the current time, not before the delay has
passed and less than a second later, and with it a job is created.
-/
def Schedulable (delay : Delay) (now : ℕ) (timezone : UtcOffset) : Prop :=
  ∃ seconds text, delay = .finite seconds ∧ nextRunAtAfterDelay delay now timezone = .ok text ∧
    now < text.moment ∧
    now + seconds * 1000000 ≤ text.moment ∧
    text.moment < now + seconds * 1000000 + 1000000 ∧
    ∀ (zones : ZoneDatabase) (manager : CronManager) (request : JobRequest) (jobId : String),
      request.OneShotAt text.moment.toNat →
        ∃ created, manager.createJob zones request jobId now = .ok created

/--
The current time and the delay meet on a whole second in the range of
`datetime`, and rounding the delay to microseconds does not shorten it.
-/
def MeetsWholeSecond (delay : Delay) (now : ℕ) (timezone : UtcOffset) :
    Prop :=
  ∃ seconds, delay = .finite seconds ∧ InRange seconds now timezone ∧
    seconds * 1000000 ≤ roundHalfEven (seconds * 1000000) ∧
    delayedMoment seconds now % 1000000 = 0

theorem notBefore_iff {seconds : ℚ} : now + seconds * 1000000 ≤
        (delayedMoment seconds now / 1000000 * 1000000 : ℤ) ↔
      seconds * 1000000 ≤ roundHalfEven (seconds * 1000000) ∧
        delayedMoment seconds now % 1000000 = 0 := by
  have near := (roundHalfEven_near (seconds * 1000000)).1
  have parts := Int.ediv_mul_add_emod (delayedMoment seconds now) 1000000
  have dropped := Int.emod_nonneg (delayedMoment seconds now)
    (by decide : (1000000 : ℤ) ≠ 0)
  have sum : (delayedMoment seconds now : ℚ) =
      now + roundHalfEven (seconds * 1000000) := by
    rw [delayedMoment]
    push_cast
    rfl
  constructor
  · intro notBefore
    -- The moment exceeds the exact one by at most half a microsecond.
    have whole : delayedMoment seconds now % 1000000 = 0 := by
      have kept : (delayedMoment seconds now : ℚ) - 1 <
          (delayedMoment seconds now / 1000000 * 1000000 : ℤ) := by
        linarith
      have keptWhole : delayedMoment seconds now - 1 <
          delayedMoment seconds now / 1000000 * 1000000 := by
        exact_mod_cast kept
      omega
    refine ⟨?_, whole⟩
    rw [whole, add_zero] at parts
    rw [parts, sum] at notBefore
    linarith
  · rintro ⟨longer, whole⟩
    rw [whole, add_zero] at parts
    rw [parts, sum]
    linarith

/--
Of the delays that the schema admits exactly those can be scheduled that meet
a whole second.
-/
theorem schedulable_iff {delay : Delay} {now : ℕ} {timezone : UtcOffset}
    (admitted : delay.admitted = true) :
    Schedulable delay now timezone ↔
      MeetsWholeSecond delay now timezone := by
  constructor
  · rintro ⟨seconds, text, rfl, returned, -, notBefore, -, -⟩
    rcases nextRunAtAfterDelay_eq_ok_iff.mp returned with ⟨_, same, -, inRange, rfl⟩
    cases same
    rw [isoSeconds_moment] at notBefore
    exact ⟨seconds, rfl, inRange, notBefore_iff.mp notBefore⟩
  · rintro ⟨seconds, rfl, inRange, meets⟩
    have minimum : 1 / 1000 ≤ seconds := by
      simpa [Delay.admitted] using admitted
    have positive : 0 < seconds := by linarith
    have near := (roundHalfEven_near (seconds * 1000000)).1
    have notBefore := notBefore_iff.mpr meets
    have whole := isoSeconds_moment (delayedMoment seconds now) timezone
    rw [← whole] at notBefore
    have later :
        now < (isoSeconds (delayedMoment seconds now) timezone).moment := by
      have behind : (now : ℚ) <
          (isoSeconds (delayedMoment seconds now) timezone).moment := by
        linarith
      exact_mod_cast behind
    refine ⟨seconds, _, rfl, nextRunAtAfterDelay_eq_ok_iff.mpr
      ⟨seconds, rfl, positive, inRange, rfl⟩, later, notBefore, ?_, ?_⟩
    · have floor : (isoSeconds (delayedMoment seconds now) timezone).moment ≤
          delayedMoment seconds now := by
        rw [whole]
        exact Int.ediv_mul_le _ (by decide)
      have below : ((isoSeconds (delayedMoment seconds now) timezone).moment :
          ℚ) ≤ now + roundHalfEven (seconds * 1000000) := by
        exact_mod_cast floor
      linarith
    · intro zones manager request jobId wellFormed
      apply (createJob_isOk_iff wellFormed).mpr
      omega

/-- Half a second from a half of a second on. -/
theorem schedulable_iff_halves : Schedulable (.finite (1 / 2)) 63900000000500000 (fun _ => 28800) ↔
      MeetsWholeSecond (.finite (1 / 2)) 63900000000500000 (fun _ => 28800) :=
  schedulable_iff (by decide +kernel)

/--
Half a second from a whole second on, what is written is the current time,
and no job is created with it.
-/
theorem halfSecond_not_schedulable : (Delay.finite (1 / 2)).admitted = true ∧
      nextRunAtAfterDelay (.finite (1 / 2)) 63900000000000000
          (fun _ => 28800) = .ok ⟨63900028800, 28800⟩ ∧
      (IsoText.mk 63900028800 28800).moment = 63900000000000000 ∧
      ¬ Schedulable (.finite (1 / 2)) 63900000000000000 (fun _ => 28800) := by
  have returned : nextRunAtAfterDelay (.finite (1 / 2)) 63900000000000000
      (fun _ => 28800) = .ok ⟨63900028800, 28800⟩ := by
    decide +kernel
  refine ⟨by decide +kernel, returned, by decide, ?_⟩
  rintro ⟨seconds, text, -, written, later, -⟩
  rw [returned] at written
  cases written
  exact absurd later (by decide)

end TurningGood.Proactive
