import TurningGood.Proactive.Scheduler

/-!
# The persisted deadlines of the reviewing services

Breakbeat, Dream and SkillEvolution keep the instant of their next run in a
snapshot.  Breakbeat also keeps it in memory: its property `next_run_at`
caches what it once read, and only the end of a run replaces the cache.
The initialization of a schedule reads the property and then writes the
snapshot, so that Breakbeat goes on to report a missed deadline.
-/

namespace TurningGood.Proactive

/-- The services that keep a deadline of their own. -/
inductive ReviewService where
  | breakbeat
  | dream
  | skillEvolution
  deriving DecidableEq, Repr

/-- The intervals of the settings, which are validated as positive. -/
structure RefreshSettings where
  breakbeatRefreshMinutes : Nat
  dreamRefreshHours : Nat
  breakbeat_positive : 0 < breakbeatRefreshMinutes
  dream_positive : 0 < dreamRefreshHours

/-- `_refresh` of each service, in microseconds. -/
def RefreshSettings.refresh (settings : RefreshSettings) : ReviewService → Nat
  | .breakbeat => settings.breakbeatRefreshMinutes * minuteMicros
  | .dream => settings.dreamRefreshHours * 60 * minuteMicros
  | .skillEvolution => 24 * 60 * minuteMicros

theorem RefreshSettings.refresh_positive (settings : RefreshSettings) (service : ReviewService) :
    0 < settings.refresh service := by
  have minute : 0 < minuteMicros := by decide
  cases service with
  | breakbeat => exact Nat.mul_pos settings.breakbeat_positive minute
  | dream =>
    exact Nat.mul_pos (Nat.mul_pos settings.dream_positive (by decide))
      minute
  | skillEvolution => exact Nat.mul_pos (by decide) minute

/-! ## The property `next_run_at` -/

/--
The cached `_next_run_at`, which only Breakbeat has, and the `next_run_at` of
the snapshot on disk, or the error with which `_state` refuses the snapshot.
-/
structure ReviewSchedule where
  cached : Option Nat
  disk : Except String (Option Nat)

namespace ReviewSchedule

/-- `BreakbeatManager.next_run_at`, which caches what it reads. -/
def breakbeatNextRunAt (schedule : ReviewSchedule) :
    Except String (Option Nat) × ReviewSchedule :=
  match schedule.cached with
  | some deadline => (.ok (some deadline), schedule)
  | none =>
    match schedule.disk with
    | .error error => (.error error, schedule)
    | .ok none => (.ok none, schedule)
    | .ok (some deadline) =>
      (.ok (some deadline), { schedule with cached := some deadline })

/-- A `next_run_at` that reads the snapshot each time. -/
def readNextRunAt (schedule : ReviewSchedule) :
    Except String (Option Nat) × ReviewSchedule :=
  (schedule.disk, schedule)

/-- `DreamManager.next_run_at`. -/
def dreamNextRunAt (schedule : ReviewSchedule) :
    Except String (Option Nat) × ReviewSchedule :=
  readNextRunAt schedule

/-- `SkillEvolutionManager.next_run_at`. -/
def skillEvolutionNextRunAt (schedule : ReviewSchedule) :
    Except String (Option Nat) × ReviewSchedule :=
  readNextRunAt schedule

/-- `next_run_at` of a service. -/
def nextRunAt (service : ReviewService) :
    ReviewSchedule → Except String (Option Nat) × ReviewSchedule :=
  match service with
  | .breakbeat => breakbeatNextRunAt
  | .dream => dreamNextRunAt
  | .skillEvolution => skillEvolutionNextRunAt

/-- The deadline that a service reports to the scheduler. -/
def reported (service : ReviewService) (schedule : ReviewSchedule) :
    Except String (Option Nat) :=
  (nextRunAt service schedule).1

theorem reported_nextRunAt (service : ReviewService) (schedule : ReviewSchedule) :
    reported service (nextRunAt service schedule).2 =
      reported service schedule := by
  rcases schedule with ⟨cached, disk⟩
  cases service with
  | dream => rfl
  | skillEvolution => rfl
  | breakbeat =>
    cases cached with
    | some deadline => rfl
    | none =>
      rcases disk with error | ⟨_ | deadline⟩
      · rfl
      · rfl
      · rfl

theorem breakbeat_reported_of_cached
    {schedule : ReviewSchedule} {deadline : Nat}
    (cached : schedule.cached = some deadline) :
    reported .breakbeat schedule = .ok (some deadline) := by
  rcases schedule with ⟨_, disk⟩
  cases cached
  rfl

theorem disk_nextRunAt (service : ReviewService) (schedule : ReviewSchedule) :
    (nextRunAt service schedule).2.disk = schedule.disk := by
  rcases schedule with ⟨cached, disk⟩
  cases service with
  | dream => rfl
  | skillEvolution => rfl
  | breakbeat =>
    cases cached with
    | some deadline => rfl
    | none =>
      rcases disk with error | ⟨_ | deadline⟩
      · rfl
      · rfl
      · rfl

/-- Write the next run into a snapshot that can be read. -/
def writeNextRunAt (schedule : ReviewSchedule) (deadline : Nat) :
    Except String ReviewSchedule := do
  let _ ← schedule.disk
  return { schedule with disk := .ok (some deadline) }

/--
`initialize_schedule`, the same text in the three services, and whether it
announces a change of the schedule.
-/
def initializeSchedule (settings : RefreshSettings) (service : ReviewService) (now : Nat)
    (schedule : ReviewSchedule) : ReviewSchedule × Except String Bool :=
  match nextRunAt service schedule with
  | (.error error, read) => (read, .error error)
  | (.ok deadline, read) =>
    if deadline.any (now < ·) then
      (read, .ok false)
    else
      match read.writeNextRunAt (now + settings.refresh service) with
      | .ok written => (written, .ok true)
      | .error error => (read, .error error)

/-- `_due`. -/
def due (deadline : Option Nat) (now : Nat) : Bool := deadline.any (· ≤ now)

/-! ## A start skips what was missed -/

/--
After `initialize_schedule` the service reports a deadline behind `now`, it
is the one on disk, and nothing is due before it.
-/
def StartsAhead (settings : RefreshSettings) (service : ReviewService) (now : Nat)
    (schedule : ReviewSchedule) : Prop :=
  ∃ deadline, reported service (initializeSchedule settings service now schedule).1 =
        .ok (some deadline) ∧
      now < deadline ∧
      (initializeSchedule settings service now schedule).1.disk = .ok (some deadline) ∧
      ∀ moment, moment < deadline → due (some deadline) moment = false

theorem startsAhead_of_reported
    {settings : RefreshSettings} {service : ReviewService} {now : Nat}
    {schedule : ReviewSchedule} {deadline : Nat}
    (shown : reported service (initializeSchedule settings service now schedule).1 =
        .ok (some deadline))
    (later : now < deadline)
    (disk : (initializeSchedule settings service now schedule).1.disk = .ok (some deadline)) :
    StartsAhead settings service now schedule := by
  refine ⟨deadline, shown, later, disk, fun moment early => ?_⟩
  simpa [due] using early

theorem initializeSchedule_eq (settings : RefreshSettings) (service : ReviewService) (now : Nat)
    (cached stored deadline : Option Nat) {read : ReviewSchedule}
    (shown : nextRunAt service ⟨cached, .ok stored⟩ = (.ok deadline, read)) :
    (initializeSchedule settings service now ⟨cached, .ok stored⟩).1 =
      if deadline.any (now < ·) then
        read
      else
        { read with disk := .ok (some (now + settings.refresh service)) } := by
  have disk := disk_nextRunAt service ⟨cached, .ok stored⟩
  rw [shown] at disk
  have same : read.disk = .ok stored := disk
  unfold initializeSchedule
  rw [shown]
  dsimp only
  split_ifs
  · rfl
  · simp only [writeNextRunAt, same]
    rfl

theorem startsAhead_of_read (settings : RefreshSettings) {service : ReviewService} (now : Nat)
    (cached stored : Option Nat)
    (reads : nextRunAt service = readNextRunAt) :
    StartsAhead settings service now ⟨cached, .ok stored⟩ := by
  have result := initializeSchedule_eq settings service now cached stored
    stored (congrFun reads ⟨cached, .ok stored⟩)
  have shown : ∀ schedule, reported service schedule = schedule.disk := by
    intro schedule
    rw [reported, reads]
    rfl
  have positive := settings.refresh_positive service
  by_cases later : stored.any (now < ·) = true
  · rw [if_pos later] at result
    rcases stored with _ | deadline
    · cases later
    · refine startsAhead_of_reported ?_ (of_decide_eq_true later) ?_
      · rw [shown, result]
      · rw [result]
  · rw [if_neg later] at result
    refine startsAhead_of_reported ?_ (Nat.lt_add_of_pos_right positive) ?_
    · rw [shown, result]
    · rw [result]

theorem breakbeat_startsAhead_of_none (settings : RefreshSettings) (now : Nat) :
    StartsAhead settings .breakbeat now ⟨none, .ok none⟩ := by
  have result :
      (initializeSchedule settings .breakbeat now ⟨none, .ok none⟩).1 =
        ⟨none, .ok (some (now + settings.refresh .breakbeat))⟩ :=
    initializeSchedule_eq settings .breakbeat now none none none rfl
  refine startsAhead_of_reported ?_
    (Nat.lt_add_of_pos_right (settings.refresh_positive .breakbeat)) ?_
  · rw [result]
    rfl
  · rw [result]

theorem breakbeat_startsAhead_iff_of_some (settings : RefreshSettings) (now deadline : Nat)
    {cached stored : Option Nat}
    (shown : cached.or stored = some deadline) :
    StartsAhead settings .breakbeat now ⟨cached, .ok stored⟩ ↔
      now < deadline ∧ stored = some deadline := by
  have read :
      nextRunAt .breakbeat ⟨cached, .ok stored⟩ =
        (.ok (some deadline), ⟨some deadline, .ok stored⟩) := by
    cases cached with
    | some held =>
      cases shown
      rfl
    | none =>
      cases stored with
      | none => cases shown
      | some found =>
        cases shown
        rfl
  have result := initializeSchedule_eq settings .breakbeat now cached stored
    (some deadline) read
  simp only [Option.any_some, decide_eq_true_eq] at result
  have remembers :
      (initializeSchedule settings .breakbeat now
        ⟨cached, .ok stored⟩).1.cached = some deadline := by
    rw [result]
    split_ifs <;> rfl
  have reports :
      reported .breakbeat (initializeSchedule settings .breakbeat now ⟨cached, .ok stored⟩).1 =
        .ok (some deadline) :=
    breakbeat_reported_of_cached remembers
  constructor
  · rintro ⟨other, found, later, disk, _⟩
    rw [reports, Except.ok.injEq, Option.some.injEq] at found
    subst found
    rw [result, if_pos later] at disk
    exact ⟨later, Except.ok.inj disk⟩
  · rintro ⟨later, rfl⟩
    refine startsAhead_of_reported reports later ?_
    rw [result, if_pos later]

/--
A service starts ahead unless it is a Breakbeat that already reports a
deadline, which has passed or is not the one on disk.
-/
theorem initializeSchedule_startsAhead_iff
    (settings : RefreshSettings) (service : ReviewService) (now : Nat)
    (cached stored : Option Nat) :
    StartsAhead settings service now ⟨cached, .ok stored⟩ ↔
      (service = .breakbeat → ∀ deadline, cached.or stored = some deadline →
        now < deadline ∧ stored = some deadline) := by
  cases service with
  | dream =>
    exact ⟨fun _ => nofun, fun _ => startsAhead_of_read settings now cached stored rfl⟩
  | skillEvolution =>
    exact ⟨fun _ => nofun, fun _ => startsAhead_of_read settings now cached stored rfl⟩
  | breakbeat =>
    cases shown : cached.or stored with
    | none =>
      rw [Option.or_eq_none_iff] at shown
      rcases shown with ⟨rfl, rfl⟩
      exact ⟨fun _ _ => nofun, fun _ => breakbeat_startsAhead_of_none settings now⟩
    | some deadline =>
      rw [breakbeat_startsAhead_iff_of_some settings now deadline shown]
      constructor
      · rintro ahead _ _ ⟨⟩
        exact ahead
      · intro ahead
        exact ahead rfl deadline rfl

/-- The default intervals. -/
def defaultRefresh : RefreshSettings where
  breakbeatRefreshMinutes := 60
  dreamRefreshHours := 24
  breakbeat_positive := by decide
  dream_positive := by decide

/-- A new Breakbeat instance goes on to report the deadline that it missed. -/
theorem missed_breakbeat_stays_due :
    let missed := minuteMicros
    let now := 2 * minuteMicros
    let started :=
      (initializeSchedule defaultRefresh .breakbeat now ⟨none, .ok (some missed)⟩).1
    reported .breakbeat started = .ok (some missed) ∧ due (some missed) now = true ∧
      started.disk = .ok (some (62 * minuteMicros)) ∧
      ¬ StartsAhead defaultRefresh .breakbeat now ⟨none, .ok (some missed)⟩ := by
  refine ⟨rfl, rfl, rfl, ?_⟩
  rintro ⟨deadline, found, later, _⟩
  cases found
  exact absurd later (by decide)

end ReviewSchedule
end TurningGood.Proactive
