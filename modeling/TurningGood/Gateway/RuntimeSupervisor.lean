import Mathlib.Logic.Basic
import TurningGood.Foundation.Machine

/-!
# The supervisor that replaces the runtime

A request names the desired revision.  While turns are running it stays
pending until the gateway is idle; otherwise the calling task takes the
replacement lock, builds a candidate, prepares and starts it, and commits it
when the gateway is still idle.

Every section between two awaits is one step.  The requests are numbered, and
the numbers of the attempts are recorded beside the program's own state, as is
whether `notify_idle` was called since the gateway became idle.  The property
at the end of the module is that no request is lost.  It holds in runs in
which an attempt that fails was made for the latest request, and no request
waits for the lock beside a state that has been decided.
-/

namespace TurningGood.Gateway

open TurningGood.Foundation

/-! ## The supervisor -/

/-- The field `state` of `RuntimeStatus`. -/
inductive ApplyState where
  | active
  | pending
  | applying
  | failed
  deriving DecidableEq, Repr

/--
Where a call of `_reload` that holds the lock awaits: the factory,
`on_prepare`, `start` or `on_activate` of its candidate, the end of the
previous runtime, or the end of a candidate that was discarded because of new
turns, had failed, or was cancelled.
-/
inductive ReloadPhase where
  | building
  | preparing
  | starting
  | activating
  | closingPrevious
  | discarding
  | closingFailed
  | closingCancelled
  deriving DecidableEq, Repr

/-- A call of `_reload` that holds the lock, for a numbered request. -/
structure Reload where
  revision : String
  serial : Nat
  phase : ReloadPhase
  deriving DecidableEq, Repr

/-- `RuntimeSupervisor`; a runtime is known by the revision it was built of. -/
structure RuntimeSupervisor where
  runtime : String
  activeRevision : String
  desiredRevision : String
  state : ApplyState
  lastApplyError : Option String
  ready : Bool
  idle : Bool
  holder : Option Reload
  waiting : Nat
  requests : Nat
  notified : Bool
  attempted : List Nat
  failedAttempts : List Nat
  deriving DecidableEq, Repr

namespace RuntimeSupervisor

variable (supervisor : RuntimeSupervisor)

/-- The lock is held, or other tasks wait for it. -/
def Busy : Prop := supervisor.holder ≠ none ∨ supervisor.waiting ≠ 0

instance : Decidable supervisor.Busy := inferInstanceAs (Decidable (_ ∨ _))

/-- `_reload` with the lock, up to its first await. -/
def enterReload : RuntimeSupervisor :=
  if supervisor.idle then
    { supervisor with
      state := .applying
      ready := false
      holder := some ⟨supervisor.desiredRevision, supervisor.requests, .building⟩
      attempted := supervisor.requests :: supervisor.attempted }
  else
    { supervisor with state := .pending }

/-- A call of `_reload`; the lock is given in the order of the calls. -/
def callReload : RuntimeSupervisor :=
  if supervisor.Busy then
    { supervisor with waiting := supervisor.waiting + 1 }
  else
    supervisor.enterReload

/-- `request_reload`. -/
def requestReload (revision : String) : RuntimeSupervisor :=
  let requested :=
    { supervisor with
      desiredRevision := revision
      lastApplyError := none
      requests := supervisor.requests + 1 }
  if supervisor.idle then
    requested.callReload
  else
    { requested with state := .pending }

/-- `notify_idle`. -/
def notifyIdle : RuntimeSupervisor :=
  let told := { supervisor with notified := supervisor.idle }
  if supervisor.state = .pending ∧ supervisor.idle = true then
    told.callReload
  else
    told

/-- What `idle_probe` returns changes. -/
def setIdle (idle : Bool) : RuntimeSupervisor :=
  { supervisor with
    idle := idle
    notified := supervisor.notified && idle }

/-- The next waiting task gets the lock. -/
def grant : Option RuntimeSupervisor :=
  match supervisor.holder, supervisor.waiting with
  | none, waiting + 1 =>
    some { supervisor with waiting := waiting }.enterReload
  | _, _ => none

/-- The holder goes on to another await. -/
def await (reload : Reload) (phase : ReloadPhase) : RuntimeSupervisor :=
  { supervisor with holder := some { reload with phase := phase } }

/-- The `finally` of `_reload`, and the release of the lock. -/
def release : RuntimeSupervisor :=
  { supervisor with ready := true, holder := none }

/-- The state of an attempt that failed. -/
def fail (reload : Reload) (error : String) : RuntimeSupervisor :=
  { supervisor with
    state := .failed
    lastApplyError := some error
    failedAttempts := reload.serial :: supervisor.failedAttempts }

/-- Go on if the gateway is idle; else discard the candidate. -/
def ifIdle (reload : Reload) (phase : ReloadPhase) : RuntimeSupervisor :=
  if supervisor.idle then
    supervisor.await reload phase
  else
    { supervisor with state := .pending }.await reload .discarding

/-- The candidate becomes the runtime. -/
def commit (reload : Reload) : RuntimeSupervisor :=
  { supervisor with
    runtime := reload.revision
    activeRevision := reload.revision
    state :=
      if supervisor.desiredRevision = reload.revision then
        .active
      else
        .pending }

/-- The awaited call returned. -/
def resume (reload : Reload) : RuntimeSupervisor :=
  match reload.phase with
  | .building => supervisor.ifIdle reload .preparing
  | .preparing => supervisor.await reload .starting
  | .starting => supervisor.ifIdle reload .activating
  | .activating =>
    (supervisor.commit reload).await reload .closingPrevious
  | .closingPrevious | .discarding | .closingFailed => supervisor.release
  | .closingCancelled =>
    (supervisor.fail reload "Runtime 替换已取消").release

/-- The awaited call raised; closing a runtime logs what it raises. -/
def raise (reload : Reload) (error : String) : RuntimeSupervisor :=
  match reload.phase with
  | .building => (supervisor.fail reload error).release
  | .preparing | .starting | .activating =>
    (supervisor.fail reload error).await reload .closingFailed
  | .closingPrevious | .discarding | .closingFailed | .closingCancelled =>
    supervisor.resume reload

/-- The task that holds the lock is cancelled, at most once. -/
def cancel (reload : Reload) : Option RuntimeSupervisor :=
  match reload.phase with
  | .building | .closingPrevious =>
    some (supervisor.fail reload "Runtime 替换已取消").release
  | .preparing | .starting | .activating | .discarding =>
    some (supervisor.await reload .closingCancelled)
  | .closingFailed => some supervisor.release
  | .closingCancelled => none

end RuntimeSupervisor

/-- What can happen to a supervisor that is not shut down. -/
inductive SupervisorEvent where
  | requestReload (revision : String)
  | notifyIdle
  | setIdle (idle : Bool)
  | grant
  | resume
  | raise (error : String)
  | cancel
  deriving DecidableEq, Repr

namespace RuntimeSupervisor

variable (supervisor : RuntimeSupervisor)

def step : SupervisorEvent → Option RuntimeSupervisor
  | .requestReload revision => some (supervisor.requestReload revision)
  | .notifyIdle => some supervisor.notifyIdle
  | .setIdle idle => some (supervisor.setIdle idle)
  | .grant => supervisor.grant
  | .resume => supervisor.holder.map supervisor.resume
  | .raise error =>
    supervisor.holder.map fun reload => supervisor.raise reload error
  | .cancel => supervisor.holder.bind supervisor.cancel

/-- A supervisor with its first runtime, in an idle gateway. -/
def fresh (revision : String) : RuntimeSupervisor where
  runtime := revision
  activeRevision := revision
  desiredRevision := revision
  state := .active
  lastApplyError := none
  ready := true
  idle := true
  holder := none
  waiting := 0
  requests := 0
  notified := true
  attempted := []
  failedAttempts := []

end RuntimeSupervisor

/-- The runs of a supervisor. -/
def supervisorMachine : Machine RuntimeSupervisor SupervisorEvent where
  initial supervisor := ∃ revision, supervisor = .fresh revision
  step := RuntimeSupervisor.step

namespace RuntimeSupervisor

variable {supervisor : RuntimeSupervisor}

/--
When the gateway is idle and told so and no reload runs, the latest request is
active or its own attempt failed; and the states active and failed say so of
the latest request.
-/
structure KeepsRequests (supervisor : RuntimeSupervisor) : Prop where
  settled : supervisor.idle = true → supervisor.notified = true → ¬ supervisor.Busy →
        supervisor.activeRevision = supervisor.desiredRevision ∨
          supervisor.requests ∈ supervisor.failedAttempts
  active : supervisor.state = .active → supervisor.desiredRevision = supervisor.activeRevision
  failed : supervisor.state = .failed → supervisor.requests ∈ supervisor.attempted

/-- The phases in which an event makes the attempt fail. -/
def SupervisorEvent.fails : SupervisorEvent → ReloadPhase → Bool
  | .raise _, .building | .raise _, .preparing | .raise _, .starting
  | .raise _, .activating | .raise _, .closingCancelled
  | .cancel, .building | .cancel, .closingPrevious
  | .resume, .closingCancelled => true
  | _, _ => false

/--
An attempt fails for the latest request only, and a request that has to wait
for the lock finds a state that is not decided, unless it asks for the active
revision again.
-/
def DecidesLatest (supervisor : RuntimeSupervisor) (event : SupervisorEvent) :
    Prop :=
  (∀ reload ∈ supervisor.holder, SupervisorEvent.fails event reload.phase = true →
        reload.serial = supervisor.requests) ∧
    match event with
    | .requestReload revision =>
      supervisor.idle = true → supervisor.Busy → supervisor.state ≠ .failed ∧
          (supervisor.state = .active → revision = supervisor.activeRevision)
    | _ => True

instance (supervisor : RuntimeSupervisor) (event : SupervisorEvent) :
    Decidable (supervisor.DecidesLatest event) :=
  match event with
  | .requestReload _ =>
    inferInstanceAs (Decidable ((∀ reload ∈ _, _ → _) ∧ (_ → _ → _ ∧ (_ → _))))
  | .notifyIdle | .setIdle _ | .grant | .resume | .raise _ | .cancel =>
    inferInstanceAs (Decidable ((∀ reload ∈ _, _ → _) ∧ True))

/-! ## The invariant -/

/-- A candidate of the attempt may still be committed. -/
def ReloadPhase.live : ReloadPhase → Bool
  | .building | .preparing | .starting | .activating => true
  | _ => false

/-- What the holder of the lock works on. -/
structure HolderSound
    (supervisor : RuntimeSupervisor) (reload : Reload) : Prop where
  bounded : reload.serial ≤ supervisor.requests
  latest : reload.serial = supervisor.requests → reload.revision = supervisor.desiredRevision
  attempted : reload.serial ∈ supervisor.attempted
  committed : reload.phase = .closingPrevious → supervisor.activeRevision = reload.revision

/-- The attempt for the latest request is under way. -/
def Trying (supervisor : RuntimeSupervisor) : Prop :=
  ∃ reload ∈ supervisor.holder, reload.serial = supervisor.requests ∧
    (ReloadPhase.live reload.phase = true ∨ reload.phase = .closingCancelled)

/-- The latest request is active, and nothing will replace it. -/
def Settled (supervisor : RuntimeSupervisor) : Prop :=
  supervisor.activeRevision = supervisor.desiredRevision ∧
    ∀ reload ∈ supervisor.holder, ReloadPhase.live reload.phase = false

/-- The latest request waits for a call of `notify_idle`. -/
def Awaiting (supervisor : RuntimeSupervisor) : Prop := supervisor.state = .pending ∧
    ¬ (supervisor.idle = true ∧ supervisor.notified = true)

/-- The latest request failed, will be tried, or is active. -/
def Attended (supervisor : RuntimeSupervisor) : Prop :=
  supervisor.requests ∈ supervisor.failedAttempts ∨
    supervisor.waiting ≠ 0 ∨ supervisor.Trying ∨ supervisor.Awaiting ∨ supervisor.Settled

/-- What the states active and failed say. -/
structure Decided (supervisor : RuntimeSupervisor) : Prop where
  active : supervisor.state = .active → supervisor.desiredRevision = supervisor.activeRevision
  failed : supervisor.state = .failed → supervisor.requests ∈ supervisor.attempted

/-- What holds in every state. -/
structure Sound (supervisor : RuntimeSupervisor) : Prop where
  told : supervisor.notified = true → supervisor.idle = true
  holder : ∀ reload ∈ supervisor.holder, supervisor.HolderSound reload
  decided : supervisor.Decided
  attended : supervisor.Attended

theorem decided_of_open (active : supervisor.state ≠ .active)
    (failed : supervisor.state ≠ .failed) : supervisor.Decided :=
  ⟨fun same => absurd same active, fun same => absurd same failed⟩

theorem enterReload_sound (told : supervisor.notified = true → supervisor.idle = true)
    (free : supervisor.holder = none) : supervisor.enterReload.Sound := by
  unfold enterReload
  split_ifs with idle
  · refine ⟨fun _ => idle, ?_, decided_of_open ?_ ?_, .inr (.inr (.inl ⟨_, rfl, rfl, .inl rfl⟩))⟩
    · rintro reload ⟨⟩
      exact ⟨Nat.le_refl _, fun _ => rfl, List.mem_cons_self,
        fun same => by cases same⟩
    · intro same
      cases same
    · intro same
      cases same
  · refine ⟨told, ?_, decided_of_open ?_ ?_,
      .inr (.inr (.inr (.inl ⟨rfl, fun both => idle both.1⟩)))⟩
    · intro reload member
      have held : supervisor.holder = some reload := member
      rw [free] at held
      cases held
    · intro same
      cases same
    · intro same
      cases same

theorem callReload_sound (told : supervisor.notified = true → supervisor.idle = true)
    (holder : ∀ reload ∈ supervisor.holder, supervisor.HolderSound reload)
    (decided : supervisor.Busy → supervisor.Decided) :
    supervisor.callReload.Sound := by
  unfold callReload
  split_ifs with busy
  · refine ⟨told, ?_, ⟨(decided busy).active, (decided busy).failed⟩,
      .inr (.inl (Nat.succ_ne_zero _))⟩
    intro reload member
    rcases holder reload member with ⟨bounded, latest, attempted, committed⟩
    exact ⟨bounded, latest, attempted, committed⟩
  · rw [Busy, not_or, not_not] at busy
    exact enterReload_sound told busy.1

theorem requestReload_sound (sound : supervisor.Sound) {revision : String}
    (decides : supervisor.DecidesLatest (.requestReload revision)) :
    (supervisor.requestReload revision).Sound := by
  have holder : ∀ reload ∈ supervisor.holder,
      ∀ target : RuntimeSupervisor, target.requests = supervisor.requests + 1 →
        target.attempted = supervisor.attempted →
        target.activeRevision = supervisor.activeRevision →
          target.HolderSound reload := by
    intro reload member target requests attempted active
    have held := sound.holder reload member
    refine ⟨?_, ?_, ?_, ?_⟩
    · rw [requests]
      exact Nat.le_succ_of_le held.bounded
    · rw [requests]
      intro same
      have bounded := held.bounded
      omega
    · rw [attempted]
      exact held.attempted
    · rw [active]
      exact held.committed
  unfold requestReload
  dsimp only
  split_ifs with idle
  · refine callReload_sound sound.told ?_ ?_
    · exact fun reload member => holder reload member _ rfl rfl rfl
    · intro busy
      rcases decides.2 idle busy with ⟨notFailed, same⟩
      exact ⟨same, fun failed => absurd failed notFailed⟩
  · refine ⟨sound.told, ?_, decided_of_open ?_ ?_, ?_⟩
    · exact fun reload member => holder reload member _ rfl rfl rfl
    · intro same
      cases same
    · intro same
      cases same
    · exact .inr (.inr (.inr (.inl ⟨rfl, fun both => idle both.1⟩)))

theorem notifyIdle_sound (sound : supervisor.Sound) :
    supervisor.notifyIdle.Sound := by
  have holder : ∀ reload ∈ supervisor.holder,
      HolderSound { supervisor with notified := supervisor.idle } reload := by
    intro reload member
    rcases sound.holder reload member with ⟨bounded, latest, attempted, committed⟩
    exact ⟨bounded, latest, attempted, committed⟩
  have decided :
      Decided { supervisor with notified := supervisor.idle } :=
    ⟨sound.decided.active, sound.decided.failed⟩
  unfold notifyIdle
  dsimp only
  split_ifs with both
  · exact callReload_sound id holder fun _ => decided
  · refine ⟨id, holder, decided, ?_⟩
    rcases sound.attended with failed | waiting | trying | waits | settled
    · exact .inl failed
    · exact .inr (.inl waiting)
    · exact .inr (.inr (.inl trying))
    · refine .inr (.inr (.inr (.inl ⟨waits.1, ?_⟩)))
      exact fun idle => both ⟨waits.1, idle.1⟩
    · exact .inr (.inr (.inr (.inr settled)))

theorem setIdle_sound (sound : supervisor.Sound) (idle : Bool) :
    (supervisor.setIdle idle).Sound := by
  refine ⟨?_, ?_, ⟨sound.decided.active, sound.decided.failed⟩, ?_⟩
  · intro told
    exact (Bool.and_eq_true_iff.mp told).2
  · intro reload member
    rcases sound.holder reload member with ⟨bounded, latest, attempted, committed⟩
    exact ⟨bounded, latest, attempted, committed⟩
  · rcases sound.attended with failed | waiting | trying | waits | settled
    · exact .inl failed
    · exact .inr (.inl waiting)
    · exact .inr (.inr (.inl trying))
    · refine .inr (.inr (.inr (.inl ⟨waits.1, ?_⟩)))
      rintro ⟨_, told⟩
      have before := (Bool.and_eq_true_iff.mp told).1
      exact waits.2 ⟨sound.told before, before⟩
    · exact .inr (.inr (.inr (.inr settled)))

theorem grant_sound
    {target : RuntimeSupervisor} (sound : supervisor.Sound)
    (granted : supervisor.grant = some target) : target.Sound := by
  unfold grant at granted
  split at granted
  case h_1 waiting free _ =>
    cases granted
    exact enterReload_sound sound.told free
  case h_2 => cases granted

/-! ## The attempt that holds the lock -/

section Holder

variable {reload : Reload}

theorem await_sound (sound : supervisor.Sound) (held : supervisor.holder = some reload)
    {phase : ReloadPhase}
    (trying : ReloadPhase.live reload.phase = true ∨ reload.phase = .closingCancelled →
        ReloadPhase.live phase = true ∨ phase = .closingCancelled)
    (settled : ReloadPhase.live reload.phase = false → ReloadPhase.live phase = false)
    (committed : phase = .closingPrevious → supervisor.activeRevision = reload.revision) :
    (supervisor.await reload phase).Sound := by
  have holder := sound.holder reload held
  refine ⟨sound.told, ?_, ⟨sound.decided.active, sound.decided.failed⟩, ?_⟩
  · rintro _ ⟨⟩
    exact ⟨holder.bounded, holder.latest, holder.attempted, committed⟩
  · rcases sound.attended with failed | waiting | tries | waits | done
    · exact .inl failed
    · exact .inr (.inl waiting)
    · rcases tries with ⟨other, same, latest, live⟩
      rw [held] at same
      cases same
      exact .inr (.inr (.inl ⟨_, rfl, latest, trying live⟩))
    · exact .inr (.inr (.inr (.inl waits)))
    · refine .inr (.inr (.inr (.inr ⟨done.1, ?_⟩)))
      rintro _ ⟨⟩
      exact settled (done.2 reload held)

theorem ifIdle_sound (sound : supervisor.Sound) (held : supervisor.holder = some reload)
    {phase : ReloadPhase} (before : ReloadPhase.live reload.phase = true)
    (after : ReloadPhase.live phase = true) :
    (supervisor.ifIdle reload phase).Sound := by
  have holder := sound.holder reload held
  unfold ifIdle
  split_ifs with idle
  · refine await_sound sound held (fun _ => .inl after) ?_ ?_
    · intro dead
      rw [before] at dead
      cases dead
    · rintro rfl
      cases after
  · refine ⟨sound.told, ?_, decided_of_open ?_ ?_,
      .inr (.inr (.inr (.inl ⟨rfl, fun both => idle both.1⟩)))⟩
    · rintro _ ⟨⟩
      exact ⟨holder.bounded, holder.latest, holder.attempted,
        fun same => by cases same⟩
    · intro same
      cases same
    · intro same
      cases same

theorem commit_sound (sound : supervisor.Sound) (held : supervisor.holder = some reload)
    (live : ReloadPhase.live reload.phase = true) :
    ((supervisor.commit reload).await reload .closingPrevious).Sound := by
  have holder := sound.holder reload held
  refine ⟨sound.told, ?_, ⟨?_, ?_⟩, ?_⟩
  · rintro _ ⟨⟩
    exact ⟨holder.bounded, holder.latest, holder.attempted, fun _ => rfl⟩
  · intro active
    have decided : (if supervisor.desiredRevision = reload.revision then
        ApplyState.active else .pending) = .active := active
    split_ifs at decided with same
    exact same
  · intro failed
    have impossible : (if supervisor.desiredRevision = reload.revision then
        ApplyState.active else .pending) = .failed := failed
    split_ifs at impossible
  · by_cases same : supervisor.desiredRevision = reload.revision
    · refine .inr (.inr (.inr (.inr ⟨same.symm, ?_⟩)))
      rintro _ ⟨⟩
      rfl
    · rcases sound.attended with failed | waiting | tries | waits | done
      · exact .inl failed
      · exact .inr (.inl waiting)
      · rcases tries with ⟨other, present, latest, _⟩
        rw [held] at present
        cases present
        exact absurd (holder.latest latest).symm same
      · exact .inr (.inr (.inr (.inl ⟨if_neg same, waits.2⟩)))
      · have dead := done.2 reload held
        rw [live] at dead
        cases dead

theorem release_sound (sound : supervisor.Sound) (held : supervisor.holder = some reload)
    (dead : ReloadPhase.live reload.phase = false)
    (done : reload.phase ≠ .closingCancelled) :
    supervisor.release.Sound := by
  refine ⟨sound.told, by rintro _ ⟨⟩,
    ⟨sound.decided.active, sound.decided.failed⟩, ?_⟩
  rcases sound.attended with failed | waiting | tries | waits | settled
  · exact .inl failed
  · exact .inr (.inl waiting)
  · rcases tries with ⟨other, present, _, live⟩
    rw [held] at present
    cases present
    rcases live with live | cancelled
    · rw [dead] at live
      cases live
    · exact absurd cancelled done
  · exact .inr (.inr (.inr (.inl waits)))
  · exact .inr (.inr (.inr (.inr ⟨settled.1, by rintro _ ⟨⟩⟩)))

theorem fail_release_sound (sound : supervisor.Sound) (held : supervisor.holder = some reload)
    (latest : reload.serial = supervisor.requests) (error : String) :
    (supervisor.fail reload error).release.Sound := by
  refine ⟨sound.told, by rintro _ ⟨⟩, ⟨(fun same => by cases same), ?_⟩,
    .inl ?_⟩
  · intro _
    exact latest ▸ (sound.holder reload held).attempted
  · exact latest ▸ List.mem_cons_self

theorem fail_await_sound (sound : supervisor.Sound) (held : supervisor.holder = some reload)
    (latest : reload.serial = supervisor.requests) (error : String) :
    ((supervisor.fail reload error).await reload .closingFailed).Sound := by
  have holder := sound.holder reload held
  refine ⟨sound.told, ?_, ⟨(fun same => by cases same), ?_⟩, .inl ?_⟩
  · rintro _ ⟨⟩
    exact ⟨holder.bounded, holder.latest, holder.attempted,
      fun same => by cases same⟩
  · intro _
    exact latest ▸ holder.attempted
  · exact latest ▸ List.mem_cons_self

theorem resume_sound (sound : supervisor.Sound) (held : supervisor.holder = some reload)
    (latest : reload.phase = .closingCancelled → reload.serial = supervisor.requests) :
    (supervisor.resume reload).Sound := by
  unfold resume
  cases phase : reload.phase with
  | building => exact ifIdle_sound sound held (by rw [phase]; rfl) rfl
  | preparing =>
    refine await_sound sound held (fun _ => .inl rfl) ?_ ?_
    · intro dead
      rw [phase] at dead
      cases dead
    · intro same
      cases same
  | starting => exact ifIdle_sound sound held (by rw [phase]; rfl) rfl
  | activating => exact commit_sound sound held (by rw [phase]; rfl)
  | closingPrevious =>
    exact release_sound sound held (by rw [phase]; rfl) (by simp [phase])
  | discarding =>
    exact release_sound sound held (by rw [phase]; rfl) (by simp [phase])
  | closingFailed =>
    exact release_sound sound held (by rw [phase]; rfl) (by simp [phase])
  | closingCancelled =>
    exact fail_release_sound sound held (latest phase) _

theorem raise_sound (sound : supervisor.Sound) (held : supervisor.holder = some reload)
    (error : String)
    (latest : SupervisorEvent.fails (.raise error) reload.phase = true →
        reload.serial = supervisor.requests) :
    (supervisor.raise reload error).Sound := by
  have cancelled : reload.phase = .closingCancelled →
      reload.serial = supervisor.requests :=
    fun same => latest (by rw [same]; rfl)
  unfold raise
  cases phase : reload.phase with
  | building =>
    exact fail_release_sound sound held (latest (by rw [phase]; rfl)) error
  | preparing | starting | activating =>
    exact fail_await_sound sound held (latest (by rw [phase]; rfl)) error
  | closingPrevious | discarding | closingFailed | closingCancelled =>
    exact resume_sound sound held cancelled

theorem cancel_sound
    {target : RuntimeSupervisor}
    (sound : supervisor.Sound) (held : supervisor.holder = some reload)
    (latest : SupervisorEvent.fails .cancel reload.phase = true →
        reload.serial = supervisor.requests)
    (cancelled : supervisor.cancel reload = some target) : target.Sound := by
  unfold cancel at cancelled
  cases phase : reload.phase with
  | building | closingPrevious =>
    simp only [phase, Option.some.injEq] at cancelled
    subst target
    exact fail_release_sound sound held (latest (by rw [phase]; rfl)) _
  | preparing | starting | activating | discarding =>
    simp only [phase, Option.some.injEq] at cancelled
    subst target
    exact await_sound sound held (fun _ => .inr rfl) (fun _ => rfl)
      fun same => by cases same
  | closingFailed =>
    simp only [phase, Option.some.injEq] at cancelled
    subst target
    exact release_sound sound held (by rw [phase]; rfl) (by simp [phase])
  | closingCancelled =>
    simp only [phase] at cancelled
    cases cancelled

end Holder

theorem step_sound
    {event : SupervisorEvent} {target : RuntimeSupervisor}
    (sound : supervisor.Sound) (decides : supervisor.DecidesLatest event)
    (stepped : supervisor.step event = some target) : target.Sound := by
  cases event with
  | requestReload revision =>
    cases stepped
    exact requestReload_sound sound decides
  | notifyIdle =>
    cases stepped
    exact notifyIdle_sound sound
  | setIdle idle =>
    cases stepped
    exact setIdle_sound sound idle
  | grant => exact grant_sound sound stepped
  | resume =>
    rcases Option.map_eq_some_iff.mp stepped with ⟨reload, held, rfl⟩
    exact resume_sound sound held fun cancelled =>
      decides.1 reload held (by rw [cancelled]; rfl)
  | raise error =>
    rcases Option.map_eq_some_iff.mp stepped with ⟨reload, held, rfl⟩
    exact raise_sound sound held error (decides.1 reload held)
  | cancel =>
    rcases Option.bind_eq_some_iff.mp stepped with ⟨reload, held, cancelled⟩
    exact cancel_sound sound held (decides.1 reload held) cancelled

/--
No reload is lost in a run whose attempts fail for the latest request only and
whose requests never wait beside a decided state.
-/
theorem supervisorRuns_keepRequests (reached : supervisorMachine.Reaches DecidesLatest supervisor) :
    supervisor.KeepsRequests := by
  have sound : supervisor.Sound := by
    refine reached.invariant ?_ ?_
    · rintro _ ⟨revision, rfl⟩
      exact ⟨fun _ => rfl, by rintro _ ⟨⟩,
        ⟨fun _ => rfl, fun same => by cases same⟩,
        .inr (.inr (.inr (.inr ⟨rfl, by rintro _ ⟨⟩⟩)))⟩
    · intro earlier event target _ sound decides stepped
      exact step_sound sound decides stepped
  refine ⟨?_, sound.decided.active, sound.decided.failed⟩
  intro idle notified free
  rw [Busy, not_or, not_not, not_not] at free
  rcases sound.attended with failed | waiting | tries | waits | settled
  · exact .inr failed
  · exact absurd free.2 waiting
  · rcases tries with ⟨reload, held, _⟩
    rw [free.1] at held
    cases held
  · exact absurd ⟨idle, notified⟩ waits.2
  · exact .inl settled.1

/-- The factory of the first request is awaited when a turn starts. -/
def secondRequest : List SupervisorEvent :=
  [.requestReload "first", .setIdle false, .requestReload "second"]

/-- The first attempt fails, and the second request is forgotten. -/
theorem failing_attempt_loses_request : ∃ supervisor,
      supervisorMachine.run (.fresh "old") (secondRequest ++
            [.raise "bad config", .setIdle true, .notifyIdle]) =
          some supervisor ∧
        ¬ supervisor.KeepsRequests := by
  refine ⟨_, rfl, fun keeps => ?_⟩
  rcases keeps.settled rfl rfl (by decide) with active | failed
  · exact absurd active (by decide)
  · exact absurd failed (by decide)

/-- The first attempt is discarded, and the second request is applied. -/
theorem discarded_attempt_keeps_request : ∃ supervisor,
      supervisorMachine.run (.fresh "old") (secondRequest ++
            [.resume, .resume, .setIdle true, .notifyIdle, .resume, .resume,
              .resume, .resume, .resume]) = some supervisor ∧
        supervisor.runtime = "second" ∧ supervisor.KeepsRequests := by
  refine ⟨_, rfl, rfl, ?_⟩
  have evaluated :
      supervisorMachine.runGuarded DecidesLatest (.fresh "old") (secondRequest ++
            [.resume, .resume, .setIdle true, .notifyIdle, .resume, .resume,
              .resume, .resume, .resume]) = some _ := rfl
  exact supervisorRuns_keepRequests (.runGuarded (.start ⟨"old", rfl⟩) evaluated)

end RuntimeSupervisor
end TurningGood.Gateway
