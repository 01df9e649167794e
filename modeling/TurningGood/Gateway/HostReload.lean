import Mathlib.Logic.Basic
import Mathlib.Tactic.ByContra
import Mathlib.Tactic.SplitIfs

/-!
# What an attempt to replace the runtime does to the host

`RuntimeSupervisor._reload` builds a candidate, prepares and starts it, hands
the proactive service to it, and commits.  An attempt that does not commit
closes its candidate, and the activation puts the previous proactive service
back.  The preparation, however, assigns the principal resolver of the host
before anything has been committed, and nothing assigns the old one again.

An attempt holds the replacement lock, and nobody else assigns what it
assigns.  It is therefore a function of the host and of what its awaits bring:
how each awaited call ends, and what the supervisor reads of its closing flag
and of the idle probe afterwards.  The status fields of the supervisor are not
part of the host.
-/

namespace TurningGood.Gateway

/-- How an awaited call ends. -/
inductive Awaited where
  | returned
  | raised
  | cancelled
  deriving DecidableEq, Repr

/-! ## The host -/

/-- `ProactiveService`, as far as the host depends on it. -/
structure HostService where
  runtime : Nat
  /-- `runtime.settings.proactive.enabled` -/
  enabled : Bool
  running : Bool
  acceptingWork : Bool
  toolsInstalled : Bool
  deriving DecidableEq, Repr

namespace HostService

/-- `_create_proactive_service`. -/
def create (runtime : Nat) (enabled : Bool) : HostService where
  runtime := runtime
  enabled := enabled
  running := false
  acceptingWork := false
  toolsInstalled := false

/-- `_install_proactive_tools`. -/
def installProactiveTools (service : HostService) : HostService :=
  if service.enabled then { service with toolsInstalled := true }
  else service

/-- `uninstall_tools`. -/
def uninstallTools (service : HostService) : HostService :=
  { service with toolsInstalled := false }

/-- `start`, which awaits nothing; reading the schedules may raise. -/
def start (service : HostService) (scheduled : Bool) : HostService :=
  if service.running ∨ service.enabled = false then service
  else { service with acceptingWork := true, running := scheduled }

/-- `drain_for_replacement` up to its awaits. -/
def drainForReplacement (service : HostService) : HostService :=
  { service with acceptingWork := false }

/-- `stop` up to its awaits. -/
def stop (service : HostService) : HostService :=
  { service with running := false, acceptingWork := false }

@[simp]
theorem runtime_installProactiveTools (service : HostService) :
    service.installProactiveTools.runtime = service.runtime := by
  unfold installProactiveTools
  split_ifs <;> rfl

@[simp]
theorem runtime_start (service : HostService) (scheduled : Bool) :
    (service.start scheduled).runtime = service.runtime := by
  unfold start
  split_ifs <;> rfl

/-- A service that works as its settings say. -/
structure Settled (service : HostService) : Prop where
  running : service.running = service.enabled
  acceptingWork : service.acceptingWork = service.enabled
  toolsInstalled : service.toolsInstalled = service.enabled

end HostService

/-- `GatewayPrincipalResolver`: the number of its object and its runtime. -/
structure PrincipalResolver where
  serial : Nat
  runtime : Nat
  deriving DecidableEq, Repr

/-- `_ProactiveBinding`: the runtime and the service that Web reads. -/
structure ProactiveBinding where
  runtime : Nat
  service : Nat
  deriving DecidableEq, Repr

/-- What `GatewayHost` holds of the current runtime. -/
structure GatewayHost where
  runtime : Nat
  principalResolver : PrincipalResolver
  service : HostService
  control : ProactiveBinding
  deriving DecidableEq, Repr

/-- How the awaits of `_activate_runtime` end, and what its calls raise. -/
structure ActivationAwaits where
  drain : Awaited
  stopPrevious : Awaited
  /-- the candidate could be created -/
  created : Bool
  enabled : Bool
  candidateScheduled : Bool
  publishAll : Awaited
  stopCandidate : Awaited
  previousScheduled : Bool
  deriving DecidableEq, Repr

/-- How the awaits of `_reload` end, and what is read after them. -/
structure ReloadAwaits where
  replacement : Nat
  factory : Awaited
  closingBuilt : Bool
  idleBuilt : Bool
  /-- the resolver could be made, and the channels registered -/
  resolverMade : Bool
  registered : Bool
  closingPrepared : Bool
  start : Awaited
  closingStarted : Bool
  idleStarted : Bool
  activation : ActivationAwaits
  closingActivated : Bool
  closePrevious : Awaited
  closeCandidate : Awaited
  /-- the second call, after the first one was cancelled -/
  closeAgain : Awaited
  deriving DecidableEq, Repr

/-- What an attempt leaves behind. -/
structure ReloadResult where
  host : GatewayHost
  candidate : Option Nat
  committed : Bool
  /-- the runtimes whose `close` returned -/
  closed : List Nat
  deriving DecidableEq, Repr

namespace GatewayHost

/-! ## The sections of an attempt -/

/-- `_install_principal_resolver`. -/
def installPrincipalResolver (host : GatewayHost) (runtime : Nat) :
    GatewayHost :=
  { host with
    principalResolver := ⟨host.principalResolver.serial + 1, runtime⟩ }

/-- `_prepare_runtime`; it raises where an object cannot be made. -/
def prepareRuntime (host : GatewayHost) (awaits : ReloadAwaits) :
    GatewayHost × Awaited :=
  if awaits.resolverMade = false then
    (host, .raised)
  else
    let installed := host.installPrincipalResolver awaits.replacement
    if awaits.registered then (installed, .returned)
    else (installed, .raised)

/-- The end of the `except` branch of `_activate_runtime`. -/
def restore (host : GatewayHost) (previous : HostService)
    (awaits : ActivationAwaits) : GatewayHost :=
  { host with
    service := previous.installProactiveTools.start awaits.previousScheduled
    control := ⟨previous.runtime, previous.runtime⟩ }

/-- The `except` branch for a candidate that exists; it raises in the end. -/
def undoActivation (host : GatewayHost) (previous : HostService)
    (awaits : ActivationAwaits) (ending : Awaited) :
    GatewayHost × Awaited :=
  match awaits.stopCandidate with
  | .returned => (host.restore previous awaits, ending)
  | interrupted => (host, interrupted)

/-- `_activate_runtime`. -/
def activateRuntime (host : GatewayHost) (replacement : Nat)
    (awaits : ActivationAwaits) : GatewayHost × Awaited :=
  let drained := host.service.drainForReplacement
  if awaits.drain ≠ .returned then
    ({ host with service := drained }, awaits.drain)
  else
    let previous := drained.uninstallTools.stop
    let stopped := { host with service := previous }
    if awaits.stopPrevious ≠ .returned then
      (stopped, awaits.stopPrevious)
    else if awaits.created = false then
      (stopped.restore previous awaits, .raised)
    else
      let candidate :=
        (HostService.create replacement awaits.enabled).installProactiveTools
      if awaits.candidateScheduled = false then
        stopped.undoActivation previous awaits .raised
      else
        let swapped :=
          { stopped with
            service := candidate.start true
            control := ⟨replacement, replacement⟩ }
        if awaits.publishAll ≠ .returned then
          { swapped with
            service := swapped.service.uninstallTools.stop }.undoActivation
              previous awaits awaits.publishAll
        else
          (swapped, .returned)

/-- `_close_failed_candidate` in an `except` branch of `_reload`. -/
def abandon (host : GatewayHost) (replacement : Nat) (close : Awaited) : ReloadResult where
  host := host
  candidate := some replacement
  committed := false
  closed := if close = .returned then [replacement] else []

/--
The candidate is discarded because the supervisor closes or the gateway is
not idle.  A cancellation of its `close` leads to the `except` branch.
-/
def discard (host : GatewayHost) (awaits : ReloadAwaits) : ReloadResult :=
  if awaits.closeCandidate = .cancelled then
    host.abandon awaits.replacement awaits.closeAgain
  else
    host.abandon awaits.replacement awaits.closeCandidate

/-- The commit, and the end of the previous runtime. -/
def commit (host : GatewayHost) (awaits : ReloadAwaits) : ReloadResult where
  host := { host with runtime := awaits.replacement }
  candidate := some awaits.replacement
  committed := true
  closed := if awaits.closePrevious = .returned then [host.runtime] else []

/-- `_reload` from `on_activate` on. -/
def reloadPrepared (host : GatewayHost) (awaits : ReloadAwaits) :
    ReloadResult :=
  let (activated, ending) :=
    host.activateRuntime awaits.replacement awaits.activation
  if ending ≠ .returned then
    activated.abandon awaits.replacement awaits.closeCandidate
  else if awaits.closingActivated then
    activated.discard awaits
  else
    activated.commit awaits

/-- `_reload` from `on_prepare` on. -/
def reloadBuilt (host : GatewayHost) (awaits : ReloadAwaits) :
    ReloadResult :=
  let (prepared, ending) := host.prepareRuntime awaits
  if ending ≠ .returned then
    prepared.abandon awaits.replacement awaits.closeCandidate
  else if awaits.closingPrepared then
    prepared.discard awaits
  else if awaits.start ≠ .returned then
    prepared.abandon awaits.replacement awaits.closeCandidate
  else if awaits.closingStarted then
    prepared.discard awaits
  else if awaits.idleStarted = false then
    prepared.discard awaits
  else
    prepared.reloadPrepared awaits

/-- `_reload` from the factory on. -/
def reload (host : GatewayHost) (awaits : ReloadAwaits) : ReloadResult :=
  if awaits.factory ≠ .returned then
    { host := host, candidate := none, committed := false, closed := [] }
  else if awaits.closingBuilt then
    host.discard awaits
  else if awaits.idleBuilt = false then
    host.discard awaits
  else
    host.reloadBuilt awaits

/-! ## The activation -/

theorem undoActivation_frame (host : GatewayHost) (previous : HostService)
    (awaits : ActivationAwaits) (ending : Awaited) :
    (host.undoActivation previous awaits ending).1.runtime = host.runtime ∧
      (host.undoActivation previous awaits ending).1.principalResolver =
        host.principalResolver := by
  unfold undoActivation
  cases awaits.stopCandidate with
  | returned => exact ⟨rfl, rfl⟩
  | raised => exact ⟨rfl, rfl⟩
  | cancelled => exact ⟨rfl, rfl⟩

theorem undoActivation_ending (host : GatewayHost) (previous : HostService)
    (awaits : ActivationAwaits) {ending : Awaited}
    (failed : ending ≠ .returned) :
    (host.undoActivation previous awaits ending).2 ≠ .returned := by
  unfold undoActivation
  cases awaits.stopCandidate with
  | returned => exact failed
  | raised => exact Awaited.noConfusion
  | cancelled => exact Awaited.noConfusion

theorem activateRuntime_frame (host : GatewayHost) (replacement : Nat) (awaits : ActivationAwaits) :
    (host.activateRuntime replacement awaits).1.runtime = host.runtime ∧
      (host.activateRuntime replacement awaits).1.principalResolver =
        host.principalResolver := by
  unfold activateRuntime
  dsimp only
  split_ifs
  · exact ⟨rfl, rfl⟩
  · exact ⟨rfl, rfl⟩
  · exact ⟨rfl, rfl⟩
  · exact undoActivation_frame _ _ _ _
  · exact undoActivation_frame _ _ _ _
  · exact ⟨rfl, rfl⟩

theorem prepareRuntime_frame (host : GatewayHost) (awaits : ReloadAwaits) :
    (host.prepareRuntime awaits).1.runtime = host.runtime ∧
      (host.prepareRuntime awaits).1.service = host.service := by
  unfold prepareRuntime
  dsimp only
  split_ifs
  · exact ⟨rfl, rfl⟩
  · exact ⟨rfl, rfl⟩
  · exact ⟨rfl, rfl⟩

theorem activateRuntime_returned_service
    {host : GatewayHost} {replacement : Nat} {awaits : ActivationAwaits}
    (succeeded : (host.activateRuntime replacement awaits).2 = .returned) :
    (host.activateRuntime replacement awaits).1.service.runtime =
      replacement := by
  have raised : Awaited.raised ≠ .returned := Awaited.noConfusion
  unfold activateRuntime at succeeded ⊢
  dsimp only at succeeded ⊢
  split_ifs at succeeded ⊢ with drain stop created scheduled publish
  · exact absurd succeeded drain
  · exact absurd succeeded stop
  · exact absurd succeeded (undoActivation_ending _ _ _ raised)
  · exact absurd succeeded (undoActivation_ending _ _ _ publish)
  · simp [HostService.create]

theorem activateRuntime_failed_service
    {host : GatewayHost} {replacement : Nat} {awaits : ActivationAwaits}
    (failed : (host.activateRuntime replacement awaits).2 ≠ .returned)
    (undone : awaits.publishAll ≠ .returned → awaits.stopCandidate = .returned) :
    (host.activateRuntime replacement awaits).1.service.runtime =
      host.service.runtime := by
  unfold activateRuntime at failed ⊢
  dsimp only at failed ⊢
  split_ifs at failed ⊢ with drain stop created scheduled publish
  · rfl
  · rfl
  · simp [restore, HostService.drainForReplacement, HostService.uninstallTools, HostService.stop]
  · unfold undoActivation
    cases awaits.stopCandidate with
    | returned =>
      simp [restore, HostService.drainForReplacement, HostService.uninstallTools, HostService.stop]
    | raised => rfl
    | cancelled => rfl
  · unfold undoActivation
    rw [undone publish]
    simp [restore, HostService.drainForReplacement, HostService.uninstallTools, HostService.stop]
  · exact absurd rfl failed

/-- A host whose proactive service works and is the one that Web reads. -/
structure Settled (host : GatewayHost) : Prop where
  service : host.service.Settled
  control : host.control = ⟨host.service.runtime, host.service.runtime⟩

end GatewayHost

/-! ## Attempts that do not commit -/

namespace ReloadAwaits

/-- The attempt gets as far as the new principal resolver. -/
def InstallsResolver (awaits : ReloadAwaits) : Prop :=
  awaits.factory = .returned ∧ awaits.closingBuilt = false ∧
    awaits.idleBuilt = true ∧ awaits.resolverMade = true

/-- Everything up to the commit goes well. -/
def Commits (awaits : ReloadAwaits) : Prop := awaits.InstallsResolver ∧ awaits.registered = true ∧
    awaits.closingPrepared = false ∧ awaits.start = .returned ∧
    awaits.closingStarted = false ∧ awaits.idleStarted = true ∧
    awaits.activation.drain = .returned ∧
    awaits.activation.stopPrevious = .returned ∧
    awaits.activation.created = true ∧
    awaits.activation.candidateScheduled = true ∧
    awaits.activation.publishAll = .returned ∧
    awaits.closingActivated = false

/--
The candidate of an attempt that ends before the resolver, if there is one,
is closed: its `close` returns, or is cancelled while the candidate is
discarded and returns when it is called again.
-/
def ClosesCandidate (awaits : ReloadAwaits) : Prop :=
  awaits.factory = .returned → awaits.closeCandidate = .returned ∨
      (awaits.closingBuilt = true ∨ awaits.idleBuilt = false) ∧
        awaits.closeCandidate = .cancelled ∧ awaits.closeAgain = .returned

instance (awaits : ReloadAwaits) : Decidable awaits.InstallsResolver :=
  inferInstanceAs (Decidable (_ ∧ _ ∧ _ ∧ _))

instance (awaits : ReloadAwaits) : Decidable awaits.Commits := inferInstanceAs (Decidable
      (InstallsResolver awaits ∧ _ ∧ _ ∧ _ ∧ _ ∧ _ ∧ _ ∧ _ ∧ _ ∧ _ ∧ _ ∧ _))

end ReloadAwaits

/--
An attempt that does not commit leaves the runtime, the principal resolver,
the proactive service with its tools, and the binding of Web as they were, and
has closed its candidate.
-/
def ReloadResult.LeavesHost (result : ReloadResult) (host : GatewayHost) : Prop :=
  result.committed = false → result.host = host ∧ result.closed = result.candidate.toList

namespace GatewayHost

variable {host : GatewayHost} {awaits : ReloadAwaits}

@[simp]
theorem abandon_leavesHost_iff
    {other : GatewayHost} {replacement : Nat} {close : Awaited} :
    (other.abandon replacement close).LeavesHost host ↔
      other = host ∧ close = .returned := by
  unfold ReloadResult.LeavesHost abandon
  cases close with
  | returned => simp
  | raised => simp
  | cancelled => simp

theorem discard_host (host : GatewayHost) (awaits : ReloadAwaits) :
    (host.discard awaits).host = host ∧ (host.discard awaits).committed = false := by
  unfold discard
  split_ifs
  · exact ⟨rfl, rfl⟩
  · exact ⟨rfl, rfl⟩

theorem reloadPrepared_resolver (host : GatewayHost) (awaits : ReloadAwaits) :
    (host.reloadPrepared awaits).host.principalResolver =
      host.principalResolver := by
  have frame := (host.activateRuntime_frame awaits.replacement
    awaits.activation).2
  unfold reloadPrepared
  dsimp only
  split_ifs
  · exact frame
  · rw [(discard_host _ awaits).1]
    exact frame
  · exact frame

theorem reloadBuilt_resolver (host : GatewayHost) {awaits : ReloadAwaits}
    (made : awaits.resolverMade = true) :
    (host.reloadBuilt awaits).host.principalResolver =
      ⟨host.principalResolver.serial + 1, awaits.replacement⟩ := by
  have prepared : (host.prepareRuntime awaits).1 =
      host.installPrincipalResolver awaits.replacement := by
    unfold prepareRuntime
    rw [if_neg (by rw [made]; exact Bool.noConfusion)]
    dsimp only
    split_ifs <;> rfl
  have resolver : (host.prepareRuntime awaits).1.principalResolver =
      ⟨host.principalResolver.serial + 1, awaits.replacement⟩ := by
    rw [prepared]
    rfl
  unfold reloadBuilt
  dsimp only
  split_ifs
  · exact resolver
  · rw [(discard_host _ awaits).1]
    exact resolver
  · exact resolver
  · rw [(discard_host _ awaits).1]
    exact resolver
  · rw [(discard_host _ awaits).1]
    exact resolver
  · rw [reloadPrepared_resolver]
    exact resolver

theorem activateRuntime_returned_iff
    (host : GatewayHost) (replacement : Nat) (awaits : ActivationAwaits) :
    (host.activateRuntime replacement awaits).2 = .returned ↔
      awaits.drain = .returned ∧ awaits.stopPrevious = .returned ∧
        awaits.created = true ∧ awaits.candidateScheduled = true ∧
          awaits.publishAll = .returned := by
  unfold activateRuntime
  dsimp only
  split_ifs with drain stop created scheduled publish
  · simp [drain]
  · simp [stop]
  · simp [created]
  · have failed : Awaited.raised ≠ .returned := Awaited.noConfusion
    have raised := undoActivation_ending
      { host with
        service := host.service.drainForReplacement.uninstallTools.stop }
      host.service.drainForReplacement.uninstallTools.stop awaits failed
    simp [raised, scheduled]
  · have interrupted := undoActivation_ending
      { host with
        service := ((HostService.create replacement
            awaits.enabled).installProactiveTools.start true).uninstallTools.stop
        control := ⟨replacement, replacement⟩ }
      host.service.drainForReplacement.uninstallTools.stop awaits publish
    simp [interrupted, publish]
  · simp_all

theorem prepareRuntime_returned_iff (host : GatewayHost) (awaits : ReloadAwaits) :
    (host.prepareRuntime awaits).2 = .returned ↔
      awaits.resolverMade = true ∧ awaits.registered = true := by
  unfold prepareRuntime
  dsimp only
  split_ifs with missing registered
  · simp [missing]
  · simp [missing, registered]
  · simp [registered]

theorem reloadPrepared_committed_iff (host : GatewayHost) (awaits : ReloadAwaits) :
    (host.reloadPrepared awaits).committed = true ↔
      (host.activateRuntime awaits.replacement awaits.activation).2 = .returned ∧
        awaits.closingActivated = false := by
  unfold reloadPrepared
  dsimp only
  split_ifs with failed closing
  · simp [abandon, failed]
  · simp [(discard_host _ awaits).2, closing]
  · simp [commit, not_not.mp failed, closing]

theorem reloadBuilt_committed_iff (host : GatewayHost) (awaits : ReloadAwaits) :
    (host.reloadBuilt awaits).committed = true ↔
      awaits.resolverMade = true ∧ awaits.registered = true ∧
        awaits.closingPrepared = false ∧ awaits.start = .returned ∧
        awaits.closingStarted = false ∧ awaits.idleStarted = true ∧
        awaits.activation.drain = .returned ∧
        awaits.activation.stopPrevious = .returned ∧
        awaits.activation.created = true ∧
        awaits.activation.candidateScheduled = true ∧
        awaits.activation.publishAll = .returned ∧
        awaits.closingActivated = false := by
  unfold reloadBuilt
  dsimp only
  have prepared := prepareRuntime_returned_iff host awaits
  split_ifs with failed closingPrepared start closingStarted idleStarted
  · rw [ne_eq, prepared] at failed
    simp only [abandon, Bool.false_eq_true, false_iff]
    exact fun all => failed ⟨all.1, all.2.1⟩
  · simp [(discard_host _ awaits).2, closingPrepared]
  · simp [abandon, start]
  · simp [(discard_host _ awaits).2, closingStarted]
  · simp [(discard_host _ awaits).2, idleStarted]
  · rw [not_not, prepared] at failed
    rw [reloadPrepared_committed_iff, activateRuntime_returned_iff]
    simp_all [and_assoc]

theorem reload_leavesHost_of_noResolver (early : ¬ awaits.InstallsResolver) :
    (host.reload awaits).LeavesHost host ↔ awaits.ClosesCandidate := by
  have discarded (why : awaits.closingBuilt = true ∨
      awaits.idleBuilt = false) (factory : awaits.factory = .returned) :
      (host.discard awaits).LeavesHost host ↔ awaits.ClosesCandidate := by
    unfold discard ReloadAwaits.ClosesCandidate
    split_ifs with cancelled
    · rw [abandon_leavesHost_iff]
      simp [factory, cancelled, why]
    · rw [abandon_leavesHost_iff]
      simp [factory, cancelled]
  unfold reload
  split_ifs with factory closing idle
  · constructor
    · exact fun _ returned => absurd returned factory
    · exact fun _ _ => ⟨rfl, rfl⟩
  · exact discarded (Or.inl closing) (not_not.mp factory)
  · exact discarded (Or.inr idle) (not_not.mp factory)
  · have missing : awaits.resolverMade = false := by
      by_contra made
      apply early
      refine ⟨not_not.mp factory, ?_, ?_, ?_⟩
      · exact Bool.eq_false_iff.mpr closing
      · exact (Bool.not_eq_false _).mp idle
      · exact (Bool.not_eq_false _).mp made
    have failed : Awaited.raised ≠ .returned := Awaited.noConfusion
    unfold reloadBuilt prepareRuntime ReloadAwaits.ClosesCandidate
    rw [if_pos missing]
    dsimp only
    rw [if_pos failed, abandon_leavesHost_iff]
    simp [not_not.mp factory, closing, idle]

/--
An attempt leaves the host as it was unless it commits, if and only if it
commits, or ends before the new principal resolver is assigned and closes the
candidate that it has.
-/
theorem reload_leavesHost_iff (host : GatewayHost) (awaits : ReloadAwaits) :
    (host.reload awaits).LeavesHost host ↔ awaits.Commits ∨
        (¬ awaits.InstallsResolver ∧ awaits.ClosesCandidate) := by
  by_cases installs : awaits.InstallsResolver
  · rcases installs with ⟨factory, closing, idle, made⟩
    have built : host.reload awaits = host.reloadBuilt awaits := by
      unfold reload
      rw [if_neg (not_not.mpr factory), if_neg (by simp [closing]),
        if_neg (by simp [idle])]
    have commits :
        (host.reloadBuilt awaits).committed = true ↔ awaits.Commits := by
      rw [reloadBuilt_committed_iff]
      unfold ReloadAwaits.Commits ReloadAwaits.InstallsResolver
      simp [factory, closing, idle]
    rw [built, ← commits]
    constructor
    · intro leaves
      by_contra neither
      rw [not_or] at neither
      have kept := (leaves (Bool.eq_false_iff.mpr neither.1)).1
      have resolver := reloadBuilt_resolver host made
      rw [kept] at resolver
      have serial := congrArg PrincipalResolver.serial resolver
      exact absurd serial (Nat.ne_of_lt (Nat.lt_succ_self _))
    · rintro (committed | early)
      · intro uncommitted
        rw [committed] at uncommitted
        contradiction
      · exact absurd ⟨factory, closing, idle, made⟩ early.1
  · rw [reload_leavesHost_of_noResolver installs]
    constructor
    · exact fun closes => Or.inr ⟨installs, closes⟩
    · rintro (commits | early)
      · exact absurd commits.1 installs
      · exact early.2

/-- The host of a gateway that has been started. -/
def startedHost : GatewayHost where
  runtime := 0
  principalResolver := ⟨0, 0⟩
  service :=
    { runtime := 0
      enabled := true
      running := true
      acceptingWork := true
      toolsInstalled := true }
  control := ⟨0, 0⟩

/-- `start` of the candidate raises, and its `close` returns. -/
def failedStart : ReloadAwaits where
  replacement := 1
  factory := .returned
  closingBuilt := false
  idleBuilt := true
  resolverMade := true
  registered := true
  closingPrepared := false
  start := .raised
  closingStarted := false
  idleStarted := true
  activation :=
    { drain := .returned
      stopPrevious := .returned
      created := true
      enabled := true
      candidateScheduled := true
      publishAll := .returned
      stopCandidate := .returned
      previousScheduled := true }
  closingActivated := false
  closePrevious := .returned
  closeCandidate := .returned
  closeAgain := .returned

/--
The host keeps its runtime but resolves principals through the runtime that
was closed.
-/
theorem failed_start_keeps_new_resolver : (startedHost.reload failedStart).committed = false ∧
      (startedHost.reload failedStart).host.runtime = 0 ∧
      (startedHost.reload failedStart).closed = [1] ∧
      (startedHost.reload failedStart).host.principalResolver.runtime = 1 ∧
      ¬ (startedHost.reload failedStart).LeavesHost startedHost := by
  refine ⟨rfl, rfl, rfl, rfl, ?_⟩
  intro leaves
  exact absurd (leaves rfl).1 (by decide)

end GatewayHost
end TurningGood.Gateway
