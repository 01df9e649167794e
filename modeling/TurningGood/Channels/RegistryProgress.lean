import TurningGood.Channels.RegistryRuns

/-!
# No deadlock in the account directory

An operation takes the lock of the directory before that of its record, and
gives them back in the other order.  While it holds the directory it waits
for record locks only, and an operation that has a record lock alone waits for
nothing.
-/

namespace TurningGood.Channels

open TurningGood.Foundation

namespace RegistryOperation

variable {operation : RegistryOperation} {stage : RegistryStage}

/-- The locks that the operation has taken at a stage. -/
def Owns (operation : RegistryOperation) : RegistryStage → RegistryLock → Prop
  | .entering rest, lock => lock ∈ operation.locks ∧ lock ∉ rest
  | .leaving rest _, lock => lock ∈ rest
  | _, lock => lock ∈ operation.locks

/-- The lock for which the operation waits at a stage. -/
def wanted : RegistryStage → Option RegistryLock
  | .entering (lock :: _) => some lock
  | .listing _ _ (key :: _) => some (.record key)
  | _ => none

/-- Locks are taken in their order, and only under the directory accounts are listed. -/
def InOrder (operation : RegistryOperation) : RegistryStage → Prop
  | .entering rest => rest <:+ operation.locks
  | .listing _ _ _ => .directory ∈ operation.locks
  | _ => True

/-- The operation has all its locks. -/
def Inside (operation : RegistryOperation) (stage : RegistryStage) : Prop :=
  operation.InOrder stage ∧ ∀ lock ∈ operation.locks, operation.Owns stage lock

theorem leave_inside (outcome : Except String RegistryAnswer) :
    operation.Inside (operation.leave outcome) :=
  ⟨trivial, fun _ member => List.mem_reverse.mpr member⟩

theorem checkedUpdate_inside (under : .directory ∈ operation.locks)
    (files : Dict RecordKey RecordFile) (current : ChannelAccount)
    (written : Except String ChannelAccount) :
    operation.Inside (operation.checkedUpdate files current written) := by
  unfold checkedUpdate
  split
  · exact leave_inside _
  · split
    · exact ⟨under, fun _ member => member⟩
    · exact ⟨trivial, fun _ member => member⟩

theorem begin_inside (files : Dict RecordKey RecordFile) (now : Nat) :
    operation.Inside (operation.begin files now) := by
  unfold RegistryOperation.begin
  split
  next alone =>
    have under : .directory ∈ operation.locks := by
      cases operation <;> simp_all [key?, locks]
    split
    · exact ⟨under, fun _ member => member⟩
    · exact ⟨under, fun _ member => member⟩
  next =>
    split
    · exact leave_inside _
    · exact leave_inside _
    · unfold RegistryOperation.afterRead
      split
      · exact checkedUpdate_inside (by simp [locks]) _ _ _
      · exact checkedUpdate_inside (by simp [locks]) _ _ _
      · split
        · exact leave_inside _
        · exact checkedUpdate_inside (by simp [locks]) _ _ _
      all_goals repeat' split
      all_goals first
        | exact leave_inside _
        | exact ⟨trivial, fun _ member => member⟩

theorem afterListing_inside (ownerPrincipalId : String)
    (update : Option (ChannelAccount × ChannelAccount)) (seen : List ChannelAccount) :
    operation.Inside (operation.afterListing ownerPrincipalId update seen) := by
  unfold RegistryOperation.afterListing
  repeat' split
  all_goals first
    | exact leave_inside _
    | exact ⟨trivial, fun _ member => member⟩

/-- A record lock is the last that an operation takes. -/
theorem record_mem_suffix {rest : List RegistryLock} {lock : RegistryLock} {key : RecordKey}
    (suffix : lock :: rest <:+ operation.locks) (own : .record key ∈ operation.locks) :
    .record key ∈ lock :: rest := by
  cases operation <;> simp_all [locks, List.suffix_cons_iff]
  all_goals rcases suffix with ⟨-, rfl⟩ | ⟨rfl, -⟩ <;> simp

end RegistryOperation

namespace AccountDirectory

variable {owner : OwnerPrincipal} {state target : AccountDirectory} {number : Nat}
  {call : RegistryCall} {locks : Dict RegistryLock Nat}

/-- Every lock that is taken belongs to a call that will give it back. -/
structure LocksOwned (locks : Dict RegistryLock Nat) (active : Dict Nat RegistryCall) :
    Prop where
  owned : ∀ lock number, locks.get? lock = some number → ∃ call,
    active.get? number = some call ∧ call.operation.Owns call.stage lock
  ordered : ∀ number call, active.get? number = some call →
    call.operation.InOrder call.stage

/-- A call goes on, and only its own locks have changed. -/
theorem LocksOwned.goTo {operation : RegistryOperation} {stage : RegistryStage}
    (owned : LocksOwned state.locks state.active) (order : operation.InOrder stage)
    (others : ∀ lock holder, holder ≠ number → locks.get? lock = some holder →
      state.locks.get? lock = some holder)
    (own : ∀ lock, locks.get? lock = some number → operation.Owns stage lock) :
    LocksOwned locks (state.active.insert number ⟨operation, stage⟩) where
  owned := by
    intro lock holder held
    rw [Dict.get?_insert]
    split_ifs with same
    · subst same
      exact ⟨_, rfl, own lock held⟩
    · exact owned.owned lock holder (others lock holder same held)
  ordered := by
    intro other later present
    rw [Dict.get?_insert] at present
    split_ifs at present
    · cases present
      exact order
    · exact owned.ordered other later present

/-- A call that has all its locks goes on with all of them. -/
theorem LocksOwned.inside {stage : RegistryStage} (owned : LocksOwned state.locks state.active)
    (active : state.active.get? number = some call) (within : call.operation.Inside stage)
    (taken : ∀ lock, call.operation.Owns call.stage lock → lock ∈ call.operation.locks) :
    LocksOwned state.locks (state.active.insert number ⟨call.operation, stage⟩) := by
  refine owned.goTo within.1 (fun _ _ _ held => held) fun lock held => ?_
  rcases owned.owned lock number held with ⟨other, present, owns⟩
  cases Option.some.inj (active.symm.trans present)
  exact within.2 lock (taken lock owns)

theorem mem_locks_of_writes {operation : RegistryOperation} {stage : RegistryStage}
    {lock : RegistryLock} (writing : writes stage = true) (owns : operation.Owns stage lock) :
    lock ∈ operation.locks := by
  cases stage with
  | creating => exact owns
  | writing current updated answer => exact owns
  | unlinking current => exact owns
  | _ => cases writing

theorem write_leaves {id hex : String} {now : Nat}
    (stepped : state.write owner number call id hex now = some target) :
    writes call.stage = true ∧ ∃ answer, target.locks = state.locks ∧
      target.active = state.active.insert number
        ⟨call.operation, call.operation.leave (.ok answer)⟩ := by
  unfold write at stepped
  split at stepped
  next creating =>
    split at stepped
    next => cases stepped
    next =>
      split_ifs at stepped
      cases stepped
      exact ⟨by rw [creating]; rfl, _, rfl, rfl⟩
  next writing =>
    cases stepped
    exact ⟨by rw [writing]; rfl, _, rfl, rfl⟩
  next unlinking =>
    cases stepped
    exact ⟨by rw [unlinking]; rfl, _, rfl, rfl⟩
  next => cases stepped

theorem stepCall_owned {label : Label} (owned : LocksOwned state.locks state.active)
    (active : state.active.get? number = some call)
    (stepped : state.stepCall owner number call label = some target) :
    LocksOwned target.locks target.active := by
  have order := owned.ordered number call active
  have mine (lock : RegistryLock) (held : state.locks.get? lock = some number) :
      call.operation.Owns call.stage lock := by
    rcases owned.owned lock number held with ⟨other, present, owns⟩
    cases Option.some.inj (active.symm.trans present)
    exact owns
  unfold stepCall at stepped
  split at stepped
  next lock rest entering =>
    split at stepped
    next =>
      cases stepped
      rw [entering] at order mine
      have suffix : rest <:+ call.operation.locks := (List.suffix_cons lock rest).trans order
      have apart := (List.nodup_cons.mp (order.sublist.nodup call.operation.locks_nodup)).1
      refine owned.goTo suffix (fun other holder foreign held => ?_) fun other held => ?_
      · rw [Dict.get?_insert] at held
        split_ifs at held
        · exact absurd (Option.some.inj held).symm foreign
        · exact held
      · rw [Dict.get?_insert] at held
        split_ifs at held with same
        · subst same
          exact ⟨order.subset List.mem_cons_self, apart⟩
        · have owns := mine other held
          exact ⟨owns.1, fun member => owns.2 (List.mem_cons_of_mem lock member)⟩
    next => cases stepped
  next entering =>
    cases stepped
    refine owned.inside active (RegistryOperation.begin_inside _ _) fun lock owns => ?_
    rw [entering] at owns
    exact owns.1
  next listing =>
    split at stepped
    next =>
      cases stepped
      rw [listing] at order mine
      exact owned.goTo order (fun _ _ _ held => held) mine
    next => cases stepped
  next listing =>
    cases stepped
    refine owned.inside active (RegistryOperation.afterListing_inside _ _ _) fun lock owns => ?_
    rw [listing] at owns
    exact owns
  next =>
    rcases write_leaves stepped with ⟨writing, answer, sameLocks, later⟩
    rw [sameLocks, later]
    exact owned.inside active (RegistryOperation.leave_inside _) fun lock owns =>
      mem_locks_of_writes writing owns
  next =>
    split at stepped
    next writing =>
      cases stepped
      exact owned.inside active (RegistryOperation.leave_inside _) fun lock owns =>
        mem_locks_of_writes writing owns
    next => cases stepped
  next lock rest outcome leaving =>
    cases stepped
    rw [leaving] at mine
    refine owned.goTo trivial (fun other holder foreign held => ?_) fun other held => ?_
    · rw [Dict.get?_erase] at held
      split_ifs at held
      exact held
    · rw [Dict.get?_erase] at held
      split_ifs at held with same
      exact (List.mem_cons.mp (mine other held)).resolve_left same
  next outcome leaving =>
    cases stepped
    rw [leaving] at mine
    constructor
    · intro lock holder held
      rcases owned.owned lock holder held with ⟨other, present, owns⟩
      refine ⟨other, ?_, owns⟩
      simp only [ended, Dict.get?_erase]
      split_ifs with same
      · subst same
        exact absurd (mine lock held) List.not_mem_nil
      · exact present
    · intro other later present
      simp only [ended, Dict.get?_erase] at present
      split_ifs at present
      exact owned.ordered other later present
  next => cases stepped

theorem stepCall_of_step {label : Label} (own : label.call? = some number)
    (stepped : state.step owner label = some target) :
    ∃ call, state.active.get? number = some call ∧
      state.stepCall owner number call label = some target := by
  cases active : state.active.get? number with
  | none => cases label <;> cases own <;> simp [step, active] at stepped
  | some call =>
    refine ⟨call, rfl, ?_⟩
    cases label <;> cases own <;> simpa [step, active] using stepped

theorem step_owned {label : Label} (sound : state.DirectorySound)
    (owned : LocksOwned state.locks state.active)
    (stepped : state.step owner label = some target) :
    LocksOwned target.locks target.active := by
  cases own : label.call? with
  | some number =>
    rcases stepCall_of_step own stepped with ⟨call, active, stepped⟩
    exact stepCall_owned owned active stepped
  | none =>
    cases label with
    | call operation =>
      cases stepped
      have fresh (lock : RegistryLock) (holder : Nat)
          (held : state.locks.get? lock = some holder) : holder ≠ state.calls := by
        rcases owned.owned lock holder held with ⟨call, present, -⟩
        exact Nat.ne_of_lt (sound.numbered holder call present)
      refine owned.goTo ?_ (fun _ _ _ held => held) fun lock held => ?_
      · split
        · exact List.suffix_rfl
        · trivial
      · exact absurd rfl (fresh lock _ held)
    | _ => cases own

theorem reachable_owned (reached : (registryMachine owner).Reachable state) :
    LocksOwned state.locks state.active := by
  induction reached with
  | start initially =>
    rcases initially with ⟨files, -, rfl⟩
    constructor
    · intro lock number held
      cases held
    · intro number call present
      cases present
  | next earlier _ stepped owned =>
    exact step_owned (reachable_sound earlier) owned stepped

/-- A call that may take the lock it waits for can go on. -/
theorem step_of_mayTake (active : state.active.get? number = some call)
    (free : ∀ lock ∈ RegistryOperation.wanted call.stage, state.mayTake number lock = true) :
    ∃ label target, label.call? = some number ∧ state.step owner label = some target := by
  have goesOn {label : Label} {target : AccountDirectory} (own : label.call? = some number)
      (stepped : state.stepCall owner number call label = some target) :
      ∃ label target, label.call? = some number ∧ state.step owner label = some target := by
    refine ⟨label, target, own, ?_⟩
    cases label <;> cases own <;> simpa [step, active] using stepped
  rcases call with ⟨operation, stage⟩
  cases stage with
  | entering locks =>
    cases locks with
    | nil => exact @goesOn (.read number 0) _ rfl rfl
    | cons lock rest => exact @goesOn (.enter number) _ rfl (if_pos (free lock rfl))
  | listing update seen keys =>
    cases keys with
    | nil => exact @goesOn (.list number) _ rfl rfl
    | cons key rest => exact @goesOn (.list number) _ rfl (if_pos (free (.record key) rfl))
  | creating => exact @goesOn (.write number "" "" 0 (some "")) _ rfl rfl
  | writing current updated answer => exact @goesOn (.write number "" "" 0 (some "")) _ rfl rfl
  | unlinking current => exact @goesOn (.write number "" "" 0 (some "")) _ rfl rfl
  | leaving locks outcome =>
    cases locks with
    | nil => exact @goesOn (.leave number) _ rfl rfl
    | cons lock rest => exact @goesOn (.leave number) _ rfl rfl

end AccountDirectory

end TurningGood.Channels
