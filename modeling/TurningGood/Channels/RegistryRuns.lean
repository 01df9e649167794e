import TurningGood.Channels.RegistryStages

/-!
# Runs of the operations on the account directory

From a valid directory, and in any interleaving of the operations, the
directory stays valid, a record changes along the table of transitions only,
and an operation that raises has changed nothing.
-/

namespace TurningGood.Channels

open TurningGood.Foundation

namespace AccountDirectory

variable {number : Nat} {operation : RegistryOperation} {stage : RegistryStage}
  {files : Dict RecordKey RecordFile} {state target : AccountDirectory}
  {call : RegistryCall} {owner : OwnerPrincipal}

/-- The call holds all locks of its operation. -/
def HoldsAll (locks : Dict RegistryLock Nat) (number : Nat)
    (operation : RegistryOperation) : Prop :=
  ∀ lock ∈ operation.locks, locks.get? lock = some number

/-- The locks that a call holds at a stage. -/
def LocksSound (locks : Dict RegistryLock Nat) (number : Nat)
    (operation : RegistryOperation) : RegistryStage → Prop
  | .entering rest =>
    ∀ lock ∈ operation.locks, lock ∈ rest ∨ locks.get? lock = some number
  | .leaving rest _ =>
    rest.Nodup ∧ ∀ lock ∈ rest, locks.get? lock = some number
  | .listing _ _ _ | .creating | .writing _ _ _ | .unlinking _ =>
    HoldsAll locks number operation

theorem HoldsAll.leave {locks : Dict RegistryLock Nat} (holds : HoldsAll locks number operation)
    (outcome : Except String RegistryAnswer) :
    LocksSound locks number operation (operation.leave outcome) := by
  constructor
  · rw [List.nodup_reverse]
    exact operation.locks_nodup
  · intro lock member
    exact holds lock (List.mem_reverse.mp member)

theorem LocksSound.frame {locks later : Dict RegistryLock Nat}
    (sound : LocksSound locks number operation stage) (kept :
      ∀ lock, locks.get? lock = some number → later.get? lock = some number) :
    LocksSound later number operation stage := by
  cases stage with
  | entering rest =>
    intro lock member
    rcases sound lock member with ahead | held
    · exact .inl ahead
    · exact .inr (kept lock held)
  | leaving rest outcome =>
    exact ⟨sound.1, fun lock member => kept lock (sound.2 lock member)⟩
  | listing update seen rest =>
    exact fun lock member => kept lock (sound lock member)
  | creating => exact fun lock member => kept lock (sound lock member)
  | writing current updated answer =>
    exact fun lock member => kept lock (sound lock member)
  | unlinking current =>
    exact fun lock member => kept lock (sound lock member)

/-- The directory is valid, and every call knows what its stage needs. -/
structure DirectorySound (state : AccountDirectory) : Prop where
  valid : ValidDirectory state.files
  numbered : ∀ number call, state.active.get? number = some call → number < state.calls
  locks : ∀ number call, state.active.get? number = some call →
      LocksSound state.locks number call.operation call.stage
  known : ∀ number call, state.active.get? number = some call →
      StageSound state.files call.operation call.stage
  /-- a call that has changed a record can only return -/
  changed : ∀ number ∈ state.changed, number < state.calls ∧ number ∉ state.raised ∧
        ∀ call, state.active.get? number = some call →
          ∃ rest answer, call.stage = .leaving rest (.ok answer)
  raised : ∀ number ∈ state.raised, number < state.calls ∧ state.active.get? number = none

theorem filesChange_refl (operation : RegistryOperation) (valid : ValidDirectory files) :
    FilesChange operation files files where
  valid := valid
  edits := by
    intro key current updated stored storedAgain
    left
    unfold StoredAccount at stored storedAgain
    rw [stored] at storedAgain
    cases storedAgain
    rfl
  own := by
    intro key account stored gone
    exact absurd stored gone
  noNewMarks := by
    intro _ key account stored
    exact ⟨account, stored, fun mark marked => marked⟩

theorem stageSound_survives {other : Nat} (known : StageSound state.files call.operation call.stage)
    (locks : LocksSound state.locks other call.operation call.stage)
    (different : other ≠ number)
    (change : FilesChange operation state.files files) (exclusive :
      files = state.files ∨ HoldsAll state.locks number operation) :
    StageSound files call.operation call.stage := by
  rcases exclusive with rfl | exclusive
  · exact known
  · have apart {lock : RegistryLock}
        (holds : HoldsAll state.locks other call.operation)
        (member : lock ∈ call.operation.locks) :
        lock ∉ operation.locks := by
      intro taken
      have held := holds lock member
      rw [exclusive lock taken, Option.some.injEq] at held
      exact different held.symm
    have framed
        (holds : HoldsAll state.locks other call.operation) :
        StageSound files call.operation call.stage := by
      apply known.frame
      · intro key account own stored
        by_contra gone
        have foreign := change.own key account stored gone
        exact apart holds (RegistryOperation.record_mem_locks own)
            (RegistryOperation.record_mem_locks foreign)
      · intro directory
        exact change.noNewMarks (apart holds directory)
    cases stage : call.stage with
    | entering rest =>
      rw [stage] at known
      exact known
    | leaving rest outcome => exact trivial
    | listing update seen rest =>
      rw [stage] at locks
      exact stage ▸ framed locks
    | creating =>
      rw [stage] at locks
      exact stage ▸ framed locks
    | writing current updated answer =>
      rw [stage] at locks
      exact stage ▸ framed locks
    | unlinking current =>
      rw [stage] at locks
      exact stage ▸ framed locks

theorem DirectorySound.advance {locks : Dict RegistryLock Nat}
    {changed : List Nat} (sound : state.DirectorySound)
    (active : state.active.get? number = some call)
    (change : FilesChange call.operation state.files files) (exclusive :
      files = state.files ∨ HoldsAll state.locks number call.operation)
    (others : ∀ other lock, other ≠ number → state.locks.get? lock = some other →
        locks.get? lock = some other)
    (ownLocks : LocksSound locks number call.operation stage)
    (known : StageSound files call.operation stage) (changes :
      ∀ other ∈ changed, other = number ∨ other ∈ state.changed) (returns :
      number ∈ changed → ∃ rest answer, stage = .leaving rest (.ok answer)) :
    DirectorySound
      { state.goTo number call.operation stage with
        files := files
        locks := locks
        changed := changed } := by
  have cases {other : Nat} {later : RegistryCall}
      (present : (state.active.insert number
          { operation := call.operation, stage := stage }).get? other =
            some later) :
      (other = number ∧
          later = { operation := call.operation, stage := stage }) ∨
        (other ≠ number ∧ state.active.get? other = some later) := by
    rw [Dict.get?_insert] at present
    split at present
    · next same =>
        cases present
        exact .inl ⟨same, rfl⟩
    · next different => exact .inr ⟨different, present⟩
  have unraised : number ∉ state.raised := by
    intro raised
    rw [(sound.raised number raised).2] at active
    cases active
  constructor
  · exact change.valid
  · intro other later present
    rcases cases present with ⟨rfl, -⟩ | ⟨-, present⟩
    · exact sound.numbered _ _ active
    · exact sound.numbered _ _ present
  · intro other later present
    rcases cases present with ⟨rfl, rfl⟩ | ⟨different, present⟩
    · exact ownLocks
    · exact (sound.locks _ _ present).frame fun lock held =>
          others other lock different held
  · intro other later present
    rcases cases present with ⟨rfl, rfl⟩ | ⟨different, present⟩
    · exact known
    · exact stageSound_survives (sound.known _ _ present)
          (sound.locks _ _ present) different change exclusive
  · intro other member
    rcases changes other member with rfl | earlier
    · refine ⟨sound.numbered _ _ active, unraised, ?_⟩
      intro later present
      rcases cases present with ⟨-, rfl⟩ | ⟨different, -⟩
      · exact returns member
      · exact absurd rfl different
    · refine ⟨(sound.changed other earlier).1, (sound.changed other earlier).2.1, ?_⟩
      intro later present
      rcases cases present with ⟨rfl, rfl⟩ | ⟨-, present⟩
      · exact returns member
      · exact (sound.changed other earlier).2.2 later present
  · intro other member
    refine ⟨(sound.raised other member).1, ?_⟩
    have different : other ≠ number := by
      rintro rfl
      exact unraised member
    exact (Dict.get?_insert_of_ne _ _ different).trans (sound.raised other member).2

/-! ## Steps -/

theorem DirectorySound.goTo (sound : state.DirectorySound)
    (active : state.active.get? number = some call)
    (working : number ∉ state.changed)
    (ownLocks : LocksSound state.locks number call.operation stage)
    (known : StageSound state.files call.operation stage) :
    (state.goTo number call.operation stage).DirectorySound := by
  have advanced :=
    sound.advance active (filesChange_refl call.operation sound.valid)
      (.inl rfl) (fun _ _ _ held => held) ownLocks known
      (fun _ member => .inr member)
      (fun member => absurd member working)
  exact advanced

theorem DirectorySound.working (sound : state.DirectorySound)
    (active : state.active.get? number = some call)
    (inside : ∀ rest outcome, call.stage ≠ .leaving rest outcome) :
    number ∉ state.changed := by
  intro changed
  rcases (sound.changed number changed).2.2 call active with ⟨rest, answer, leaving⟩
  exact inside rest (.ok answer) leaving

theorem HoldsAll.checkedUpdate {locks : Dict RegistryLock Nat}
    (holds : HoldsAll locks number operation)
    (files : Dict RecordKey RecordFile) (current : ChannelAccount)
    (written : Except String ChannelAccount) :
    LocksSound locks number operation (operation.checkedUpdate files current written) := by
  unfold RegistryOperation.checkedUpdate
  split
  · exact holds.leave _
  · split
    · exact holds
    · exact holds

theorem HoldsAll.begin {locks : Dict RegistryLock Nat} (holds : HoldsAll locks number operation)
    (files : Dict RecordKey RecordFile) (now : Nat) :
    LocksSound locks number operation (operation.begin files now) := by
  unfold RegistryOperation.begin
  split
  · split
    · exact holds
    · exact holds
  · split
    · exact holds.leave _
    · exact holds.leave _
    · unfold RegistryOperation.afterRead
      split
      · exact holds.checkedUpdate _ _ _
      · exact holds.checkedUpdate _ _ _
      · split
        · exact holds.leave _
        · exact holds.checkedUpdate _ _ _
      · split
        · exact holds.leave _
        · exact holds
      · split
        · exact holds.leave _
        · split
          · exact holds.leave _
          · exact holds
      · split
        · exact holds.leave _
        · exact holds.leave _
        · exact holds
      · exact holds
      · exact holds
      · exact holds

theorem HoldsAll.afterListing {locks : Dict RegistryLock Nat}
    (holds : HoldsAll locks number operation) (ownerPrincipalId : String)
    (update : Option (ChannelAccount × ChannelAccount))
    (seen : List ChannelAccount) :
    LocksSound locks number operation (operation.afterListing ownerPrincipalId update seen) := by
  unfold RegistryOperation.afterListing
  split
  · split
    · exact holds.leave _
    · exact holds
  · split
    · exact holds.leave _
    · exact holds
  · split
    · exact holds.leave _
    · exact holds
  · exact holds

theorem DirectorySound.written (sound : state.DirectorySound)
    (active : state.active.get? number = some call)
    (holds : HoldsAll state.locks number call.operation)
    (change : FilesChange call.operation state.files files)
    (answer : RegistryAnswer) :
    (state.written number call.operation files answer).DirectorySound := by
  have advanced :=
    sound.advance active change (.inr holds) (fun _ _ _ held => held)
      (holds.leave (.ok answer)) trivial
      (fun _ member => List.mem_cons.mp member)
      (fun _ => ⟨_, answer, rfl⟩)
  exact advanced

theorem write_change {id hex : String} {now : Nat} (valid : ValidDirectory state.files)
    (known : StageSound state.files call.operation call.stage)
    (stepped : state.write owner number call id hex now = some target) :
    ∃ files answer, target = state.written number call.operation files answer ∧
        writes call.stage = true ∧
        FilesChange call.operation state.files files := by
  unfold write at stepped
  cases stage : call.stage with
  | creating =>
    rw [stage] at stepped known
    dsimp only at stepped
    split at stepped
    · cases stepped
    · next account created =>
        split at stepped
        · next fresh =>
            cases stepped
            exact ⟨_, _, rfl, rfl, creating_change owner valid known created fresh⟩
        · cases stepped
  | writing current updated answer =>
    rw [stage] at stepped known
    cases stepped
    exact ⟨_, _, rfl, rfl, writing_change valid known⟩
  | unlinking current =>
    rw [stage] at stepped known
    cases stepped
    exact ⟨_, _, rfl, rfl, unlinking_change valid known⟩
  | entering rest =>
    rw [stage] at stepped
    cases stepped
  | listing update seen rest =>
    rw [stage] at stepped
    cases stepped
  | leaving rest outcome =>
    rw [stage] at stepped
    cases stepped

theorem LocksSound.holdsAll_of_writes {locks : Dict RegistryLock Nat}
    (sound : LocksSound locks number operation stage)
    (about : writes stage = true) : HoldsAll locks number operation := by
  cases stage with
  | entering rest => cases about
  | listing update seen rest => cases about
  | leaving rest outcome => cases about
  | creating => exact sound
  | writing current updated answer => exact sound
  | unlinking current => exact sound

theorem DirectorySound.ended {outcome : Except String RegistryAnswer} (sound : state.DirectorySound)
    (active : state.active.get? number = some call)
    (leaving : call.stage = .leaving [] outcome) :
    (state.ended number outcome).DirectorySound := by
  have present {other : Nat} {later : RegistryCall}
      (present : (state.active.erase number).get? other = some later) :
      state.active.get? other = some later := by
    rw [Dict.get?_erase] at present
    split at present
    · cases present
    · exact present
  constructor
  · exact sound.valid
  · intro other later active
    exact sound.numbered _ _ (present active)
  · intro other later active
    exact sound.locks _ _ (present active)
  · intro other later active
    exact sound.known _ _ (present active)
  · intro other member
    rcases sound.changed other member with ⟨numbered, unraised, returns⟩
    refine ⟨numbered, ?_, fun later active => returns later (present active)⟩
    cases outcome with
    | ok answer => exact unraised
    | error message =>
      intro raised
      rcases List.mem_cons.mp raised with rfl | raised
      · rcases returns call active with ⟨rest, answer, returning⟩
        rw [leaving] at returning
        cases returning
      · exact unraised raised
  · intro other member
    by_cases same : other = number
    · subst same
      exact ⟨sound.numbered _ _ active, Dict.get?_erase_self _ _⟩
    · have earlier : other ∈ state.raised := by
        cases outcome with
        | ok answer => exact member
        | error message =>
          rcases List.mem_cons.mp member with equal | earlier
          · exact absurd equal same
          · exact earlier
      refine ⟨(sound.raised other earlier).1, ?_⟩
      exact (Dict.get?_erase_of_ne _ same).trans (sound.raised other earlier).2

/-- What a step of a call does to the files. -/
def StepChange (state target : AccountDirectory) (number : Nat)
    (operation : RegistryOperation) : Prop :=
  target.files = state.files ∨ (number ∈ target.changed ∧
      FilesChange operation state.files target.files)

theorem DirectorySound.entered {lock : RegistryLock}
    {rest : List RegistryLock} (sound : state.DirectorySound)
    (active : state.active.get? number = some call)
    (entering : call.stage = .entering (lock :: rest))
    (free : state.mayTake number lock = true) :
    DirectorySound
      { state.goTo number call.operation (.entering rest) with
        locks := state.locks.insert lock number } := by
  have working := sound.working active (by simp [entering])
  have ownLocks := sound.locks _ _ active
  have known := sound.known _ _ active
  rw [entering] at ownLocks known
  refine sound.advance active (filesChange_refl call.operation sound.valid)
      (.inl rfl) ?_ ?_ known (fun _ member => .inr member)
      (fun member => absurd member working)
  · intro other held different present
    rw [Dict.get?_insert]
    split
    · next same =>
        subst same
        unfold mayTake at free
        rw [present, Option.all_some, decide_eq_true_iff] at free
        exact absurd free different
    · exact present
  · intro wanted member
    rw [Dict.get?_insert]
    split
    · exact .inr rfl
    · next other =>
        rcases ownLocks wanted member with ahead | held
        · rcases List.mem_cons.mp ahead with same | later
          · exact absurd same other
          · exact .inl later
        · exact .inr held

theorem DirectorySound.gaveBack {lock : RegistryLock}
    {rest : List RegistryLock} {outcome : Except String RegistryAnswer}
    (sound : state.DirectorySound)
    (active : state.active.get? number = some call)
    (leaving : call.stage = .leaving (lock :: rest) outcome) :
    DirectorySound
      { state.goTo number call.operation (.leaving rest outcome) with
        locks := state.locks.erase lock } := by
  have ownLocks := sound.locks _ _ active
  rw [leaving] at ownLocks
  rcases ownLocks with ⟨nodup, held⟩
  rw [List.nodup_cons] at nodup
  refine sound.advance active (filesChange_refl call.operation sound.valid)
      (.inl rfl) ?_ ?_ trivial (fun _ member => .inr member) ?_
  · intro other wanted different present
    rw [Dict.get?_erase]
    split
    · next same =>
        subst same
        rw [held _ List.mem_cons_self, Option.some.injEq] at present
        exact absurd present.symm different
    · exact present
  · refine ⟨nodup.2, ?_⟩
    intro wanted member
    rw [Dict.get?_erase_of_ne]
    · exact held wanted (List.mem_cons_of_mem _ member)
    · rintro rfl
      exact nodup.1 member
  · intro member
    rcases (sound.changed number member).2.2 call active with ⟨_, answer, returning⟩
    rw [leaving] at returning
    cases returning
    exact ⟨rest, answer, rfl⟩

theorem stepCall_sound {label : Label} (sound : state.DirectorySound)
    (active : state.active.get? number = some call)
    (stepped : state.stepCall owner number call label = some target) :
    target.DirectorySound ∧
      StepChange state target number call.operation := by
  have ownLocks := sound.locks _ _ active
  have known := sound.known _ _ active
  unfold stepCall at stepped
  split at stepped
  · next lock rest entering =>
      split at stepped
      · next free =>
          cases stepped
          exact ⟨sound.entered active entering free, .inl rfl⟩
      · cases stepped
  · next now entering =>
      cases stepped
      have working := sound.working active (by simp [entering])
      rw [entering] at ownLocks known
      have holds : HoldsAll state.locks number call.operation := by
        intro lock member
        rcases ownLocks lock member with ahead | held
        · cases ahead
        · exact held
      exact ⟨sound.goTo active working (holds.begin _ _)
          (begin_sound sound.valid known now), .inl rfl⟩
  · next update seen key rest listing =>
      split at stepped
      · cases stepped
        have working := sound.working active (by simp [listing])
        rw [listing] at ownLocks known
        rcases known with ⟨checked, directory, listed, about⟩
        exact ⟨sound.goTo active working ownLocks
            ⟨checked, directory, listed.next sound.valid, about⟩,
            .inl rfl⟩
      · cases stepped
  · next update seen listing =>
      cases stepped
      have working := sound.working active (by simp [listing])
      rw [listing] at ownLocks known
      exact ⟨sound.goTo active working (HoldsAll.afterListing ownLocks _ _ _)
          (afterListing_sound owner.id sound.valid known), .inl rfl⟩
  · rcases write_change sound.valid known stepped with ⟨files, answer, rfl, about, change⟩
    exact ⟨sound.written active (ownLocks.holdsAll_of_writes about) change
        answer, .inr ⟨List.mem_cons_self, change⟩⟩
  · split at stepped
    · next about =>
        cases stepped
        have working :=
          sound.working active fun rest outcome leaving => by
            rw [leaving] at about
            cases about
        exact ⟨sound.goTo active working ((ownLocks.holdsAll_of_writes about).leave _) trivial,
            .inl rfl⟩
    · cases stepped
  · next lock rest outcome leaving =>
      cases stepped
      exact ⟨sound.gaveBack active leaving, .inl rfl⟩
  · next outcome leaving =>
      cases stepped
      exact ⟨sound.ended active leaving, .inl rfl⟩
  · cases stepped

theorem DirectorySound.called (sound : state.DirectorySound) (operation : RegistryOperation) :
    DirectorySound
      { state.goTo state.calls operation
          (match operation.check with
          | .ok () => .entering operation.locks
          | .error message => .leaving [] (.error message)) with
        calls := state.calls + 1 } := by
  have absent : state.calls ∉ state.changed := by
    intro changed
    exact absurd (sound.changed _ changed).1 (Nat.lt_irrefl _)
  have cases {other : Nat} {later : RegistryCall} {stage : RegistryStage}
      (present : (state.active.insert state.calls
          { operation := operation, stage := stage }).get? other =
            some later) :
      (other = state.calls ∧
          later = { operation := operation, stage := stage }) ∨
        state.active.get? other = some later := by
    rw [Dict.get?_insert] at present
    split at present
    · next same =>
        cases present
        exact .inl ⟨same, rfl⟩
    · exact .inr present
  constructor
  · exact sound.valid
  · intro other later present
    rcases cases present with ⟨rfl, -⟩ | present
    · exact Nat.lt_succ_self _
    · exact Nat.lt_succ_of_lt (sound.numbered _ _ present)
  · intro other later present
    rcases cases present with ⟨rfl, rfl⟩ | present
    · dsimp only
      split
      · exact fun lock member => .inl member
      · exact ⟨List.nodup_nil, fun lock member => by cases member⟩
    · exact sound.locks _ _ present
  · intro other later present
    rcases cases present with ⟨rfl, rfl⟩ | present
    · dsimp only
      split
      · next checked => exact checked
      · exact trivial
    · exact sound.known _ _ present
  · intro other member
    rcases sound.changed other member with ⟨numbered, unraised, returns⟩
    refine ⟨Nat.lt_succ_of_lt numbered, unraised, ?_⟩
    intro later present
    rcases cases present with ⟨rfl, -⟩ | present
    · exact absurd member absent
    · exact returns later present
  · intro other member
    rcases sound.raised other member with ⟨numbered, ended⟩
    refine ⟨Nat.lt_succ_of_lt numbered, ?_⟩
    exact (Dict.get?_insert_of_ne _ _ (Nat.ne_of_lt numbered)).trans ended

theorem step_sound {label : Label} (sound : state.DirectorySound)
    (stepped : state.step owner label = some target) :
    target.DirectorySound ∧ (target.files = state.files ∨ ∃ number call,
          label.call? = some number ∧ number ∈ target.changed ∧
            FilesChange call state.files target.files) := by
  have ofCall {number : Nat} {call : RegistryCall} {label : Label}
      (active : state.active.get? number = some call)
      (stepped : state.stepCall owner number call label = some target)
      (labelled : label.call? = some number) :
      target.DirectorySound ∧ (target.files = state.files ∨ ∃ number call,
            label.call? = some number ∧ number ∈ target.changed ∧
              FilesChange call state.files target.files) := by
    rcases stepCall_sound sound active stepped with ⟨targetSound, unchanged | ⟨member, change⟩⟩
    · exact ⟨targetSound, .inl unchanged⟩
    · exact ⟨targetSound, .inr ⟨number, _, labelled, member, change⟩⟩
  cases label with
  | call operation =>
    simp only [step] at stepped
    cases stepped
    exact ⟨sound.called operation, .inl rfl⟩
  | enter number =>
    simp only [step] at stepped
    split at stepped
    · cases stepped
    · next active => exact ofCall active stepped rfl
  | read number now =>
    simp only [step] at stepped
    split at stepped
    · cases stepped
    · next active => exact ofCall active stepped rfl
  | list number =>
    simp only [step] at stepped
    split at stepped
    · cases stepped
    · next active => exact ofCall active stepped rfl
  | write number id hex now fault =>
    simp only [step] at stepped
    split at stepped
    · cases stepped
    · next active => exact ofCall active stepped rfl
  | leave number =>
    simp only [step] at stepped
    split at stepped
    · cases stepped
    · next active => exact ofCall active stepped rfl

/-! ## Runs -/

/-- The directory with its calls, from any valid directory on. -/
def registryMachine (owner : OwnerPrincipal) : Machine AccountDirectory Label where
  initial state := ∃ files, ValidDirectory files ∧ state = atRest files
  step := step owner

theorem atRest_sound (valid : ValidDirectory files) : (atRest files).DirectorySound where
  valid := valid
  numbered := by
    intro number call active
    cases active
  locks := by
    intro number call active
    cases active
  known := by
    intro number call active
    cases active
  changed := by
    intro number member
    cases member
  raised := by
    intro number member
    cases member

theorem reachable_sound (reached : (registryMachine owner).Reachable state) :
    state.DirectorySound := by
  refine Machine.Reaches.invariant ?_ ?_ reached
  · rintro state ⟨files, valid, rfl⟩
    exact atRest_sound valid
  · intro state label target _ sound _ stepped
    exact (step_sound sound stepped).1

/-- What holds of the accounts of a directory. -/
structure AccountsSound (files : Dict RecordKey RecordFile) : Prop where
  /-- no two bots share an application id -/
  appIds : ∀ key other account another appId, StoredAccount files key account →
      StoredAccount files other another →
      account.platform = .feishu →
      another.platform = .feishu →
      account.textField? "app_id" = some appId →
      another.textField? "app_id" = some appId →
      key = other
  /-- a principal has at most one binding -/
  bindings : ∀ key other account another, StoredAccount files key account →
      StoredAccount files other another →
      account.platform = .weixin →
      another.platform = .weixin →
      account.principalId = another.principalId →
      key = other
  revoked : ∀ key account, StoredAccount files key account → account.status = .revoked →
      account.enabled = false ∧ account.subscribed = false
  disabled : ∀ key account, StoredAccount files key account → account.status = .disabled →
      account.enabled = false
  inboundIds : ∀ key account, StoredAccount files key account →
      account.inboundIds.length ≤ maxInboundIds

/-- The identity of an account stays, and its status obeys the table. -/
structure AccountKept (before after : ChannelAccount) : Prop where
  id : after.id = before.id
  platform : after.platform = before.platform
  principalId : after.principalId = before.principalId
  createdAt : after.createdAt = before.createdAt
  transition : validTransition before.status after.status = true

theorem ValidDirectory.accountsSound (valid : ValidDirectory files) : AccountsSound files where
  appIds := by
    intro key other account another appId stored storedOther bot botOther has hasOther
    apply valid.distinct key other account another (.appId appId) stored storedOther
    · simp [ChannelAccount.mark?, bot, has]
    · simp [ChannelAccount.mark?, botOther, hasOther]
  bindings := by
    intro key other account another stored storedOther binding bindingOther same
    apply valid.distinct key other account another
      (.principal account.principalId) stored storedOther
    · simp [ChannelAccount.mark?, binding]
    · simp [ChannelAccount.mark?, bindingOther, same]
  revoked := by
    intro key account stored
    exact (valid.readAccount stored).1.revoked
  disabled := by
    intro key account stored
    exact (valid.readAccount stored).1.disabled
  inboundIds := by
    intro key account stored
    exact (valid.readAccount stored).1.inboundIds_length

theorem FilesChange.accountKept {later : Dict RecordKey RecordFile}
    (change : FilesChange operation files later) {key : RecordKey}
    {before after : ChannelAccount} (stored : StoredAccount files key before)
    (storedLater : StoredAccount later key after) :
    AccountKept before after := by
  rcases change.edits key before after stored storedLater with rfl | edit
  · exact ⟨rfl, rfl, rfl, rfl, validTransition_self _⟩
  · exact ⟨edit.id, edit.platform, edit.principalId, edit.createdAt, edit.transition⟩

/-- The owner of the sample runs. -/
def localUser : OwnerPrincipal where
  id := "local-user"
  valid := rfl

/-- The ids of the sample runs. -/
def sampleId (last : String) : String := "00000000-0000-4000-8000-00000000000" ++ last

/-- The steps of the registration of a bot. -/
def registerLabels (number others : Nat) (appId last : String) :
    List Label :=
  [.call (.registerFeishuBot appId "secret" "domain"), .enter number, .read number 0] ++
  List.replicate (others + 1) (.list number) ++
  [.write number (sampleId last) "0123456789abcdef0123456789abcdef" 0 none,
    .leave number, .leave number]

/-- The steps of an update without an application id to list for. -/
def updateLabels (number : Nat) (account : ChannelAccount) : List Label :=
  [.call (.update account none), .enter number, .enter number,
    .read number 1, .write number "" "" 0 none, .leave number,
    .leave number, .leave number]

theorem empty_valid : ValidDirectory Dict.empty where
  stored := by
    intro key file present
    cases present
  distinct := by
    intro key other account another mark stored
    cases stored

/-- The sample bot with a number in the place of its application id. -/
def numberedBot (appId last : String) : ChannelAccount :=
  { feishuBot (sampleId last) "local-user" appId "secret" "domain" 0 with
    privateState := Dict.empty.insert "app_id" (.number 5) }

end AccountDirectory

end TurningGood.Channels
