import TurningGood.Foundation.Histories
import TurningGood.Proactive.SkillEvidence

/-!
# Boundaries are observed once

A boundary of a session is worked on in batches, by as many calls as it takes:
a call that fails leaves the batches that were processed in the table of the
manager, and the next one goes on behind them.  Until the boundary is marked
the table says exactly which of its batches were processed, and from then on
the calls at it end before they ask anything.
-/

namespace TurningGood.Proactive

open TurningGood.Foundation

/-- All batches of the boundary were processed. -/
def ObserveCall.Observed (settings : SkillSettings) (boundary : ObserveCall)
    (log : List SkillEvent) : Prop :=
  ∃ plan, messageBatches (observedSource settings boundary.turns)
        settings.reviewWindowLimit = .ok plan ∧
      ∀ batch ∈ plan, SkillEvent.processed boundary batch.ids ∈ log

/-- Batches are left, and those before them were processed. -/
def ObserveCall.LeftOver (settings : SkillSettings) (boundary : ObserveCall)
    (log : List SkillEvent) (batches : List ReviewBatch) : Prop :=
  ∃ earlier, messageBatches (observedSource settings boundary.turns)
        settings.reviewWindowLimit = .ok (earlier ++ batches) ∧
      ∀ batch ∈ earlier, SkillEvent.processed boundary batch.ids ∈ log

/-- What may happen at the boundary behind what happened before. -/
def Resumed (settings : SkillSettings) (boundary : ObserveCall)
    (before : List SkillEvent) : SkillEvent → Prop
  | .stored call ids _ =>
    call = boundary → ∀ other, SkillEvent.stored boundary ids other ∉ before
  | .marked call => call = boundary → boundary.Observed settings before
  | .asked call _ =>
    call = boundary → SkillEvent.marked boundary ∉ before
  | _ => True

/-- Calls for the session are at the boundary, and no restart. -/
def AtBoundary (boundary : ObserveCall) (_ : SkillManager) : SkillLabel → Prop
  | .maybeObserve sessionId messages _ assistantMessageId =>
    sessionId = boundary.sessionId → observedTurns messages assistantMessageId = boundary.turns
  | .restart => False
  | _ => True

/-! ## The tables -/

/-- What the tables of the manager say of a boundary. -/
structure SkillManager.Tables (settings : SkillSettings)
    (boundary : ObserveCall) (manager : SkillManager) : Prop where
  progress : SkillEvent.marked boundary ∉ manager.log → ∀ ids,
    (boundary.sessionId, ids) ∈ manager.completedObservationBatches ↔
      SkillEvent.processed boundary ids ∈ manager.log
  observed : SkillEvent.marked boundary ∈ manager.log →
    manager.observedBoundaries.get? boundary.sessionId = some boundary.completedTurns
  stored : ∀ ids observation, SkillEvent.stored boundary ids observation ∈ manager.log →
      SkillEvent.processed boundary ids ∈ manager.log
  log : Justified (Resumed settings boundary) manager.log

/-- A call for the session of the boundary works on the boundary. -/
def ObserveCall.OnlyAt (boundary call : ObserveCall) : Prop :=
  call.sessionId = boundary.sessionId → call = boundary

/-- What holds of a call in progress. -/
def SkillCall.Resumes (settings : SkillSettings) (boundary : ObserveCall)
    (log : List SkillEvent) : SkillCall → Prop
  | .signal call _ _ => boundary.OnlyAt call
  | .observing call _ batch rest =>
    boundary.OnlyAt call ∧ (call = boundary → SkillEvent.marked boundary ∉ log ∧
        SkillEvent.processed boundary batch.ids ∉ log ∧
        boundary.LeftOver settings log (batch :: rest))
  | _ => True

/-- What every run at a boundary keeps. -/
structure SkillManager.Resumes (settings : SkillSettings)
    (boundary : ObserveCall) (manager : SkillManager) : Prop where
  tables : manager.Tables settings boundary
  call : ∀ call ∈ manager.call, call.Resumes settings boundary manager.log

namespace SkillManager

variable {settings : SkillSettings} {boundary : ObserveCall}
  {manager : SkillManager}

theorem Tables.of_same (tables : manager.Tables settings boundary)
    {other : SkillManager} (log : other.log = manager.log)
    (observed : other.observedBoundaries = manager.observedBoundaries)
    (completed : other.completedObservationBatches = manager.completedObservationBatches) :
    other.Tables settings boundary := by
  constructor
  · rw [log, completed]
    exact tables.progress
  · rw [log, observed]
    exact tables.observed
  · rw [log]
    exact tables.stored
  · rw [log]
    exact tables.log

theorem Tables.idle (tables : manager.Tables settings boundary)
    (idle : manager.call = none) : manager.Resumes settings boundary := by
  refine ⟨tables, ?_⟩
  rw [idle]
  exact nofun

theorem Tables.released (tables : manager.Tables settings boundary) :
    manager.released.Resumes settings boundary :=
  Tables.idle (tables.of_same rfl rfl rfl) rfl

theorem Tables.save (tables : manager.Tables settings boundary)
    (state : SkillState) : (manager.save state).Tables settings boundary :=
  tables.of_same rfl rfl rfl

theorem Tables.await (tables : manager.Tables settings boundary)
    {call : SkillCall}
    (resumes : call.Resumes settings boundary manager.log) :
    ({ manager with call := some call } : SkillManager).Resumes settings
      boundary :=
  ⟨tables.of_same rfl rfl rfl, fun _ same => Option.mem_some.mp same ▸ resumes⟩

theorem Tables.note (tables : manager.Tables settings boundary)
    {event : SkillEvent}
    (justified : Resumed settings boundary manager.log event)
    (notStored : ∀ ids observation, event ≠ .stored boundary ids observation)
    (notProcessed : ∀ ids, event ≠ .processed boundary ids)
    (notMarked : event ≠ .marked boundary) :
    (manager.note event).Tables settings boundary := by
  have before : ∀ {other}, other ≠ event →
      other ∈ manager.log ++ [event] → other ∈ manager.log := by
    intro other differs member
    rcases List.mem_append.mp member with old | new
    · exact old
    · exact absurd (List.mem_singleton.mp new) differs
  constructor
  · intro unmarked ids
    rw [SkillManager.note, tables.progress fun marked => unmarked (List.mem_append_left _ marked)]
    exact ⟨List.mem_append_left _, before (notProcessed ids).symm⟩
  · intro marked
    exact tables.observed (before notMarked.symm marked)
  · intro ids observation stored
    apply List.mem_append_left
    exact tables.stored ids observation (before (notStored ids observation).symm stored)
  · exact tables.log.concat justified

variable {call : ObserveCall}

theorem Tables.asked (tables : manager.Tables settings boundary) (ids : List String)
    (unmarked : call = boundary → SkillEvent.marked boundary ∉ manager.log) :
    (manager.note (.asked call ids)).Tables settings boundary :=
  tables.note unmarked nofun nofun nofun

theorem Tables.markObserved (tables : manager.Tables settings boundary)
    (only : boundary.OnlyAt call)
    (observed : call = boundary → boundary.Observed settings manager.log) :
    (manager.markObserved call).Resumes settings boundary := by
  apply Tables.idle _ rfl
  by_cases same : call = boundary
  · cases same
    constructor
    · intro unmarked
      exact absurd (List.mem_append_right _ List.mem_cons_self) unmarked
    · intro _
      exact Dict.get?_insert_self _ _ _
    · intro ids observation stored
      rcases List.mem_append.mp stored with old | new
      · exact List.mem_append_left _ (tables.stored ids observation old)
      · cases List.mem_singleton.mp new
    · exact tables.log.concat observed
  · have foreign : call.sessionId ≠ boundary.sessionId :=
      fun equal => same (only equal)
    have justified : Resumed settings boundary manager.log (.marked call) :=
      fun equal => absurd equal same
    have noted := tables.note justified nofun nofun
      fun equal => same (SkillEvent.marked.inj equal)
    constructor
    · intro unmarked ids
      apply Iff.trans _ (noted.progress unmarked ids)
      exact Finset.mem_filter.trans (and_iff_left foreign.symm)
    · intro marked
      rw [← noted.observed marked]
      exact Dict.get?_insert_of_ne _ _ foreign.symm
    · exact noted.stored
    · exact noted.log

theorem Tables.batchProcessed (tables : manager.Tables settings boundary)
    (only : boundary.OnlyAt call) (batch : ReviewBatch) :
    (manager.batchProcessed call batch).Tables settings boundary := by
  have keys : ∀ ids,
      (boundary.sessionId, ids) = (call.sessionId, batch.ids) ↔
        SkillEvent.processed boundary ids = .processed call batch.ids := by
    intro ids
    rw [Prod.mk.injEq, SkillEvent.processed.injEq]
    apply and_congr_left
    intro _
    exact ⟨fun same => (only same.symm).symm, fun same => same ▸ rfl⟩
  have old : ∀ {event}, (∀ ids, event ≠ .processed call ids) →
      event ∈ (manager.batchProcessed call batch).log →
        event ∈ manager.log := by
    intro event differs member
    rcases List.mem_append.mp member with before | new
    · exact before
    · exact absurd (List.mem_singleton.mp new) (differs batch.ids)
  constructor
  · intro unmarked ids
    have before := tables.progress
      (fun marked => unmarked (List.mem_append_left _ marked)) ids
    simp only [SkillManager.batchProcessed, Finset.mem_insert,
      List.mem_append, List.mem_singleton, before, keys, or_comm]
  · intro marked
    exact tables.observed (old nofun marked)
  · intro ids observation stored
    exact List.mem_append_left _ (tables.stored ids observation (old nofun stored))
  · exact tables.log.concat trivial

theorem Tables.batchStored (tables : manager.Tables settings boundary)
    (only : boundary.OnlyAt call) (batch : ReviewBatch)
    (observation : Observation) (fresh : call = boundary →
      SkillEvent.processed boundary batch.ids ∉ manager.log) :
    ((manager.note (.stored call batch.ids observation)).batchProcessed call
      batch).Tables settings boundary := by
  by_cases same : call = boundary
  · cases same
    have unstored : ∀ other,
        SkillEvent.stored boundary batch.ids other ∉ manager.log :=
      fun other stored => fresh rfl (tables.stored batch.ids other stored)
    constructor
    · intro unmarked ids
      have before := tables.progress
        (fun marked => unmarked (List.mem_append_left _ (List.mem_append_left _ marked))) ids
      simp only [SkillManager.batchProcessed, SkillManager.note,
        Finset.mem_insert, List.mem_append, List.mem_singleton, before,
        Prod.mk.injEq, SkillEvent.processed.injEq, true_and, reduceCtorEq,
        or_false]
      exact or_comm
    · intro marked
      apply tables.observed
      simpa [SkillManager.batchProcessed, SkillManager.note] using marked
    · intro ids other stored
      simp only [SkillManager.batchProcessed, SkillManager.note,
        List.mem_append, List.mem_singleton, SkillEvent.stored.injEq,
        reduceCtorEq, or_false] at stored
      rcases stored with before | new
      · exact List.mem_append_left _ (List.mem_append_left _ (tables.stored ids other before))
      · rw [new.2.1]
        exact List.mem_append_right _ List.mem_cons_self
    · have noted : Justified (Resumed settings boundary)
          (manager.log ++ [.stored boundary batch.ids observation]) :=
        tables.log.concat fun _ => unstored
      exact noted.concat trivial
  · have justified : Resumed settings boundary manager.log
        (.stored call batch.ids observation) :=
      fun equal => absurd equal same
    have noted := tables.note justified
      (fun ids other equal => same (SkillEvent.stored.inj equal).1)
      nofun nofun
    exact noted.batchProcessed only batch

theorem Tables.observeNext (tables : manager.Tables settings boundary)
    (only : boundary.OnlyAt call) (state : SkillState)
    {batches : List ReviewBatch}
    (unmarked : call = boundary → SkillEvent.marked boundary ∉ manager.log)
    (left : call = boundary → boundary.LeftOver settings manager.log batches) :
    (manager.observeNext call state batches).Resumes settings boundary := by
  induction batches with
  | nil =>
    apply tables.markObserved only
    intro same
    rcases left same with ⟨earlier, planned, processed⟩
    rw [List.append_nil] at planned
    exact ⟨earlier, planned, processed⟩
  | cons batch rest induction =>
    rw [SkillManager.observeNext]
    split_ifs with known
    · apply induction
      intro same
      rcases left same with ⟨earlier, planned, processed⟩
      refine ⟨earlier ++ [batch], ?_, ?_⟩
      · rw [planned, List.append_assoc]
        rfl
      · intro other member
        rcases List.mem_append.mp member with before | this
        · exact processed other before
        · rw [List.mem_singleton.mp this]
          rw [same] at known
          exact (tables.progress (unmarked same) _).mp known
    · have asked := tables.asked batch.ids unmarked
      apply asked.await
      refine ⟨only, ?_⟩
      intro same
      have unprocessed : SkillEvent.processed boundary batch.ids ∉
          manager.log := by
        rw [same] at known
        exact fun processed =>
          known ((tables.progress (unmarked same) _).mpr processed)
      rcases left same with ⟨earlier, planned, processed⟩
      have before : ∀ {event}, (∀ ids, event ≠ .asked call ids) →
          event ∈ (manager.note (.asked call batch.ids)).log →
            event ∈ manager.log := by
        intro event differs member
        rcases List.mem_append.mp member with old | new
        · exact old
        · exact absurd (List.mem_singleton.mp new) (differs batch.ids)
      refine ⟨?_, ?_, earlier, planned, ?_⟩
      · exact fun marked => unmarked same (before (by rintro _ ⟨⟩) marked)
      · exact fun done => unprocessed (before (by rintro _ ⟨⟩) done)
      · exact fun other member =>
          List.mem_append_left _ (processed other member)

theorem Tables.beginObserving (tables : manager.Tables settings boundary)
    (only : boundary.OnlyAt call) :
    (manager.beginObserving settings call).Resumes settings boundary := by
  rw [SkillManager.beginObserving]
  split_ifs with observed
  · exact tables.released
  · split
    · exact tables.released
    · split
      · exact tables.released
      · next batches planned =>
          apply tables.observeNext only
          · rintro rfl marked
            exact observed (tables.observed marked)
          · rintro rfl
            exact ⟨[], planned, (by rintro _ ⟨⟩)⟩

theorem Tables.maybeObserve (tables : manager.Tables settings boundary)
    (idle : manager.call = none) (sessionId : String)
    (messages : List TurnMessage) (explicitSignal : Bool)
    (assistantMessageId : Option String)
    (only : boundary.OnlyAt ⟨sessionId, observedTurns messages assistantMessageId⟩) :
    (manager.maybeObserve settings sessionId messages explicitSignal
      assistantMessageId).Resumes settings boundary := by
  rw [SkillManager.maybeObserve]
  dsimp only
  split_ifs
  · exact tables.idle idle
  · exact tables.beginObserving only
  · exact tables.idle idle
  · split
    · exact tables.idle idle
    · split
      · exact tables.idle idle
      · exact Tables.idle (tables.of_same rfl rfl rfl) rfl
      · exact tables.await only

theorem Tables.signalAnswered (tables : manager.Tables settings boundary)
    (only : boundary.OnlyAt call) (state : SkillState)
    (batches : List ReviewBatch) (reply : SignalReply) :
    (manager.signalAnswered settings call state batches reply).Resumes
      settings boundary := by
  rcases reply with ⟨usage, answer⟩
  match answer, batches with
  | none, _ => exact (tables.save _).released
  | some true, _ =>
    apply Tables.beginObserving _ only
    exact tables.of_same rfl rfl rfl
  | some false, _ :: next :: rest => exact (tables.save _).await only
  | some false, [] => exact Tables.idle (tables.of_same rfl rfl rfl) rfl
  | some false, [_] => exact Tables.idle (tables.of_same rfl rfl rfl) rfl

theorem leftOver_rest {log more : List SkillEvent} {batch : ReviewBatch}
    {rest : List ReviewBatch} (left : call = boundary →
      boundary.LeftOver settings log (batch :: rest))
    (processed : SkillEvent.processed call batch.ids ∈ more) :
    call = boundary →
      boundary.LeftOver settings (log ++ more) rest := by
  rintro rfl
  rcases left rfl with ⟨earlier, planned, before⟩
  refine ⟨earlier ++ [batch], ?_, ?_⟩
  · rw [planned, List.append_assoc]
    rfl
  · intro other member
    rcases List.mem_append.mp member with old | this
    · exact List.mem_append_left _ (before other old)
    · rw [List.mem_singleton.mp this]
      exact List.mem_append_right _ processed

theorem Tables.observationAnswered (tables : manager.Tables settings boundary)
    (texts : ReviewTexts) (only : boundary.OnlyAt call) (state : SkillState)
    {batch : ReviewBatch} {rest : List ReviewBatch}
    (pending : call = boundary → SkillEvent.marked boundary ∉ manager.log ∧
      SkillEvent.processed boundary batch.ids ∉ manager.log ∧
      boundary.LeftOver settings manager.log (batch :: rest))
    (reply : ObservationReply) :
    (manager.observationAnswered texts settings call state batch rest
      reply).Resumes settings boundary := by
  have left := fun same => (pending same).2.2
  cases reply with
  | failed usage => exact (tables.save _).released
  | nothing usage =>
    apply ((tables.save _).batchProcessed only batch).observeNext only
    · intro same marked
      apply (pending same).1
      simpa [SkillManager.batchProcessed, SkillManager.save] using marked
    · exact leftOver_rest left List.mem_cons_self
  | entry usage entry draw moment =>
    rw [SkillManager.observationAnswered]
    dsimp only
    split
    · exact (tables.save _).released
    · next observation parsed =>
        refine Tables.observeNext ?_ only _ ?_ ?_
        · apply Tables.batchStored ((tables.save _).save _) only
          exact fun same => (pending same).2.1
        · intro same marked
          apply (pending same).1
          simpa [SkillManager.batchProcessed, SkillManager.note, SkillManager.save] using marked
        · have behind := leftOver_rest left
            (show SkillEvent.processed call batch.ids ∈ [.stored call batch.ids observation,
                .processed call batch.ids] by simp)
          intro same
          have kept := behind same
          rwa [List.append_cons] at kept

theorem Tables.created (tables : manager.Tables settings boundary)
    (name : String) (ids : List String) :
    (manager.note (.created name ids)).Tables settings boundary :=
  tables.note trivial nofun nofun nofun

theorem Tables.evolveNext (tables : manager.Tables settings boundary)
    (run : EvolutionRun) (finishedAt : Nat)
    (rest : List (List Observation)) (candidates : List (List String)) :
    (manager.evolveNext run finishedAt rest candidates).Resumes settings
      boundary := by
  induction candidates with
  | nil =>
    cases rest with
    | nil => exact (tables.save _).released
    | cons batch later => exact tables.await trivial
  | cons candidate candidates induction =>
    rw [SkillManager.evolveNext]
    split_ifs
    · exact induction
    · exact tables.await trivial

theorem Tables.selectionAnswered (tables : manager.Tables settings boundary)
    (run : EvolutionRun) (batch : List Observation)
    (rest : List (List Observation)) (finishedAt : Nat)
    (reply : SelectionReply) :
    (manager.selectionAnswered run batch rest finishedAt reply).Resumes
      settings boundary := by
  cases reply with
  | sourcesMissing => exact tables.evolveNext run finishedAt rest []
  | failed usage => exact (tables.save _).evolveNext _ finishedAt rest []
  | candidates usage raw =>
    rw [SkillManager.selectionAnswered]
    split
    · exact (tables.save _).released
    · exact (tables.save _).evolveNext _ finishedAt rest _

theorem Tables.draftAnswered (tables : manager.Tables settings boundary)
    (run : EvolutionRun) (candidate : List String)
    (candidates : List (List String)) (rest : List (List Observation))
    (finishedAt : Nat) (reply : DraftReply) :
    (manager.draftAnswered run candidate candidates rest finishedAt
      reply).Resumes settings boundary := by
  cases reply with
  | sourcesMissing => exact tables.evolveNext run finishedAt rest candidates
  | none usage => exact (tables.save _).evolveNext _ finishedAt rest candidates
  | raised usage => exact (tables.save _).released
  | created usage name =>
    exact (((tables.save _).created name candidate).save _).evolveNext _ finishedAt rest candidates

theorem Resumes.reschedule (resumes : manager.Resumes settings boundary) (moment : Nat) :
    (manager.reschedule moment).Resumes settings boundary := by
  rw [SkillManager.reschedule]
  split
  · exact resumes
  · exact ⟨resumes.tables.save _, resumes.call⟩

theorem Resumes.next (resumes : manager.Resumes settings boundary)
    {texts : ReviewTexts} {label : SkillLabel} {target : SkillManager}
    (atBoundary : AtBoundary boundary manager label)
    (stepped : manager.step texts settings label = some target) :
    target.Resumes settings boundary := by
  have tables := resumes.tables
  cases label with
  | maybeObserve sessionId messages explicitSignal assistantMessageId =>
    simp only [SkillManager.step] at stepped
    split at stepped
    · next idle =>
        cases stepped
        apply tables.maybeObserve idle
        rintro rfl
        rw [atBoundary rfl]
    · cases stepped
  | signalAnswered reply =>
    simp only [SkillManager.step] at stepped
    split at stepped
    · next call state batches held =>
        cases stepped
        exact tables.signalAnswered (resumes.call _ held) state batches reply
    · cases stepped
  | observationAnswered reply =>
    simp only [SkillManager.step] at stepped
    split at stepped
    · next call state batch rest held =>
        cases stepped
        have pending := resumes.call _ held
        exact tables.observationAnswered texts pending.1 state pending.2 reply
    · cases stepped
  | runEvolution finishedAt =>
    simp only [SkillManager.step] at stepped
    split at stepped
    · next idle =>
        cases stepped
        rw [SkillManager.runEvolution]
        split
        · exact tables.idle idle
        · exact tables.evolveNext _ finishedAt _ _
    · cases stepped
  | selectionAnswered reply finishedAt =>
    simp only [SkillManager.step] at stepped
    split at stepped
    · cases stepped
      exact tables.selectionAnswered _ _ _ finishedAt reply
    · cases stepped
  | draftAnswered reply finishedAt =>
    simp only [SkillManager.step] at stepped
    split at stepped
    · cases stepped
      exact tables.draftAnswered _ _ _ _ finishedAt reply
    · cases stepped
  | interrupted =>
    simp only [SkillManager.step] at stepped
    split at stepped
    · cases stepped
      exact tables.released
    · cases stepped
  | deferAfterFailure now =>
    simp only [SkillManager.step] at stepped
    split at stepped
    · cases stepped
      exact resumes.reschedule now
    · cases stepped
  | initializeSchedule now =>
    cases stepped
    rw [SkillManager.initializeSchedule]
    split
    · exact resumes
    · split_ifs
      · exact resumes
      · exact resumes.reschedule now
  | restart => exact atBoundary.elim

end SkillManager

instance (boundary : ObserveCall) (manager : SkillManager)
    (label : SkillLabel) : Decidable (AtBoundary boundary manager label) := by
  unfold AtBoundary
  split <;> infer_instance

/-- A turn whose two messages need a batch each. -/
def longGreeting : List TurnMessage := [⟨⟨"m1", "session", "user", 6, 0⟩, false⟩,
    ⟨⟨"m2", "session", "assistant", 6, 1⟩, false⟩]

/-- The boundary behind the turn. -/
def longBoundary : ObserveCall := ⟨"session", [longGreeting]⟩

/-- The second batch fails at first, and is then observed. -/
def observedInTwoCalls : List SkillLabel :=
  [.maybeObserve "session" longGreeting false none, .observationAnswered (.entry ⟨1, 1, 2⟩
      ⟨"workflow", some "Greet first.", some ["m1"]⟩ 0 0),
    .observationAnswered (.failed ⟨1, 1, 2⟩),
    .maybeObserve "session" longGreeting true none,
    .observationAnswered (.nothing ⟨1, 1, 2⟩),
    .maybeObserve "session" longGreeting true none]

end TurningGood.Proactive
