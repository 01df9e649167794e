import TurningGood.Proactive.BreakbeatItems
import TurningGood.Proactive.SkillEvolution

/-!
# Evidence is used once

The log says which observations were stored and which of them a draft was
created from.  What the file holds, and what a call in progress holds, are
always the stored observations that no draft has used, in the order in which
they were stored, each as it was stored or as it is read.
-/

namespace TurningGood.Proactive

open TurningGood.Foundation

variable {observation record : Observation} {observations : List Observation}

/-! ## What the log says -/

/-- The observations that were stored. -/
def storedOf (log : List SkillEvent) : List Observation := log.filterMap fun event =>
    match event with
    | .stored _ _ observation => some observation
    | _ => none

/-- The ids from which the drafts were created. -/
def draftsOf (log : List SkillEvent) : List (List String) := log.filterMap fun event =>
    match event with
    | .created _ ids => some ids
    | _ => none

/-- A draft was created from the observation. -/
def UsedIn (log : List SkillEvent) (id : String) : Prop := ∃ ids ∈ draftsOf log, id ∈ ids

instance (log : List SkillEvent) (id : String) : Decidable (UsedIn log id) :=
  inferInstanceAs (Decidable (∃ ids ∈ draftsOf log, id ∈ ids))

/-- The stored observations that no draft was created from. -/
def unusedOf (log : List SkillEvent) : List Observation :=
  (storedOf log).filter fun observation => ¬ UsedIn log observation.id

/-- The event neither stores an observation nor creates a draft. -/
def SkillEvent.Neutral : SkillEvent → Prop
  | .stored _ _ _ => False
  | .created _ _ => False
  | _ => True

section Log

variable {log : List SkillEvent} {event : SkillEvent}

theorem storedOf_neutral (neutral : event.Neutral) :
    storedOf (log ++ [event]) = storedOf log := by
  rw [storedOf, List.filterMap_append, ← storedOf]
  cases event with
  | stored call ids observation => exact neutral.elim
  | _ => exact List.append_nil _

theorem draftsOf_neutral (neutral : event.Neutral) :
    draftsOf (log ++ [event]) = draftsOf log := by
  rw [draftsOf, List.filterMap_append, ← draftsOf]
  cases event with
  | created name ids => exact neutral.elim
  | _ => exact List.append_nil _

theorem unusedOf_neutral (neutral : event.Neutral) :
    unusedOf (log ++ [event]) = unusedOf log := by
  rw [unusedOf, unusedOf, storedOf_neutral neutral]
  apply List.filter_congr
  intro observation _
  apply decide_eq_decide.mpr
  rw [UsedIn, UsedIn, draftsOf_neutral neutral]

theorem storedOf_stored (call : ObserveCall) (ids : List String) (observation : Observation) :
    storedOf (log ++ [.stored call ids observation]) =
      storedOf log ++ [observation] :=
  List.filterMap_append

theorem draftsOf_stored (call : ObserveCall) (ids : List String) (observation : Observation) :
    draftsOf (log ++ [.stored call ids observation]) = draftsOf log := by
  rw [draftsOf, List.filterMap_append, ← draftsOf]
  exact List.append_nil _

theorem storedOf_created (name : String) (ids : List String) :
    storedOf (log ++ [.created name ids]) = storedOf log := by
  rw [storedOf, List.filterMap_append, ← storedOf]
  exact List.append_nil _

theorem draftsOf_created (name : String) (ids : List String) :
    draftsOf (log ++ [.created name ids]) = draftsOf log ++ [ids] :=
  List.filterMap_append

theorem usedIn_created (name : String) (ids : List String) (id : String) :
    UsedIn (log ++ [.created name ids]) id ↔ UsedIn log id ∨ id ∈ ids := by
  rw [UsedIn, draftsOf_created]
  simp only [List.mem_append, List.mem_singleton, or_and_right, exists_or, exists_eq_left]
  exact Iff.rfl

theorem unusedOf_stored {call : ObserveCall} {ids : List String}
    {observation : Observation} (unused : ¬ UsedIn log observation.id) :
    unusedOf (log ++ [.stored call ids observation]) =
      unusedOf log ++ [observation] := by
  simp only [unusedOf, UsedIn, storedOf_stored, draftsOf_stored, List.filter_append]
  rw [List.filter_cons_of_pos (by simpa [UsedIn] using unused)]
  rfl

theorem unusedOf_created (name : String) (ids : List String) :
    unusedOf (log ++ [.created name ids]) =
      (unusedOf log).filter fun observation => observation.id ∉ ids := by
  rw [unusedOf, unusedOf, storedOf_created, List.filter_filter]
  apply List.filter_congr
  intro observation _
  rw [← Bool.decide_and]
  apply decide_eq_decide.mpr
  rw [usedIn_created, not_or, and_comm]

end Log

/-! ## What is there -/

/-- An observation as it was stored, or as it is read. -/
def StoredAs (observation record : Observation) : Prop :=
  record = observation ∨ observationFromDict observation = .ok record

/-- What reading leaves of an observation: white space around texts goes. -/
def Observation.stripped (observation : Observation) : Observation :=
  { observation with
    id := Text.strip observation.id
    createdAt := Text.strip observation.createdAt
    kind := Text.strip observation.kind
    observation := Text.strip observation.observation
    sourceSessionId := Text.strip observation.sourceSessionId }

/-- The id, the kind and the text have no white space around them. -/
structure Observation.Tidy (observation : Observation) : Prop where
  id : Text.strip observation.id = observation.id
  kind : Text.strip observation.kind = observation.kind
  text : Text.strip observation.observation = observation.observation

theorem observationFromDict_spec (read : observationFromDict observation = .ok record) :
    record = observation.stripped ∧
      observationFromDict record = .ok record := by
  rw [observationFromDict] at read
  split_ifs at read with sources
  simp only [bind_eq_ok, boundedText_eq_ok_iff] at read
  rcases read with ⟨_, ⟨rfl, id⟩, _, ⟨rfl, created⟩, _, ⟨rfl, kind⟩, _,
    ⟨rfl, text⟩, _, ⟨rfl, session⟩, read⟩
  split_ifs at read with known
  cases read
  refine ⟨rfl, ?_⟩
  rw [observationFromDict, if_neg sources]
  simp only [bind_eq_ok, boundedText_eq_ok_iff]
  refine ⟨_, ⟨id.1, id⟩, _, ⟨created.1, created⟩, _, ⟨kind.1, kind⟩, _,
    ⟨text.1, text⟩, _, ⟨session.1, session⟩, ?_⟩
  rw [if_pos known]

theorem StoredAs.id (same : StoredAs observation record)
    (tidy : observation.Tidy) : record.id = observation.id := by
  rcases same with rfl | read
  · rfl
  · rw [(observationFromDict_spec read).1]
    exact tidy.id

/--
The record has the content of the observation, up to white space around its
time and its session.
-/
structure SameContent (observation record : Observation) : Prop where
  id : record.id = observation.id
  kind : record.kind = observation.kind
  text : record.observation = observation.observation
  sources : record.sourceMessageIds = observation.sourceMessageIds
  createdAt : record.createdAt = observation.createdAt ∨
      record.createdAt = Text.strip observation.createdAt
  session : record.sourceSessionId = observation.sourceSessionId ∨
      record.sourceSessionId = Text.strip observation.sourceSessionId

theorem StoredAs.sameContent (same : StoredAs observation record)
    (tidy : observation.Tidy) : SameContent observation record := by
  rcases same with rfl | read
  · exact ⟨rfl, rfl, rfl, rfl, .inl rfl, .inl rfl⟩
  · rw [(observationFromDict_spec read).1]
    exact ⟨tidy.id, tidy.kind, tidy.text, rfl, .inr rfl, .inr rfl⟩

theorem StoredAs.read {loaded : Observation} (same : StoredAs observation record)
    (read : observationFromDict record = .ok loaded) :
    StoredAs observation loaded := by
  rcases same with rfl | before
  · exact .inr read
  · rw [(observationFromDict_spec before).2] at read
    cases read
    exact .inr before

theorem storedAs_loaded {records loaded : List Observation}
    (same : List.Forall₂ StoredAs observations records)
    (read : List.Forall₂ (fun record result =>
      observationFromDict record = .ok result) records loaded) :
    List.Forall₂ StoredAs observations loaded := by
  induction same generalizing loaded with
  | nil =>
    cases read
    exact .nil
  | cons first rest induction =>
    cases read with
    | cons one others => exact .cons (first.read one) (induction others)

theorem storedAs_filter {records : List Observation}
    (same : List.Forall₂ StoredAs observations records)
    (tidy : ∀ observation ∈ observations, observation.Tidy)
    (ids : List String) :
    List.Forall₂ StoredAs (observations.filter fun observation => observation.id ∉ ids)
      (records.filter fun record => record.id ∉ ids) := by
  induction same with
  | nil => exact .nil
  | cons first rest induction =>
    have others := induction fun observation member =>
      tidy observation (List.mem_cons_of_mem _ member)
    have id := first.id (tidy _ List.mem_cons_self)
    rw [List.filter_cons, List.filter_cons, id]
    split_ifs
    · exact .cons first others
    · exact others

/-- The records are the unused observations. -/
def HoldsUnused (log : List SkillEvent) (records : List Observation) :
    Prop :=
  List.Forall₂ StoredAs (unusedOf log) records

/-- What the log says of itself. -/
structure LogSound (log : List SkillEvent) : Prop where
  distinct : ((storedOf log).map Observation.id).Nodup
  tidy : ∀ observation ∈ storedOf log, observation.Tidy
  disjoint : (draftsOf log).Pairwise List.Disjoint
  known : ∀ id, UsedIn log id → id ∈ (storedOf log).map Observation.id

section Records

variable {log : List SkillEvent} {records : List Observation}

theorem HoldsUnused.loaded (holds : HoldsUnused log records)
    {loaded : List Observation}
    (read : loadAll observationFromDict records = .ok loaded) :
    HoldsUnused log loaded :=
  storedAs_loaded holds (loadAll_eq_ok_iff.mp read)

theorem HoldsUnused.exists_stored (holds : HoldsUnused log records)
    {record : Observation} (member : record ∈ records) :
    ∃ observation ∈ unusedOf log, StoredAs observation record := by
  rcases List.getElem_of_mem member with ⟨index, inside, rfl⟩
  have bound : index < (unusedOf log).length := by
    rw [List.Forall₂.length_eq holds]
    exact inside
  exact ⟨(unusedOf log)[index], List.getElem_mem bound, List.Forall₂.get holds bound inside⟩

theorem HoldsUnused.exists_record (holds : HoldsUnused log records)
    {observation : Observation} (member : observation ∈ unusedOf log) :
    ∃ record ∈ records, StoredAs observation record := by
  rcases List.getElem_of_mem member with ⟨index, inside, rfl⟩
  have bound : index < records.length := by
    rw [← List.Forall₂.length_eq holds]
    exact inside
  exact ⟨records[index], List.getElem_mem bound, List.Forall₂.get holds inside bound⟩

theorem HoldsUnused.id (holds : HoldsUnused log records)
    (sound : LogSound log) {record : Observation}
    (member : record ∈ records) :
    record.id ∈ (storedOf log).map Observation.id ∧ ¬ UsedIn log record.id := by
  rcases holds.exists_stored member with ⟨observation, unused, same⟩
  rcases List.mem_filter.mp unused with ⟨stored, free⟩
  rw [same.id (sound.tidy observation stored)]
  exact ⟨List.mem_map_of_mem stored, by simpa using free⟩

theorem HoldsUnused.created (holds : HoldsUnused log records)
    (sound : LogSound log) (name : String) (ids : List String) :
    HoldsUnused (log ++ [.created name ids]) (records.filter fun record => record.id ∉ ids) := by
  rw [HoldsUnused, unusedOf_created]
  apply storedAs_filter holds
  intro observation member
  exact sound.tidy observation (List.mem_filter.mp member).1

end Records

section LogSteps

variable {log : List SkillEvent}

theorem LogSound.neutral (sound : LogSound log) {event : SkillEvent}
    (neutral : event.Neutral) : LogSound (log ++ [event]) := by
  have stored := @storedOf_neutral log _ neutral
  have drafts := @draftsOf_neutral log _ neutral
  refine ⟨?_, ?_, ?_, ?_⟩
  · rw [stored]
    exact sound.distinct
  · rw [stored]
    exact sound.tidy
  · rw [drafts]
    exact sound.disjoint
  · intro id used
    rw [UsedIn, drafts] at used
    rw [stored]
    exact sound.known id used

theorem LogSound.stored (sound : LogSound log) {call : ObserveCall}
    {ids : List String} {observation : Observation}
    (fresh : observation.id ∉ (storedOf log).map Observation.id)
    (tidy : observation.Tidy) :
    LogSound (log ++ [.stored call ids observation]) := by
  refine ⟨?_, ?_, ?_, ?_⟩
  · have distinct := sound.distinct.concat fresh
    rw [List.concat_eq_append] at distinct
    rw [storedOf_stored, List.map_append]
    exact distinct
  · rw [storedOf_stored]
    intro other member
    rcases List.mem_append.mp member with old | new
    · exact sound.tidy other old
    · rw [List.mem_singleton.mp new]
      exact tidy
  · rw [draftsOf_stored]
    exact sound.disjoint
  · intro id used
    rw [UsedIn, draftsOf_stored] at used
    rw [storedOf_stored, List.map_append]
    exact List.mem_append_left _ (sound.known id used)

theorem LogSound.created (sound : LogSound log) {name : String}
    {ids : List String}
    (known : ∀ id ∈ ids, id ∈ (storedOf log).map Observation.id)
    (unused : ∀ id ∈ ids, ¬ UsedIn log id) :
    LogSound (log ++ [.created name ids]) := by
  refine ⟨?_, ?_, ?_, ?_⟩
  · rw [storedOf_created]
    exact sound.distinct
  · rw [storedOf_created]
    exact sound.tidy
  · rw [draftsOf_created, List.pairwise_append]
    refine ⟨sound.disjoint, List.pairwise_singleton _ _, ?_⟩
    intro earlier member last final
    rw [List.mem_singleton.mp final]
    intro id used again
    exact unused id again ⟨earlier, member, used⟩
  · intro id used
    rw [storedOf_created]
    rcases (usedIn_created name ids id).mp used with before | now
    · exact sound.known id before
    · exact known id now

end LogSteps

theorem normalizedCandidates_subset {allowed : List String}
    {raw : List RawCandidate} {candidates : List (List String)}
    (normalized : normalizedCandidates allowed raw = some candidates) :
    ∀ candidate ∈ candidates, candidate ⊆ allowed := by
  induction raw generalizing candidates with
  | nil =>
    cases normalized
    exact nofun
  | cons first rest induction =>
    rw [normalizedCandidates] at normalized
    split at normalized
    · exact induction normalized
    · exact induction normalized
    · dsimp only at normalized
      split_ifs at normalized with inside
      · split at normalized
        · rcases Option.map_eq_some_iff.mp normalized with ⟨others, behind, rfl⟩
          intro candidate member
          rcases List.mem_cons.mp member with rfl | later
          · exact inside
          · exact induction behind candidate later
        · exact induction normalized
        · cases normalized
          exact nofun
        · cases normalized
      · exact induction normalized

theorem observationBatchesLoop_subset {countTokens : String → Nat}
    {tokenLimit : Nat} {batches : List (List Observation)}
    {current : List Observation} {tokens : Nat} {held : List Observation}
    (remaining : observations ⊆ held) (closed : ∀ batch ∈ batches,
      batch ⊆ held) (begun : current ⊆ held) :
    ∀ batch ∈ observationBatchesLoop countTokens tokenLimit observations
      batches current tokens, batch ⊆ held := by
  induction observations generalizing batches current tokens with
  | nil =>
    cases current with
    | nil => exact closed
    | cons first rest =>
      intro batch member
      rcases List.mem_append.mp member with old | last
      · exact closed batch old
      · rw [List.mem_singleton.mp last]
        exact begun
  | cons next rest induction =>
    have here := remaining List.mem_cons_self
    have others := List.Subset.trans (List.subset_cons_self next rest)
      remaining
    simp only [observationBatchesLoop]
    split_ifs
    · apply induction others
      · intro batch member
        rcases List.mem_append.mp member with old | last
        · exact closed batch old
        · rw [List.mem_singleton.mp last]
          exact begun
      · exact List.cons_subset.mpr ⟨here, List.nil_subset _⟩
    · apply induction others closed
      exact List.append_subset.mpr ⟨begun, List.cons_subset.mpr ⟨here, List.nil_subset _⟩⟩

theorem evolutionPlan_subset (settings : SkillSettings) (observations : List Observation) :
    ∀ batch ∈ evolutionPlan settings observations,
      batch ⊆ observations := by
  intro batch member
  rcases List.mem_flatMap.mp member with ⟨kind, -, listed⟩
  have group : batch ⊆ observations.filter (·.kind = kind) := by
    apply observationBatchesLoop_subset _ _ _ batch (List.mem_of_mem_take listed)
    · exact (List.perm_insertionSort _ _).subset
    · exact nofun
    · exact List.nil_subset _
  exact List.Subset.trans group (List.filter_sublist.subset)

/-! ## What every run keeps -/

/-- The observations in the file. -/
def SkillManager.fileObservations (manager : SkillManager) :
    List Observation :=
  (manager.file.map SkillState.observations).getD []

/--
A run holds the unused observations, and has consumed whatever was used of
those that it may still name.
-/
structure EvolutionRun.Keeps (run : EvolutionRun) (log : List SkillEvent)
    (ids : List String) : Prop where
  holds : HoldsUnused log run.state.observations
  known : ∀ id ∈ ids, id ∈ (storedOf log).map Observation.id
  consumed : ∀ id ∈ ids, UsedIn log id → id ∈ run.consumed

/-- The ids of the observations in batches. -/
def batchIds (batches : List (List Observation)) : List String := batches.flatten.map Observation.id

/-- What a call in progress holds. -/
def SkillCall.Keeps (log : List SkillEvent) : SkillCall → Prop
  | .signal _ state _ => HoldsUnused log state.observations
  | .observing _ state _ _ => HoldsUnused log state.observations
  | .selecting run batch rest => run.Keeps log (batchIds (batch :: rest))
  | .drafting run candidate candidates rest =>
    run.Keeps log (candidate ++ candidates.flatten ++ batchIds rest) ∧
      ∀ id ∈ candidate, id ∉ run.consumed

/-- What every run of the manager keeps. -/
structure SkillManager.Kept (manager : SkillManager) : Prop where
  log : LogSound manager.log
  file : HoldsUnused manager.log manager.fileObservations
  call : ∀ call ∈ manager.call, call.Keeps manager.log

/-- The id that an observation draws is new. -/
def ObservationsFresh (texts : ReviewTexts) (manager : SkillManager) : SkillLabel → Prop
  | .observationAnswered (.entry _ _ draw _) =>
    texts.newId draw ∉ (storedOf manager.log).map Observation.id
  | _ => True

namespace SkillManager

variable {manager : SkillManager} {log : List SkillEvent}

variable {state : SkillState} {texts : ReviewTexts} {run : EvolutionRun}
  {rest : List (List Observation)} {candidates : List (List String)}

theorem Kept.loaded (kept : manager.Kept) (read : loadSkillState manager.file = .ok state) :
    HoldsUnused manager.log state.observations := by
  have holds := kept.file
  rw [fileObservations] at holds
  cases file : manager.file with
  | none =>
    rw [file] at read holds
    cases read
    exact holds
  | some written =>
    rw [file] at read holds
    rcases map_eq_ok.mp read with ⟨observations, each, rfl⟩
    exact holds.loaded each

theorem Kept.of_same (kept : manager.Kept) {other : SkillManager} (log : other.log = manager.log)
    (file : other.fileObservations = manager.fileObservations)
    (call : ∀ call ∈ other.call, call.Keeps manager.log) : other.Kept := by
  refine ⟨?_, ?_, ?_⟩
  · rw [log]
    exact kept.log
  · rw [log, file]
    exact kept.file
  · rw [log]
    exact call

theorem Kept.released (kept : manager.Kept) : manager.released.Kept := kept.of_same rfl rfl nofun

theorem Kept.save (kept : manager.Kept) (holds : HoldsUnused manager.log state.observations) :
    (manager.save state).Kept :=
  ⟨kept.log, holds, kept.call⟩

theorem Kept.used (kept : manager.Kept)
    (holds : HoldsUnused manager.log state.observations) (usage : LLMUsage) :
    (manager.save { state with usage := state.usage.add usage }).Kept :=
  kept.save holds

theorem Kept.await (kept : manager.Kept) {call : SkillCall} (keeps : call.Keeps manager.log) :
    ({ manager with call := some call } : SkillManager).Kept :=
  kept.of_same rfl rfl fun _ same => Option.mem_some.mp same ▸ keeps

theorem keeps_neutral {call : SkillCall} {event : SkillEvent}
    (neutral : event.Neutral) (keeps : call.Keeps log) :
    call.Keeps (log ++ [event]) := by
  have unused := @unusedOf_neutral log event neutral
  have stored := @storedOf_neutral log event neutral
  have drafts := @draftsOf_neutral log event neutral
  have runKeeps : ∀ {run : EvolutionRun} {ids : List String},
      run.Keeps log ids → run.Keeps (log ++ [event]) ids := by
    rintro run ids ⟨holds, known, consumed⟩
    refine ⟨?_, ?_, ?_⟩
    · rw [HoldsUnused, unused]
      exact holds
    · rw [stored]
      exact known
    · intro id member used
      rw [UsedIn, drafts] at used
      exact consumed id member used
  cases call with
  | signal call state batches =>
    rw [SkillCall.Keeps, HoldsUnused, unused]
    exact keeps
  | observing call state batch rest =>
    rw [SkillCall.Keeps, HoldsUnused, unused]
    exact keeps
  | selecting run batch rest => exact runKeeps keeps
  | drafting run candidate candidates rest =>
    exact ⟨runKeeps keeps.1, keeps.2⟩

theorem Kept.note (kept : manager.Kept) {event : SkillEvent}
    (neutral : event.Neutral) : (manager.note event).Kept := by
  refine ⟨kept.log.neutral neutral, ?_, ?_⟩
  · show HoldsUnused (manager.log ++ [event]) manager.fileObservations
    rw [HoldsUnused, unusedOf_neutral neutral]
    exact kept.file
  · exact fun call held => keeps_neutral neutral (kept.call call held)

theorem Kept.markObserved (kept : manager.Kept) (call : ObserveCall) :
    (manager.markObserved call).Kept := by
  have neutral : (SkillEvent.marked call).Neutral := trivial
  exact (kept.note neutral).of_same rfl rfl nofun

theorem Kept.observeNext (kept : manager.Kept) (call : ObserveCall)
    (holds : HoldsUnused manager.log state.observations)
    (batches : List ReviewBatch) :
    (manager.observeNext call state batches).Kept := by
  induction batches with
  | nil => exact kept.markObserved call
  | cons batch rest induction =>
    rw [SkillManager.observeNext]
    split_ifs
    · exact induction
    · have asked : (SkillEvent.asked call batch.ids).Neutral := trivial
      have awaiting : (SkillCall.observing call state batch rest).Keeps
        manager.log := holds
      exact (kept.note asked).await (keeps_neutral asked awaiting)

theorem Kept.beginObserving (kept : manager.Kept) (settings : SkillSettings)
    (call : ObserveCall) : (manager.beginObserving settings call).Kept := by
  rw [SkillManager.beginObserving]
  split_ifs
  · exact kept.released
  · split
    · exact kept.released
    · next state read =>
        split
        · exact kept.released
        · exact kept.observeNext call (kept.loaded read) _

theorem Kept.maybeObserve (kept : manager.Kept) (settings : SkillSettings)
    (sessionId : String) (messages : List TurnMessage)
    (explicitSignal : Bool) (assistantMessageId : Option String) :
    (manager.maybeObserve settings sessionId messages explicitSignal assistantMessageId).Kept := by
  rw [SkillManager.maybeObserve]
  dsimp only
  split_ifs
  · exact kept
  · exact kept.beginObserving settings _
  · exact kept
  · split
    · exact kept
    · next state read =>
        split
        · exact kept
        · exact kept.of_same rfl rfl (by rintro _ ⟨⟩)
        · exact kept.await (kept.loaded read)

theorem Kept.signalAnswered (kept : manager.Kept) (settings : SkillSettings)
    (call : ObserveCall) (batches : List ReviewBatch)
    (holds : HoldsUnused manager.log state.observations) (reply : SignalReply) :
    (manager.signalAnswered settings call state batches reply).Kept := by
  have saved := kept.used holds reply.usage
  rcases reply with ⟨usage, answer⟩
  match answer, batches with
  | none, _ => exact saved.released
  | some true, _ =>
    apply Kept.beginObserving
    exact saved.of_same rfl rfl saved.call
  | some false, _ :: next :: rest => exact saved.await holds
  | some false, [] => exact saved.of_same rfl rfl nofun
  | some false, [_] => exact saved.of_same rfl rfl nofun

theorem Kept.batchProcessed (kept : manager.Kept) (call : ObserveCall)
    (batch : ReviewBatch) : (manager.batchProcessed call batch).Kept := by
  have neutral : (SkillEvent.processed call batch.ids).Neutral := trivial
  have noted := kept.note neutral
  exact noted.of_same rfl rfl noted.call

theorem observeNext_released (call : ObserveCall) (state : SkillState)
    (batches : List ReviewBatch) :
    manager.released.observeNext call state batches =
      manager.observeNext call state batches := by
  induction batches with
  | nil => rfl
  | cons batch rest induction =>
    rw [SkillManager.observeNext, SkillManager.observeNext, induction]
    rfl

theorem Kept.stored (kept : manager.Kept) (idle : manager.call = none)
    (call : ObserveCall) (ids : List String)
    (holds : HoldsUnused manager.log state.observations)
    {observation : Observation}
    (fresh : observation.id ∉ (storedOf manager.log).map Observation.id)
    (tidy : observation.Tidy) :
    HoldsUnused (manager.log ++ [.stored call ids observation])
        (state.observations ++ [observation]) ∧
      ((manager.save { state with
        observations := state.observations ++ [observation] }).note
          (.stored call ids observation)).Kept := by
  have unused : ¬ UsedIn manager.log observation.id :=
    fun used => fresh (kept.log.known observation.id used)
  have grown : HoldsUnused (manager.log ++ [.stored call ids observation])
      (state.observations ++ [observation]) := by
    rw [HoldsUnused, unusedOf_stored unused]
    exact List.rel_append holds (.cons (.inl rfl) .nil)
  refine ⟨grown, kept.log.stored fresh tidy, grown, ?_⟩
  intro held same
  exact absurd (idle.symm.trans same) nofun

theorem observationKinds_stripped : ∀ kind ∈ observationKinds, Text.strip kind = kind := by
  decide

theorem parseObservation_spec {settings : SkillSettings} {sessionId : String}
    {allowedIds : List String} {entry : ObservationEntry} {draw moment : Nat}
    {observation : Observation}
    (parsed : parseObservation texts settings sessionId allowedIds entry draw
      moment = .ok observation) :
    observation.id = texts.newId draw ∧ observation.Tidy := by
  rw [parseObservation] at parsed
  rcases bind_eq_ok.mp parsed with ⟨text, bounded, parsed⟩
  split_ifs at parsed with refused
  rw [not_or, not_not] at refused
  have stripped : Text.strip text = text := by
    cases value : entry.observation with
    | none =>
      rw [value] at bounded
      cases bounded
    | some written =>
      rw [value] at bounded
      exact (boundedText_eq_ok_iff.mp bounded).2.1
  split at parsed
  · cases parsed
  · cases parsed
  · split_ifs at parsed
    cases parsed
    refine ⟨rfl, (texts.newId_short draw).1, ?_, stripped⟩
    exact observationKinds_stripped _ refused.1

theorem Kept.observationAnswered (kept : manager.Kept)
    (settings : SkillSettings) (call : ObserveCall) (batch : ReviewBatch)
    (rest : List ReviewBatch)
    (holds : HoldsUnused manager.log state.observations)
    (reply : ObservationReply)
    (fresh : ObservationsFresh texts manager (.observationAnswered reply)) :
    (manager.observationAnswered texts settings call state batch rest reply).Kept := by
  cases reply with
  | failed usage => exact (kept.used holds usage).released
  | nothing usage =>
    have processed := (kept.used holds usage).batchProcessed call batch
    apply processed.observeNext
    have neutral : (SkillEvent.processed call batch.ids).Neutral := trivial
    show HoldsUnused (manager.log ++ [.processed call batch.ids]) state.observations
    rw [HoldsUnused, unusedOf_neutral neutral]
    exact holds
  | entry usage entry draw moment =>
    rw [SkillManager.observationAnswered]
    dsimp only
    split
    · exact (kept.used holds usage).released
    · next observation parsed =>
        have made := parseObservation_spec parsed
        have drawn : observation.id ∉
            (storedOf manager.log).map Observation.id := by
          rw [made.1]
          exact fresh
        have usedHolds : HoldsUnused manager.log
          { state with usage := state.usage.add usage }.observations := holds
        have stored := kept.released.stored rfl call batch.ids usedHolds
          drawn made.2
        have neutral : (SkillEvent.processed call batch.ids).Neutral :=
          trivial
        rw [← observeNext_released]
        apply (stored.2.batchProcessed call batch).observeNext
        show HoldsUnused (manager.log ++ [.stored call batch.ids observation] ++
            [.processed call batch.ids]) _
        rw [HoldsUnused, unusedOf_neutral neutral]
        exact stored.1

theorem keeps_subset {ids fewer : List String} (keeps : run.Keeps log ids)
    (inside : fewer ⊆ ids) : run.Keeps log fewer :=
  ⟨keeps.holds, fun id member => keeps.known id (inside member),
    fun id member => keeps.consumed id (inside member)⟩

theorem keeps_used {ids : List String} (keeps : run.Keeps log ids)
    (usage : LLMUsage) : ({ run with state :=
      { run.state with usage := run.state.usage.add usage } } :
        EvolutionRun).Keeps log ids :=
  ⟨keeps.holds, keeps.known, keeps.consumed⟩

theorem evolveNext_released (run : EvolutionRun) (finishedAt : Nat)
    (rest : List (List Observation)) (candidates : List (List String)) :
    manager.released.evolveNext run finishedAt rest candidates =
      manager.evolveNext run finishedAt rest candidates := by
  induction candidates with
  | nil =>
    cases rest with
    | nil => rfl
    | cons batch later => rfl
  | cons candidate candidates induction =>
    rw [SkillManager.evolveNext, SkillManager.evolveNext, induction]
    rfl

theorem Kept.evolveNext (kept : manager.Kept) (finishedAt : Nat)
    (keeps : run.Keeps manager.log (candidates.flatten ++ batchIds rest)) :
    (manager.evolveNext run finishedAt rest candidates).Kept := by
  induction candidates with
  | nil =>
    cases rest with
    | nil =>
      rw [SkillManager.evolveNext, SkillManager.finishEvolution]
      apply Kept.released
      apply kept.save
      exact keeps.holds
    | cons batch later => exact kept.await keeps
  | cons candidate candidates induction =>
    rw [List.flatten_cons] at keeps
    rw [SkillManager.evolveNext]
    split_ifs with used
    · apply induction
      apply keeps_subset keeps
      rw [List.append_assoc]
      exact List.subset_append_right _ _
    · refine kept.await ⟨keeps, ?_⟩
      exact fun id member consumed => used ⟨id, member, consumed⟩

theorem Kept.runEvolution (kept : manager.Kept) (settings : SkillSettings) (finishedAt : Nat) :
    (manager.runEvolution settings finishedAt).Kept := by
  rw [SkillManager.runEvolution]
  split
  · exact kept
  · next state read =>
      have holds := kept.loaded read
      apply kept.evolveNext
      have planned : ∀ id ∈ [].flatten ++
          batchIds (evolutionPlan settings state.observations),
          id ∈ (storedOf manager.log).map Observation.id ∧ ¬ UsedIn manager.log id := by
        intro id member
        rcases List.mem_map.mp member with ⟨record, listed, rfl⟩
        rcases List.mem_flatten.mp listed with ⟨batch, batched, inside⟩
        exact holds.id kept.log (evolutionPlan_subset settings _ batch batched inside)
      exact ⟨holds, fun id member => (planned id member).1,
        fun id member used => absurd used (planned id member).2⟩

theorem Kept.selectionAnswered (kept : manager.Kept)
    {batch : List Observation} (finishedAt : Nat)
    (keeps : run.Keeps manager.log (batchIds (batch :: rest)))
    (reply : SelectionReply) :
    (manager.selectionAnswered run batch rest finishedAt reply).Kept := by
  have split_ : batchIds (batch :: rest) =
      batch.map Observation.id ++ batchIds rest := by
    rw [batchIds, List.flatten_cons, List.map_append]
    rfl
  rw [split_] at keeps
  have others : run.Keeps manager.log ([].flatten ++ batchIds rest) :=
    keeps_subset keeps (List.subset_append_right _ _)
  cases reply with
  | sourcesMissing => exact kept.evolveNext finishedAt others
  | failed usage =>
    exact (kept.used keeps.holds usage).evolveNext finishedAt (keeps_used others usage)
  | candidates usage raw =>
    rw [SkillManager.selectionAnswered]
    split
    · exact (kept.used keeps.holds usage).released
    · next candidates normalized =>
        apply (kept.used keeps.holds usage).evolveNext finishedAt
        apply keeps_used
        apply keeps_subset keeps
        apply List.append_subset.mpr
        refine ⟨?_, List.subset_append_right _ _⟩
        intro id member
        rcases List.mem_flatten.mp member with ⟨candidate, listed, inside⟩
        exact List.mem_append_left _
          (normalizedCandidates_subset normalized candidate listed inside)

theorem Kept.created (kept : manager.Kept) {candidate : List String}
    (keeps : run.Keeps manager.log (candidate ++ candidates.flatten ++ batchIds rest))
    (unconsumed : ∀ id ∈ candidate, id ∉ run.consumed) (name : String)
    {left : SkillState}
    (same : left.observations = run.state.observations.filter
      fun observation => observation.id ∉ candidate) :
    ((manager.released.note (.created name candidate)).save left).Kept ∧
      EvolutionRun.Keeps ⟨left, run.consumed ++ candidate⟩
        (manager.log ++ [.created name candidate])
        (candidates.flatten ++ batchIds rest) := by
  rw [List.append_assoc] at keeps
  have known := fun id member =>
    keeps.known id (List.mem_append_left _ member)
  have unused : ∀ id ∈ candidate, ¬ UsedIn manager.log id :=
    fun id member used => unconsumed id member
      (keeps.consumed id (List.mem_append_left _ member) used)
  have holds : HoldsUnused (manager.log ++ [.created name candidate])
      left.observations := by
    rw [same]
    exact keeps.holds.created kept.log name candidate
  refine ⟨⟨kept.log.created known unused, holds, nofun⟩, holds, ?_, ?_⟩
  · intro id member
    rw [storedOf_created]
    exact keeps.known id (List.mem_append_right _ member)
  · intro id member used
    rcases (usedIn_created name candidate id).mp used with before | now
    · exact List.mem_append_left _ (keeps.consumed id (List.mem_append_right _ member) before)
    · exact List.mem_append_right _ now

theorem Kept.draftAnswered (kept : manager.Kept) {candidate : List String}
    (finishedAt : Nat) (keeps : run.Keeps manager.log
      (candidate ++ candidates.flatten ++ batchIds rest))
    (unconsumed : ∀ id ∈ candidate, id ∉ run.consumed) (reply : DraftReply) :
    (manager.draftAnswered run candidate candidates rest finishedAt reply).Kept := by
  have others : run.Keeps manager.log
      (candidates.flatten ++ batchIds rest) := by
    apply keeps_subset keeps
    rw [List.append_assoc]
    exact List.subset_append_right _ _
  cases reply with
  | sourcesMissing => exact kept.evolveNext finishedAt others
  | none usage =>
    exact (kept.used keeps.holds usage).evolveNext finishedAt (keeps_used others usage)
  | raised usage => exact (kept.used keeps.holds usage).released
  | created usage name =>
    rw [SkillManager.draftAnswered, ← evolveNext_released]
    have created := kept.created keeps unconsumed name
      (rfl : ({ run.state with
        observations := run.state.observations.filter fun observation =>
          observation.id ∉ candidate
        usage := run.state.usage.add usage } : SkillState).observations = _)
    exact created.1.evolveNext finishedAt created.2

theorem Kept.reschedule (kept : manager.Kept) (moment : Nat) :
    (manager.reschedule moment).Kept := by
  rw [SkillManager.reschedule]
  split
  · exact kept
  · next state read =>
      have holds := kept.loaded read
      apply kept.save
      exact holds

theorem Kept.next (kept : manager.Kept) {settings : SkillSettings}
    {label : SkillLabel} {target : SkillManager}
    (fresh : ObservationsFresh texts manager label)
    (stepped : manager.step texts settings label = some target) :
    target.Kept := by
  cases label with
  | maybeObserve sessionId messages explicitSignal assistantMessageId =>
    simp only [SkillManager.step] at stepped
    split at stepped
    · cases stepped
      exact kept.maybeObserve settings sessionId messages explicitSignal assistantMessageId
    · cases stepped
  | signalAnswered reply =>
    simp only [SkillManager.step] at stepped
    split at stepped
    · next call state batches held =>
        cases stepped
        exact kept.signalAnswered settings call batches (kept.call _ held) reply
    · cases stepped
  | observationAnswered reply =>
    simp only [SkillManager.step] at stepped
    split at stepped
    · next call state batch rest held =>
        cases stepped
        exact kept.observationAnswered settings call batch rest (kept.call _ held) reply fresh
    · cases stepped
  | runEvolution finishedAt =>
    simp only [SkillManager.step] at stepped
    split at stepped
    · cases stepped
      exact kept.runEvolution settings finishedAt
    · cases stepped
  | selectionAnswered reply finishedAt =>
    simp only [SkillManager.step] at stepped
    split at stepped
    · next run batch rest held =>
        cases stepped
        exact kept.selectionAnswered finishedAt (kept.call _ held) reply
    · cases stepped
  | draftAnswered reply finishedAt =>
    simp only [SkillManager.step] at stepped
    split at stepped
    · next run candidate candidates rest held =>
        cases stepped
        have keeps := kept.call _ held
        exact kept.draftAnswered finishedAt keeps.1 keeps.2 reply
    · cases stepped
  | interrupted =>
    simp only [SkillManager.step] at stepped
    split at stepped
    · cases stepped
      exact kept.released
    · cases stepped
  | deferAfterFailure now =>
    simp only [SkillManager.step] at stepped
    split at stepped
    · cases stepped
      exact kept.reschedule now
    · cases stepped
  | initializeSchedule now =>
    cases stepped
    rw [SkillManager.initializeSchedule]
    split
    · exact kept
    · split_ifs
      · exact kept
      · exact kept.reschedule now
  | restart =>
    cases stepped
    exact kept.of_same rfl rfl nofun

end SkillManager

/--
Whatever the calls do, no observation is used by two created drafts, what a
draft was created from is no longer in the file, and every other observation
that was stored is still in the file, with its content.
-/
theorem evidence_used_once {texts : ReviewTexts} {settings : SkillSettings}
    {manager : SkillManager}
    (reached : (skillEvolution texts settings).Reaches (ObservationsFresh texts) manager) :
    (draftsOf manager.log).Pairwise List.Disjoint ∧ (∀ observation ∈ storedOf manager.log,
        (∃ ids ∈ draftsOf manager.log, observation.id ∈ ids) ∨
          ∃ record ∈ manager.fileObservations, SameContent observation record) ∧
      ∀ record ∈ manager.fileObservations, ∀ ids ∈ draftsOf manager.log,
        record.id ∉ ids := by
  have kept : manager.Kept := by
    apply reached.invariant
    · rintro _ rfl
      exact ⟨⟨List.nodup_nil, nofun, .nil, fun _ used =>
        absurd used (by simp [UsedIn, draftsOf, SkillManager.started])⟩,
        .nil, nofun⟩
    · exact fun _ _ _ _ kept fresh stepped => kept.next fresh stepped
  refine ⟨kept.log.disjoint, ?_, ?_⟩
  · intro observation stored
    by_cases used : UsedIn manager.log observation.id
    · exact .inl used
    · have unused : observation ∈ unusedOf manager.log :=
        List.mem_filter.mpr ⟨stored, by simpa using used⟩
      rcases kept.file.exists_record unused with ⟨record, member, same⟩
      have tidy := kept.log.tidy observation stored
      exact .inr ⟨record, member, same.sameContent tidy⟩
  · intro record member ids created used
    exact (kept.file.id kept.log member).2 ⟨ids, created, used⟩

instance (texts : ReviewTexts) (manager : SkillManager)
    (label : SkillLabel) : Decidable (ObservationsFresh texts manager label) := by
  unfold ObservationsFresh
  split <;> infer_instance

/-- A kind is settled after each turn, and nothing costs a token. -/
def eagerSettings : SkillSettings where
  turnInterval := 1
  observationLimit := 100
  reviewWindowLimit := 10
  batchLimit := 100
  batchesPerKind := 3
  countTokens _ := 0
  turnIntervalPositive := Nat.one_pos

/-- A completed turn of a session. -/
def greeting : List TurnMessage := [⟨⟨"m1", "session", "user", 1, 0⟩, false⟩,
    ⟨⟨"m2", "session", "assistant", 1, 1⟩, false⟩]

/-- An observation is stored, and is then named by two candidates. -/
def namedTwice : List SkillLabel := [.maybeObserve "session" greeting false none,
    .observationAnswered (.entry ⟨1, 1, 2⟩
      ⟨"workflow", some "Greet first.", some ["m1"]⟩ 0 0),
    .runEvolution 0,
    .selectionAnswered (.candidates ⟨1, 1, 2⟩
      [⟨some ["breakbeat_0"], .fits⟩, ⟨some ["breakbeat_0"], .fits⟩]) 0,
    .draftAnswered (.created ⟨1, 1, 2⟩ "greeting") 0]

theorem evidence_used_once_namedTwice : ∃ manager,
      (skillEvolution numberedTexts eagerSettings).Reaches
        (ObservationsFresh numberedTexts) manager ∧
      draftsOf manager.log = [["breakbeat_0"]] ∧
      (draftsOf manager.log).Pairwise List.Disjoint ∧
      (∀ observation ∈ storedOf manager.log, (∃ ids ∈ draftsOf manager.log, observation.id ∈ ids) ∨
          ∃ record ∈ manager.fileObservations, SameContent observation record) ∧
      ∀ record ∈ manager.fileObservations, ∀ ids ∈ draftsOf manager.log,
        record.id ∉ ids := by
  have evaluated :
      (skillEvolution numberedTexts eagerSettings).runGuarded
        (ObservationsFresh numberedTexts) (.started none []) namedTwice =
          some _ := rfl
  have reached := Machine.Reaches.runGuarded (.start rfl) evaluated
  exact ⟨_, reached, rfl, evidence_used_once reached⟩

end TurningGood.Proactive
