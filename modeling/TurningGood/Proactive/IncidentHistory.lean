import Mathlib.Data.List.Nodup
import TurningGood.Proactive.IncidentMonitor

/-!
# What the incidents tell

A call moves the record of its own fingerprint and no other.  What it does to
this record is one of a few moves, and each move keeps that the history
alternates, that it ends with the current state, that the failures are
counted, and that the notifications are those of the change.
-/

namespace TurningGood.Proactive

open TurningGood.Foundation

variable {principalId : Option String}

/-- What stands at a place of a history. -/
def stateAtPlace (place : Nat) : IncidentState :=
  if place % 2 = 0 then .opened else .resolved

/-- Opened and resolved in turn, opened first. -/
def Alternates (states : List IncidentState) : Prop :=
  ∀ place state, states[place]? = some state → state = stateAtPlace place

theorem Alternates.append {states : List IncidentState} (alternates : Alternates states) :
    Alternates (states ++ [stateAtPlace states.length]) := by
  intro place state found
  rcases Nat.lt_or_ge place states.length with inside | behind
  · rw [List.getElem?_append_left inside] at found
    exact alternates place state found
  · rw [List.getElem?_append_right behind] at found
    have last : place = states.length := by
      have bound := (List.getElem?_eq_some_iff.mp found).1
      rw [List.length_singleton] at bound
      omega
    rw [last, Nat.sub_self] at found
    cases found
    rw [last]

theorem Alternates.next {states : List IncidentState} {last : IncidentState}
    (alternates : Alternates states) (ends : states.getLast? = some last) :
    stateAtPlace states.length =
      if last = .opened then .resolved else .opened := by
  rw [List.getLast?_eq_getElem?] at ends
  have inside := (List.getElem?_eq_some_iff.mp ends).1
  have turn := alternates _ _ ends
  rcases Nat.mod_two_eq_zero_or_one states.length with even | odd
  · have odd : ¬ (states.length - 1) % 2 = 0 := by omega
    rw [turn, stateAtPlace, stateAtPlace, if_pos even, if_neg odd]
    rfl
  · have even : (states.length - 1) % 2 = 0 := by omega
    rw [turn, stateAtPlace, stateAtPlace, if_neg (by omega), if_pos even]
    rfl

/-! ## Failures that were reported -/

namespace IncidentCall

/-- The call reports a failure of a fingerprint. -/
def fails (fingerprint : String) : IncidentCall → Bool
  | .reportFailure named _ _ _ => named == fingerprint
  | _ => false

/-- The call deletes the incident of a fingerprint. -/
def deletes (fingerprint : String) : IncidentCall → Bool
  | .deleteByFingerprint named => named == fingerprint
  | _ => false

/-- The call asks for a notification. -/
def notifies : IncidentCall → Bool
  | .reportFailure _ _ _ notify => notify
  | .reportRecovery _ _ _ notify => notify
  | _ => false

/-- The call reports a recovery. -/
def recovers : IncidentCall → Bool
  | .reportRecovery _ _ _ _ => true
  | _ => false

/-- The message of a report. -/
def message : IncidentCall → String
  | .reportFailure _ _ message _ => message
  | .reportRecovery _ _ message _ => message
  | _ => ""

end IncidentCall

/--
The failures of a fingerprint since its incident was created: those behind
the last deletion, of which the first one creates the incident.
-/
def failuresSinceCreation (fingerprint : String) (calls : List IncidentCall) : Nat :=
  (calls.takeWhile fun call => !call.deletes fingerprint).countP (IncidentCall.fails fingerprint)

theorem failuresSinceCreation_cons (fingerprint : String)
    (call : IncidentCall) (calls : List IncidentCall) :
    failuresSinceCreation fingerprint (call :: calls) =
      if call.deletes fingerprint then 0
      else failuresSinceCreation fingerprint calls +
        if call.fails fingerprint then 1 else 0 := by
  rw [failuresSinceCreation, failuresSinceCreation, List.takeWhile_cons]
  cases call.deletes fingerprint with
  | true => rfl
  | false => exact List.countP_cons

theorem failuresSinceCreation_other {fingerprint : String}
    {call : IncidentCall} (other : fingerprint ≠ call.fingerprint)
    (calls : List IncidentCall) :
    failuresSinceCreation fingerprint (call :: calls) =
      failuresSinceCreation fingerprint calls := by
  have fails : call.fails fingerprint = false := by
    cases call with
    | reportFailure named source message notify =>
      exact beq_false_of_ne other.symm
    | _ => rfl
  have deletes : call.deletes fingerprint = false := by
    cases call with
    | deleteByFingerprint named => exact beq_false_of_ne other.symm
    | _ => rfl
  rw [failuresSinceCreation_cons, fails, deletes]
  rfl

/-! ## What a call does to its record -/

/-- The record of a fingerprint. -/
def recordOf (stored : List Incident) (fingerprint : String) :
    Option Incident :=
  stored.find? fun incident => incident.fingerprint == fingerprint

/-- What a call does to the record of its fingerprint. -/
inductive RecordMove (principalId : Option String) (setting : CallSetting) :
    IncidentCall → Option Incident → Option Incident → List IncidentNotification → Prop
  | created (fingerprint source message : String) (notify : Bool) :
      RecordMove principalId setting (.reportFailure fingerprint source message notify) none
        (some (newIncident setting fingerprint source message))
        (if notify then [openedNotification principalId fingerprint message]
          else [])
  | recurred (fingerprint source message : String) (notify : Bool)
      (incident : Incident) (isOpen : incident.state = .opened) :
      RecordMove principalId setting
        (.reportFailure fingerprint source message notify) (some incident)
        (some (incident.recur setting)) []
  | reopened (fingerprint source message : String) (notify : Bool)
      (incident : Incident) (isResolved : incident.state = .resolved) :
      RecordMove principalId setting
        (.reportFailure fingerprint source message notify) (some incident)
        (some (incident.reopen setting message))
        (if notify then [openedNotification principalId fingerprint message]
          else [])
  | recovered (fingerprint source message : String) (notify : Bool)
      (incident : Incident) (isOpen : incident.state = .opened) :
      RecordMove principalId setting
        (.reportRecovery fingerprint source message notify) (some incident)
        (some (incident.recover setting message))
        (if notify then
          [resolvedNotification principalId fingerprint message] else [])
  | confirmed (fingerprint : String) (incident : Incident)
      (isOpen : incident.state = .opened) :
      RecordMove principalId setting (.resolveByFingerprint fingerprint)
        (some incident) (some (incident.confirm setting)) []
  | untouched (call : IncidentCall) (record : Option Incident)
      (resolving : call.recovers = true ∨ ∃ fingerprint, call = .resolveByFingerprint fingerprint)
      (notOpen : record.map Incident.state ≠ some .opened) :
      RecordMove principalId setting call record record []
  | deleted (fingerprint : String) (record : Option Incident) :
      RecordMove principalId setting (.deleteByFingerprint fingerprint) record none []

/-- What a call does to the saved records. -/
structure MovesOwnRecord (principalId : Option String)
    (setting : CallSetting) (call : IncidentCall)
    (stored left : List Incident) (attempted : List IncidentNotification) :
    Prop where
  own : RecordMove principalId setting call
    (recordOf stored call.fingerprint) (recordOf left call.fingerprint)
    attempted
  others : ∀ fingerprint, fingerprint ≠ call.fingerprint →
    recordOf left fingerprint = recordOf stored fingerprint
  unique : (left.map Incident.fingerprint).Nodup

theorem indexForFingerprint_cases (stored : List Incident) (fingerprint : String) :
    (indexForFingerprint stored fingerprint = none ∧ recordOf stored fingerprint = none) ∨
      ∃ index incident, indexForFingerprint stored fingerprint = some index ∧
        stored[index]? = some incident ∧
        recordOf stored fingerprint = some incident ∧
        incident.fingerprint = fingerprint := by
  cases found : indexForFingerprint stored fingerprint with
  | none =>
    refine .inl ⟨rfl, ?_⟩
    rw [indexForFingerprint, List.findIdx?_eq_none_iff] at found
    rw [recordOf, List.find?_eq_none]
    intro incident member
    rw [found incident member]
    exact Bool.false_ne_true
  | some index =>
    rw [indexForFingerprint] at found
    rcases getElem?_of_findIdx? found with ⟨incident, present, same⟩
    refine .inr ⟨index, incident, rfl, present, ?_, beq_iff_eq.mp same⟩
    rw [recordOf, List.find?_eq_some_iff_getElem]
    rcases List.findIdx?_eq_some_iff_getElem.mp found with ⟨inside, -, missed⟩
    rw [List.getElem?_eq_getElem inside] at present
    exact ⟨same, index, inside, Option.some.inj present,
      fun place before => by simpa using missed place before⟩

theorem recordOf_modify {stored : List Incident} {fingerprint : String}
    {index : Nat} {change : Incident → Incident}
    (found : indexForFingerprint stored fingerprint = some index)
    (keeps : ∀ incident, (change incident).fingerprint = incident.fingerprint) (named : String) :
    recordOf (stored.modify index change) named =
      if named = fingerprint then (recordOf stored fingerprint).map change
      else recordOf stored named := by
  split_ifs with same
  · rw [same]
    apply find?_modify found
    intro incident passes
    rw [keeps]
    exact passes
  · apply find?_modify_other found
    · intro incident passes
      have other : incident.fingerprint ≠ named :=
        fun equal => same (equal.symm.trans (beq_iff_eq.mp passes))
      exact ⟨beq_false_of_ne other, beq_false_of_ne ((keeps incident).trans_ne other)⟩

theorem recordOf_filter (stored : List Incident) (fingerprint named : String) :
    recordOf (stored.filter fun record => record.fingerprint != fingerprint) named =
      if named = fingerprint then none else recordOf stored named := by
  rw [recordOf, List.find?_filter]
  split_ifs with same
  · rw [List.find?_eq_none]
    intro record _
    simp [same]
  · apply congrArg (stored.find? ·)
    funext record
    by_cases equal : record.fingerprint = named
    · simp [equal, same]
    · simp [equal]

section Moves

variable {principalId : Option String} {setting : CallSetting}
  {stored : List Incident}

theorem loadIncidents_eq_ok (positive : ∀ incident ∈ stored, 1 ≤ incident.occurrenceCount)
    (unique : (stored.map Incident.fingerprint).Nodup) :
    loadIncidents stored = .ok stored := by
  rw [loadIncidents, if_neg, if_neg (not_not.mpr unique)]
  rintro ⟨incident, member, none⟩
  exact absurd (positive incident member) (by omega)

theorem movesOwnRecord_modify {call : IncidentCall} {index : Nat}
    {incident : Incident} {change : Incident → Incident}
    {attempted : List IncidentNotification}
    (unique : (stored.map Incident.fingerprint).Nodup)
    (found : indexForFingerprint stored call.fingerprint = some index)
    (record : recordOf stored call.fingerprint = some incident)
    (keeps : ∀ incident, (change incident).fingerprint = incident.fingerprint)
    (moved : RecordMove principalId setting call (some incident)
      (some (change incident)) attempted) :
    MovesOwnRecord principalId setting call stored
      (stored.modify index change) attempted where
  own := by
    rw [recordOf_modify found keeps, if_pos rfl, record]
    exact moved
  others named other := by
    rw [recordOf_modify found keeps, if_neg other]
  unique := by
    rw [map_modify_of_keeps keeps]
    exact unique

theorem movesOwnRecord_same {call : IncidentCall}
    {attempted : List IncidentNotification}
    (unique : (stored.map Incident.fingerprint).Nodup)
    (moved : RecordMove principalId setting call
      (recordOf stored call.fingerprint) (recordOf stored call.fingerprint)
      attempted) :
    MovesOwnRecord principalId setting call stored stored attempted :=
  ⟨moved, fun _ _ => rfl, unique⟩

variable (loaded : loadIncidents stored = .ok stored)
  (unique : (stored.map Incident.fingerprint).Nodup)

include loaded unique

theorem reportFailure_moves (fingerprint source message : String) (notify : Bool) :
    MovesOwnRecord principalId setting (.reportFailure fingerprint source message notify) stored
      (reportFailure principalId stored setting fingerprint source message notify).stored
      (reportFailure principalId stored setting fingerprint source message notify).attempted := by
  rw [reportFailure, loaded]
  dsimp only
  rcases indexForFingerprint_cases stored fingerprint with
    ⟨missing, absent⟩ | ⟨index, incident, found, present, record, named⟩
  · rw [missing]
    have fresh : recordOf
        (stored ++ [newIncident setting fingerprint source message])
        fingerprint =
          some (newIncident setting fingerprint source message) := by
      rw [recordOf, List.find?_append, ← recordOf, absent]
      simp [newIncident]
    refine ⟨?_, ?_, ?_⟩
    · rw [IncidentCall.fingerprint, fresh, absent]
      exact .created fingerprint source message notify
    · intro other different
      have missed : ((newIncident setting fingerprint source message).fingerprint
          == other) = false := beq_false_of_ne (Ne.symm different)
      rw [recordOf, List.find?_append, List.find?_cons, missed]
      exact Option.or_none
    · rw [recordOf, List.find?_eq_none] at absent
      rw [List.map_append, List.nodup_append]
      refine ⟨unique, by simp, ?_⟩
      intro old member new last
      rw [List.map_singleton, List.mem_singleton] at last
      rcases List.mem_map.mp member with ⟨record, stays, rfl⟩
      rw [last]
      exact fun same => absent record stays (beq_iff_eq.mpr same)
  · rw [found]
    dsimp only
    rw [present, Option.map_some]
    cases state : incident.state with
    | opened =>
      rw [if_pos rfl]
      exact movesOwnRecord_modify unique found record (fun _ => rfl)
        (.recurred fingerprint source message notify incident state)
    | resolved =>
      rw [if_neg (by simp)]
      exact movesOwnRecord_modify unique found record (fun _ => rfl)
        (.reopened fingerprint source message notify incident state)

theorem reportRecovery_moves (fingerprint source message : String) (notify : Bool) :
    MovesOwnRecord principalId setting (.reportRecovery fingerprint source message notify) stored
      (reportRecovery principalId stored setting fingerprint message notify).stored
      (reportRecovery principalId stored setting fingerprint message notify).attempted := by
  rw [reportRecovery, loaded]
  dsimp only
  rcases indexForFingerprint_cases stored fingerprint with
    ⟨missing, absent⟩ | ⟨index, incident, found, present, record, named⟩
  · rw [missing]
    apply movesOwnRecord_same unique
    apply RecordMove.untouched _ _ (.inl rfl)
    rw [IncidentCall.fingerprint, absent]
    exact nofun
  · rw [found]
    dsimp only
    rw [present, Option.map_some]
    cases state : incident.state with
    | opened =>
      rw [if_neg (by simp)]
      exact movesOwnRecord_modify unique found record (fun _ => rfl)
        (.recovered fingerprint source message notify incident state)
    | resolved =>
      rw [if_pos rfl]
      apply movesOwnRecord_same unique
      apply RecordMove.untouched _ _ (.inl rfl)
      rw [IncidentCall.fingerprint, record, Option.map_some, state]
      simp

theorem resolveByFingerprint_moves (fingerprint : String) :
    MovesOwnRecord principalId setting (.resolveByFingerprint fingerprint)
      stored (resolveByFingerprint stored setting fingerprint).stored
      (resolveByFingerprint stored setting fingerprint).attempted := by
  rw [resolveByFingerprint, loaded]
  dsimp only
  rcases indexForFingerprint_cases stored fingerprint with
    ⟨missing, absent⟩ | ⟨index, incident, found, present, record, named⟩
  · rw [missing]
    apply movesOwnRecord_same unique
    apply RecordMove.untouched _ _ (.inr ⟨fingerprint, rfl⟩)
    rw [IncidentCall.fingerprint, absent]
    exact nofun
  · rw [found]
    dsimp only
    rw [present, Option.map_some]
    cases state : incident.state with
    | opened =>
      rw [if_neg (by simp)]
      exact movesOwnRecord_modify unique found record (fun _ => rfl)
        (.confirmed fingerprint incident state)
    | resolved =>
      rw [if_pos rfl]
      apply movesOwnRecord_same unique
      apply RecordMove.untouched _ _ (.inr ⟨fingerprint, rfl⟩)
      rw [IncidentCall.fingerprint, record, Option.map_some, state]
      simp

theorem deleteByFingerprint_moves (fingerprint : String) :
    MovesOwnRecord principalId setting (.deleteByFingerprint fingerprint)
      stored (deleteByFingerprint stored setting fingerprint).stored
      (deleteByFingerprint stored setting fingerprint).attempted := by
  have filtered : MovesOwnRecord principalId setting
      (.deleteByFingerprint fingerprint) stored
      (stored.filter fun record => record.fingerprint != fingerprint) [] := by
    refine ⟨?_, ?_, ?_⟩
    · rw [IncidentCall.fingerprint, recordOf_filter, if_pos rfl]
      exact .deleted fingerprint _
    · intro named other
      rw [recordOf_filter]
      exact if_neg other
    · exact unique.sublist (List.filter_sublist.map _)
  rw [deleteByFingerprint, loaded]
  dsimp only
  split_ifs with kept
  · -- Nothing was removed, so the filtered list is the saved one.
    have whole : stored.filter (fun record =>
        record.fingerprint != fingerprint) = stored := by
      apply List.filter_sublist.eq_of_length_le
      omega
    rw [whole] at filtered
    exact filtered
  · exact filtered

theorem handle_moves (call : IncidentCall) : MovesOwnRecord principalId setting call stored
      (call.handle principalId stored setting).1
      (call.handle principalId stored setting).2 := by
  cases call with
  | reportFailure fingerprint source message notify =>
    exact reportFailure_moves loaded unique fingerprint source message notify
  | reportRecovery fingerprint source message notify =>
    exact reportRecovery_moves loaded unique fingerprint source message notify
  | resolveByFingerprint fingerprint =>
    exact resolveByFingerprint_moves loaded unique fingerprint
  | deleteByFingerprint fingerprint =>
    exact deleteByFingerprint_moves loaded unique fingerprint

end Moves

/-- What a record says agrees with the calls that were made. -/
structure Incident.Sound (incident : Incident)
    (calls : List IncidentCall) : Prop where
  alternates : Alternates (incident.history.map HistoryEntry.state)
  current : (incident.history.map HistoryEntry.state).getLast? = some incident.state
  counted : incident.occurrenceCount = failuresSinceCreation incident.fingerprint calls
  positive : 1 ≤ incident.occurrenceCount

/-- A fingerprint without a record has no failures behind its deletion. -/
def RecordSound (calls : List IncidentCall) (fingerprint : String) : Option Incident → Prop
  | none => failuresSinceCreation fingerprint calls = 0
  | some incident =>
    incident.fingerprint = fingerprint ∧ incident.Sound calls

theorem Incident.Sound.turns {incident : Incident}
    {calls : List IncidentCall} (sound : incident.Sound calls)
    {next : HistoryEntry} (turn : next.state ≠ incident.state) :
    Alternates ((incident.history ++ [next]).map HistoryEntry.state) := by
  have alternates := sound.alternates.append
  rw [sound.alternates.next sound.current] at alternates
  rw [List.map_append, List.map_singleton]
  have turned :
      (if incident.state = .opened then .resolved else .opened) =
        next.state := by
    cases state : incident.state with
    | opened =>
      cases other : next.state with
      | opened => exact absurd (other.trans state.symm) turn
      | resolved => rfl
    | resolved =>
      cases other : next.state with
      | opened => rfl
      | resolved => exact absurd (other.trans state.symm) turn
  rw [turned] at alternates
  exact alternates

theorem getLast?_history (history : List HistoryEntry) (next : HistoryEntry) :
    ((history ++ [next]).map HistoryEntry.state).getLast? =
      some next.state := by
  rw [List.map_append, List.map_singleton, List.getLast?_concat]

section Step

variable {principalId : Option String} {setting : CallSetting}
  {call : IncidentCall} {before after : Option Incident}
  {attempted : List IncidentNotification} {calls : List IncidentCall}

theorem RecordMove.recorded (moved : RecordMove principalId setting call before after attempted)
    (recorded : RecordSound calls call.fingerprint before) :
    RecordSound (call :: calls) call.fingerprint after := by
  cases moved with
  | created fingerprint source message notify =>
    have once : failuresSinceCreation fingerprint
        (.reportFailure fingerprint source message notify :: calls) = 1 := by
      have none : failuresSinceCreation fingerprint calls = 0 := recorded
      rw [failuresSinceCreation_cons, none]
      simp [IncidentCall.deletes, IncidentCall.fails]
    have none : Alternates [] := nofun
    exact ⟨rfl, none.append, rfl, once.symm, Nat.le_refl 1⟩
  | recurred fingerprint source message notify incident isOpen =>
    rcases recorded with ⟨rfl, sound⟩
    refine ⟨rfl, sound.alternates, sound.current, ?_, ?_⟩
    · rw [failuresSinceCreation_cons]
      simp [IncidentCall.deletes, IncidentCall.fails, Incident.recur, sound.counted]
    · exact Nat.le_add_left 1 _
  | reopened fingerprint source message notify incident isResolved =>
    rcases recorded with ⟨rfl, sound⟩
    refine ⟨rfl, ?_, getLast?_history _ _, ?_, ?_⟩
    · exact sound.turns (by simp [isResolved])
    · rw [failuresSinceCreation_cons]
      simp [IncidentCall.deletes, IncidentCall.fails, Incident.reopen, sound.counted]
    · exact Nat.le_add_left 1 _
  | recovered fingerprint source message notify incident isOpen =>
    rcases recorded with ⟨rfl, sound⟩
    refine ⟨rfl, ?_, getLast?_history _ _, ?_, sound.positive⟩
    · exact sound.turns (by simp [isOpen])
    · rw [failuresSinceCreation_cons]
      exact sound.counted
  | confirmed fingerprint incident isOpen =>
    rcases recorded with ⟨rfl, sound⟩
    refine ⟨rfl, ?_, getLast?_history _ _, ?_, sound.positive⟩
    · exact sound.turns (by simp [isOpen])
    · rw [failuresSinceCreation_cons]
      exact sound.counted
  | untouched _ _ resolving notOpen =>
    have same : failuresSinceCreation call.fingerprint (call :: calls) =
        failuresSinceCreation call.fingerprint calls := by
      rw [failuresSinceCreation_cons]
      rcases resolving with recovers | ⟨fingerprint, rfl⟩
      · cases call with
        | reportRecovery fingerprint source message notify => rfl
        | _ => cases recovers
      · rfl
    cases before with
    | none => exact same.trans recorded
    | some incident =>
      rcases recorded with ⟨named, sound⟩
      refine ⟨named, sound.alternates, sound.current, ?_, sound.positive⟩
      rw [named, same, ← named]
      exact sound.counted
  | deleted fingerprint record =>
    show failuresSinceCreation fingerprint (.deleteByFingerprint fingerprint :: calls) = 0
    rw [failuresSinceCreation_cons]
    simp [IncidentCall.deletes]

theorem RecordSound.other {fingerprint : String} (other : fingerprint ≠ call.fingerprint)
    (recorded : RecordSound calls fingerprint before) :
    RecordSound (call :: calls) fingerprint before := by
  have same := failuresSinceCreation_other other calls
  cases before with
  | none => exact same.trans recorded
  | some incident =>
    rcases recorded with ⟨rfl, sound⟩
    exact ⟨rfl, sound.alternates, sound.current, sound.counted.trans same.symm, sound.positive⟩

end Step

/-! ## Notifications that are due -/

namespace HandledCall

variable (handled : HandledCall)

/-- The call changed the health of its fingerprint to open. -/
def Opens : Prop := handled.before ≠ some .opened ∧ handled.after = some .opened

/-- A recovery changed the health of its fingerprint from open. -/
def Recovers : Prop := handled.call.recovers = true ∧ handled.before = some .opened ∧
    handled.after = some .resolved

instance : Decidable handled.Opens := inferInstanceAs (Decidable (_ ∧ _))

instance : Decidable handled.Recovers := inferInstanceAs (Decidable (_ ∧ _))

/-- The notifications of a call, unless it asks for none. -/
def due (principalId : Option String) : List IncidentNotification :=
  if handled.call.notifies = false then
    []
  else if handled.Opens then
    [openedNotification principalId handled.call.fingerprint handled.call.message]
  else if handled.Recovers then
    [resolvedNotification principalId handled.call.fingerprint handled.call.message]
  else
    []

end HandledCall

theorem ite_eq_not {notify : Bool} {Item : Type} (item : Item) :
    (if notify then [item] else []) =
      if notify = false then [] else [item] := by
  cases notify with
  | true => rfl
  | false => rfl

theorem RecordMove.notified {setting : CallSetting} {call : IncidentCall}
    {before after : Option Incident} {attempted : List IncidentNotification}
    (moved : RecordMove principalId setting call before after attempted) :
    attempted = HandledCall.due ⟨call, before.map Incident.state,
      after.map Incident.state, attempted⟩ principalId := by
  cases moved with
  | created fingerprint source message notify =>
    rw [ite_eq_not]
    rfl
  | recurred fingerprint source message notify incident isOpen =>
    cases notify with
    | false => rfl
    | true => simp [HandledCall.due, HandledCall.Opens,
        HandledCall.Recovers, IncidentCall.notifies, IncidentCall.recovers,
        isOpen]
  | reopened fingerprint source message notify incident isResolved =>
    cases notify with
    | false => rfl
    | true => simp [HandledCall.due, HandledCall.Opens,
        IncidentCall.notifies, IncidentCall.fingerprint,
        IncidentCall.message, Incident.reopen, isResolved]
  | recovered fingerprint source message notify incident isOpen =>
    cases notify with
    | false => rfl
    | true => simp [HandledCall.due, HandledCall.Opens,
        HandledCall.Recovers, IncidentCall.notifies, IncidentCall.recovers,
        IncidentCall.fingerprint, IncidentCall.message, Incident.recover,
        isOpen]
  | confirmed fingerprint incident isOpen => rfl
  | deleted fingerprint record => rfl
  | untouched _ _ resolving notOpen =>
    have noOpening : ¬ HandledCall.Opens ⟨call, before.map Incident.state,
        before.map Incident.state, []⟩ := fun opens => notOpen opens.2
    have noRecovery : ¬ HandledCall.Recovers
        ⟨call, before.map Incident.state, before.map Incident.state, []⟩ :=
      fun recovers => notOpen recovers.2.1
    rw [HandledCall.due, if_neg noOpening, if_neg noRecovery, ite_self]

/-! ## Every run -/

/-- What every run keeps. -/
structure MonitorState.Kept (principalId : Option String)
    (state : MonitorState) : Prop where
  unique : (state.stored.map Incident.fingerprint).Nodup
  recorded : ∀ fingerprint, RecordSound state.calls fingerprint (recordOf state.stored fingerprint)
  notified : ∀ handled ∈ state.handled, handled.attempted = handled.due principalId

theorem recordOf_of_mem {stored : List Incident} {incident : Incident}
    (unique : (stored.map Incident.fingerprint).Nodup)
    (member : incident ∈ stored) :
    recordOf stored incident.fingerprint = some incident := by
  cases found : recordOf stored incident.fingerprint with
  | none =>
    rw [recordOf, List.find?_eq_none] at found
    exact absurd (beq_self_eq_true _) (found incident member)
  | some record =>
    have same : record.fingerprint = incident.fingerprint := by
      have passes := List.find?_some found
      exact beq_iff_eq.mp passes
    rw [List.inj_on_of_nodup_map unique (List.mem_of_find?_eq_some found) member same]

theorem MonitorState.Kept.sound {state : MonitorState} (kept : state.Kept principalId) :
    ∀ incident ∈ state.stored, incident.Sound state.calls := by
  intro incident member
  have recorded := kept.recorded incident.fingerprint
  rw [recordOf_of_mem kept.unique member] at recorded
  exact recorded.2

theorem MonitorState.Kept.step {state target : MonitorState}
    {label : IncidentCall × CallSetting} (kept : state.Kept principalId)
    (stepped : (incidentMachine principalId).step state label =
      some target) : target.Kept principalId := by
  have loaded := loadIncidents_eq_ok
    (fun incident member => (kept.sound incident member).positive)
    kept.unique
  have moves : MovesOwnRecord principalId label.2 label.1 state.stored _ _ :=
    handle_moves loaded kept.unique label.1
  cases stepped
  refine ⟨moves.unique, ?_, ?_⟩
  · intro fingerprint
    by_cases own : fingerprint = label.1.fingerprint
    · rw [own]
      exact moves.own.recorded (kept.recorded label.1.fingerprint)
    · have same := moves.others fingerprint own
      dsimp only
      rw [same]
      exact (kept.recorded fingerprint).other own
  · intro handled member
    rcases List.mem_cons.mp member with rfl | earlier
    · exact moves.own.notified
    · exact kept.notified handled earlier

/--
After every sequence of calls the fingerprints are unique, every record is
sound, and every call attempted the notifications that were due: one of its
change, if there was a change and the call did not ask for none.
-/
theorem incidents_of_calls {principalId : Option String}
    {state : MonitorState}
    (reached : (incidentMachine principalId).Reachable state) :
    (state.stored.map Incident.fingerprint).Nodup ∧
      (∀ incident ∈ state.stored, incident.Sound state.calls) ∧
      ∀ handled ∈ state.handled,
        handled.attempted = handled.due principalId := by
  have kept : state.Kept principalId := by
    apply Machine.Reaches.invariant _ _ reached
    · rintro state rfl
      exact ⟨List.nodup_nil, fun _ => rfl, nofun⟩
    · exact fun _ _ _ _ kept _ stepped => kept.step stepped
  exact ⟨kept.unique, kept.sound, kept.notified⟩

/-- A setting in which the publisher refuses. -/
def refusingPublisher : CallSetting :=
  ⟨"2026-08-02T12:00:00+00:00", "incident_1", .raised "disk full", .ok ()⟩

/-- Two failures, a recovery, and a failure again. -/
def failingServer : List (IncidentCall × CallSetting) :=
  [(.reportFailure "mcp" "mcp" "失败" true, refusingPublisher),
    (.reportFailure "mcp" "mcp" "仍失败" true, refusingPublisher),
    (.reportRecovery "mcp" "mcp" "恢复" true, refusingPublisher),
    (.reportFailure "mcp" "mcp" "再次失败" true, refusingPublisher)]

theorem incidents_of_calls_failingServer :
    ∃ state, (incidentMachine none).run ⟨[], []⟩ failingServer = some state ∧
      (state.stored.map Incident.fingerprint).Nodup ∧
      (∀ incident ∈ state.stored, incident.Sound state.calls) ∧
      ∀ handled ∈ state.handled, handled.attempted = handled.due none :=
  ⟨_, rfl, incidents_of_calls
    (Machine.Reachable.run (.start rfl) (by rfl :
      (incidentMachine none).run ⟨[], []⟩ failingServer = some _))⟩

/-- A silent failure opens an incident, and nothing is attempted. -/
theorem silentFailure_not_notified : ¬ ∀ (principalId : Option String) (state : MonitorState),
      (incidentMachine principalId).Reachable state → ∀ handled ∈ state.handled, handled.Opens →
          handled.attempted ≠ [] := by
  intro notified
  have evaluated : (incidentMachine none).run ⟨[], []⟩
      [(.reportFailure "breakbeat" "breakbeat" "审阅失败" false, refusingPublisher)] = some _ := rfl
  have reached := Machine.Reachable.run (.start rfl) evaluated
  exact notified none _ reached _ List.mem_cons_self (by decide) rfl

end TurningGood.Proactive
