import TurningGood.Foundation.Machine
import TurningGood.Foundation.Modify

/-!
# The incident monitor

The monitor keeps one record for each fingerprint of a failing part of the
system.  A failure opens the record of its fingerprint or counts one more
occurrence, a recovery or the user resolves it, and a deletion removes it.
Every operation holds the lock of the monitor until it has saved the records
and has handed over its notification, so that it is one step.

The calls and the notifications that were attempted for them are recorded
beside the saved records.
-/

namespace TurningGood.Proactive

open TurningGood.Foundation

/-- The states of an incident; `opened` is the state `open`. -/
inductive IncidentState where
  | opened
  | resolved
  deriving DecidableEq, Repr

/-- An entry of a history. -/
structure HistoryEntry where
  state : IncidentState
  occurredAt : String
  message : String
  deriving DecidableEq, Repr

/-- `Incident`. -/
structure Incident where
  id : String
  fingerprint : String
  source : String
  state : IncidentState
  firstDetectedAt : String
  lastDetectedAt : String
  occurrenceCount : Nat
  message : String
  history : List HistoryEntry
  deriving DecidableEq, Repr

/-- `_load_incidents`, on the records of the file. -/
def loadIncidents (records : List Incident) :
    Except String (List Incident) :=
  if ∃ record ∈ records, record.occurrenceCount < 1 then
    .error "Incident occurrence_count 必须是正整数"
  else if ¬ (records.map Incident.fingerprint).Nodup then
    .error "incidents.json 包含重复 fingerprint"
  else
    .ok records

/-- `_index_for_fingerprint`. -/
def indexForFingerprint (incidents : List Incident) (fingerprint : String) :
    Option Nat :=
  incidents.findIdx? fun incident => incident.fingerprint == fingerprint

/-- The payload of a notification. -/
structure IncidentNotification where
  eventType : String
  content : String
  sourceId : String
  notificationScope : String
  principalId : Option String
  deriving DecidableEq, Repr

/-- How the call of the publisher ends. -/
inductive EnqueueOutcome where
  | accepted
  | raised (error : String)
  | cancelled
  deriving DecidableEq, Repr

/-- What a call finds: the time, a new id, and how awaited calls end. -/
structure CallSetting where
  now : String
  newId : String
  enqueue : EnqueueOutcome
  stateChanged : Except String Unit
  deriving DecidableEq

/-- What a call leaves: the saved records, its notifications, its result. -/
structure Handled (Result : Type) where
  stored : List Incident
  attempted : List IncidentNotification
  result : Except String Result

namespace CallSetting

variable (setting : CallSetting)

/-- The result of a call that changed a record and notified of it. -/
def conclude {Result : Type} (notified : Bool) (result : Result) :
    Except String Result :=
  if notified ∧ setting.enqueue = .cancelled then
    .error "CancelledError"
  else do
    let _ ← setting.stateChanged
    match setting.enqueue with
    | .raised error => if notified then throw error else return result
    | _ => return result

end CallSetting

/-! ## Operations -/

section Operations

variable (principalId : Option String) (stored : List Incident) (setting : CallSetting)

/-- A refused call changes nothing. -/
def Handled.refused {Result : Type} (error : String) : Handled Result where
  stored := stored
  attempted := []
  result := .error error

/-- The notification of a failure. -/
def openedNotification (fingerprint message : String) : IncidentNotification where
  eventType := "proactive.incident.opened"
  content := "系统异常：" ++ message
  sourceId := fingerprint
  notificationScope := "all_subscribed"
  principalId := principalId

/-- The notification of a recovery. -/
def resolvedNotification (fingerprint message : String) : IncidentNotification where
  eventType := "proactive.incident.resolved"
  content := "系统已恢复：" ++ message
  sourceId := fingerprint
  notificationScope := "all_subscribed"
  principalId := principalId

/-- The record of a first failure. -/
def newIncident (fingerprint source message : String) : Incident where
  id := setting.newId
  fingerprint := fingerprint
  source := source
  state := .opened
  firstDetectedAt := setting.now
  lastDetectedAt := setting.now
  occurrenceCount := 1
  message := message
  history := [⟨.opened, setting.now, message⟩]

/-- The record of a failure that was reported before. -/
def Incident.recur (incident : Incident) : Incident :=
  { incident with
    occurrenceCount := incident.occurrenceCount + 1
    lastDetectedAt := setting.now }

/-- The record of a failure behind a recovery. -/
def Incident.reopen (message : String) (incident : Incident) : Incident :=
  { incident with
    state := .opened
    lastDetectedAt := setting.now
    occurrenceCount := incident.occurrenceCount + 1
    message := message
    history := incident.history ++ [⟨.opened, setting.now, message⟩] }

/-- The record of a recovery. -/
def Incident.recover (message : String) (incident : Incident) : Incident :=
  { incident with
    state := .resolved
    lastDetectedAt := setting.now
    message := message
    history := incident.history ++ [⟨.resolved, setting.now, message⟩] }

/-- The record that a user resolved, which keeps its message. -/
def Incident.confirm (incident : Incident) : Incident :=
  { incident with
    state := .resolved
    lastDetectedAt := setting.now
    history := incident.history ++ [⟨.resolved, setting.now, "用户在 Web 中标记已解决"⟩] }

/-- `report_failure`. -/
def reportFailure (fingerprint source message : String) (notify : Bool) :
    Handled Bool :=
  let notifications :=
    if notify then [openedNotification principalId fingerprint message]
    else []
  match loadIncidents stored with
  | .error error => .refused stored error
  | .ok incidents =>
    match indexForFingerprint incidents fingerprint with
    | none =>
      { stored := incidents ++
          [newIncident setting fingerprint source message]
        attempted := notifications
        result := setting.conclude notify true }
    | some index =>
      if (incidents[index]?.map Incident.state) = some .opened then
        { stored := incidents.modify index (Incident.recur setting)
          attempted := []
          result := setting.conclude false false }
      else
        { stored := incidents.modify index
            (Incident.reopen setting message)
          attempted := notifications
          result := setting.conclude notify true }

/-- `report_recovery`. -/
def reportRecovery (fingerprint message : String) (notify : Bool) :
    Handled Bool :=
  match loadIncidents stored with
  | .error error => .refused stored error
  | .ok incidents =>
    match indexForFingerprint incidents fingerprint with
    | none => ⟨stored, [], .ok false⟩
    | some index =>
      if (incidents[index]?.map Incident.state) = some .resolved then
        ⟨stored, [], .ok false⟩
      else
        { stored := incidents.modify index
            (Incident.recover setting message)
          attempted :=
            if notify then
              [resolvedNotification principalId fingerprint message]
            else []
          result := setting.conclude notify true }

/-- `resolve_by_fingerprint`. -/
def resolveByFingerprint (fingerprint : String) :
    Handled (Option Incident) :=
  match loadIncidents stored with
  | .error error => .refused stored error
  | .ok incidents =>
    match indexForFingerprint incidents fingerprint with
    | none => .refused stored ("Incident 不存在：" ++ fingerprint)
    | some index =>
      if (incidents[index]?.map Incident.state) = some .resolved then
        .refused stored ("Incident 已解决：" ++ fingerprint)
      else
        { stored := incidents.modify index (Incident.confirm setting)
          attempted := []
          result := setting.conclude false (incidents[index]?.map (Incident.confirm setting)) }

/-- `delete_by_fingerprint`. -/
def deleteByFingerprint (fingerprint : String) : Handled Nat :=
  match loadIncidents stored with
  | .error error => .refused stored error
  | .ok incidents =>
    let retained := incidents.filter fun record =>
      record.fingerprint != fingerprint
    let removed := incidents.length - retained.length
    if removed = 0 then
      ⟨stored, [], .ok 0⟩
    else
      { stored := retained
        attempted := []
        result := setting.conclude false removed }

end Operations

/-! ## The monitor as a machine -/

/-- The calls that change incidents. -/
inductive IncidentCall where
  | reportFailure (fingerprint source message : String) (notify : Bool)
  | reportRecovery (fingerprint source message : String) (notify : Bool)
  | resolveByFingerprint (fingerprint : String)
  | deleteByFingerprint (fingerprint : String)
  deriving DecidableEq, Repr

namespace IncidentCall

/-- The fingerprint that a call is about. -/
def fingerprint : IncidentCall → String
  | .reportFailure fingerprint _ _ _ => fingerprint
  | .reportRecovery fingerprint _ _ _ => fingerprint
  | .resolveByFingerprint fingerprint => fingerprint
  | .deleteByFingerprint fingerprint => fingerprint

/-- What a call leaves, without its result. -/
def handle (principalId : Option String) (stored : List Incident) (setting : CallSetting) :
    IncidentCall → List Incident × List IncidentNotification
  | .reportFailure fingerprint source message notify =>
    let handled := TurningGood.Proactive.reportFailure principalId stored
      setting fingerprint source message notify
    (handled.stored, handled.attempted)
  | .reportRecovery fingerprint _ message notify =>
    let handled := TurningGood.Proactive.reportRecovery principalId stored
      setting fingerprint message notify
    (handled.stored, handled.attempted)
  | .resolveByFingerprint fingerprint =>
    let handled := TurningGood.Proactive.resolveByFingerprint stored
      setting fingerprint
    (handled.stored, handled.attempted)
  | .deleteByFingerprint fingerprint =>
    let handled := TurningGood.Proactive.deleteByFingerprint stored
      setting fingerprint
    (handled.stored, handled.attempted)

end IncidentCall

/-- The state of the record of a fingerprint; without a record, all is well. -/
def health (stored : List Incident) (fingerprint : String) :
    Option IncidentState :=
  (stored.find? fun incident => incident.fingerprint == fingerprint).map Incident.state

/-- A call with the health of its fingerprint around it. -/
structure HandledCall where
  call : IncidentCall
  before : Option IncidentState
  after : Option IncidentState
  attempted : List IncidentNotification
  deriving DecidableEq, Repr

/-- The saved records, and the calls, the latest first. -/
structure MonitorState where
  stored : List Incident
  handled : List HandledCall
  deriving DecidableEq, Repr

/-- The calls that were made, the latest first. -/
def MonitorState.calls (state : MonitorState) : List IncidentCall :=
  state.handled.map HandledCall.call

/-- The monitor of a principal, from an empty store on. -/
def incidentMachine (principalId : Option String) :
    Machine MonitorState (IncidentCall × CallSetting) where
  initial state := state = ⟨[], []⟩
  step state label :=
    let left := label.1.handle principalId state.stored label.2
    some {
      stored := left.1
      handled :=
        { call := label.1
          before := health state.stored label.1.fingerprint
          after := health left.1 label.1.fingerprint
          attempted := left.2 } :: state.handled }

end TurningGood.Proactive
