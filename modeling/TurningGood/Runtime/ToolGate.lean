import Mathlib.Data.List.Forall2
import TurningGood.Runtime.ToolCallRunner

/-!
# The gate before a tool, and the records of a reply

A tool is started only for a call that the gate lets through, whatever the
calls beside it do.  The records of a reply are those of its calls in their
order, as long as no preparation and no security check raises: these two are
outside of the `try` that makes records of exceptions.
-/

namespace TurningGood.Runtime

open TurningGood.Llm
open TurningGood.Tools
open ToolCallRunner

section Gate

variable {Tool Args : Type}

variable {context : RunContext}

/-- Nothing stands between the call and its tool. -/
structure Gate (runner : ToolCallRunner Tool Args) (context : RunContext)
    (call : ToolCall Args) (outcomes : CallOutcomes Args) : Prop where
  allowed : ∀ names, context.allowedToolNames = some names → call.name ∈ names
  valid : ∃ tool args, runner.tools.get? call.name = some tool ∧
        runner.interface.normalize tool call.args = .ok (args, [])
  secure : ∃ error, outcomes.precheck.check = .ok error ∧ isTruthy error = false
  secureAgain : ∃ error, outcomes.recheck.check = .ok error ∧ isTruthy error = false
  /-- no hook gives a reason -/
  unblocked : ∀ position (hook : Hook Tool) reason, runner.hooks[position]? = some hook →
      hook.beforeToolCall runner.interface context call.name
          (outcomes.beforeHooks position) = some (some reason) →
      reason = ""
  /-- what needs an approval was approved -/
  approved : ∀ position names tools, runner.hooks[position]? = some (.permission names tools) →
      context.autoApproveTools = false →
      needsApproval runner.interface names tools call.name = true →
      context.supportsApproval = true ∧ ∃ reason,
          outcomes.beforeHooks position = .returned reason ∧ isTruthy reason = false

/-- The record of a call: its id, and what the hooks make of it. -/
def RecordOf (runner : ToolCallRunner Tool Args) (slot : ToolCall Args × CallOutcomes Args)
    (record : ToolRecord Args) : Prop :=
  ∃ args raw,
    record = runner.finalize slot.2 { slot.1 with args := args } raw

/-- The preparation or the security check of the call raises. -/
def CheckRaises (runner : ToolCallRunner Tool Args) (context : RunContext)
    (slot : ToolCall Args × CallOutcomes Args) : Prop :=
  (∃ message, runner.prepareCall context slot.1 = .error message) ∨ ∃ prepared,
      runner.prepareCall context slot.1 = .ok prepared ∧ prepared.blockedReason = none ∧
        prepared.validationError = none ∧
        ∃ message, slot.2.precheck.check = .error message

theorem runBeforeToolCall_none {interface : ToolInterface Tool Args}
    {name : String} {outcomes : Nat → HookOutcome} {start : Nat}
    {hooks : List (Hook Tool)} (passed :
      runBeforeToolCall interface context name outcomes start hooks = none)
    {position : Nat} {hook : Hook Tool} {reason : String}
    (present : hooks[position]? = some hook) (answered : hook.beforeToolCall interface context name
          (outcomes (start + position)) = some (some reason)) :
    reason = "" := by
  induction hooks generalizing start position with
  | nil => cases present
  | cons head rest induction =>
    have restPassed :
        runBeforeToolCall interface context name outcomes (start + 1)
            rest = none := by
      unfold runBeforeToolCall at passed
      split at passed
      · split at passed
        · cases passed
        · exact passed
      · exact passed
      · exact passed
    cases position with
    | zero =>
      cases present
      unfold runBeforeToolCall at passed
      rw [Nat.add_zero] at answered
      rw [answered] at passed
      dsimp only at passed
      split at passed
      · cases passed
      · next empty => exact not_not.mp empty
    | succ position =>
      apply induction restPassed present
      rw [Nat.add_right_comm, Nat.add_assoc]
      exact answered

theorem approved_of_unblocked {interface : ToolInterface Tool Args}
    {name : String} {names : List String} {tools : Option (ToolRegistry Tool)}
    {outcome : HookOutcome} (unblocked :
      ∀ reason, (Hook.permission names tools).beforeToolCall interface context name
            outcome = some (some reason) →
        reason = "") (manual : context.autoApproveTools = false)
    (needs : needsApproval interface names tools name = true) :
    context.supportsApproval = true ∧
      ∃ reason, outcome = .returned reason ∧ isTruthy reason = false := by
  unfold Hook.beforeToolCall at unblocked
  simp only [manual, needs] at unblocked
  cases supports : context.supportsApproval with
  | false =>
    simp only [supports] at unblocked
    exact absurd (unblocked _ rfl) (by decide)
  | true =>
    refine ⟨rfl, ?_⟩
    simp only [supports] at unblocked
    cases outcome with
    | raised => exact absurd (unblocked _ rfl) (by decide)
    | returned reason =>
      refine ⟨reason, rfl, ?_⟩
      cases reason with
      | none => rfl
      | some text =>
        cases unblocked text rfl
        rfl

/-! ## One call -/

theorem intercalate_ne_empty (separator : String) {head : String} (rest : List String)
    (nonempty : head ≠ "") :
    separator.intercalate (head :: rest) ≠ "" := by
  intro joined
  apply nonempty
  have chars := congrArg String.toList joined
  rw [String.toList_intercalate] at chars
  rw [← String.toList_eq_nil_iff]
  cases rest with
  | nil => simpa using chars
  | cons second rest => simp_all

variable {runner : ToolCallRunner Tool Args} {call : ToolCall Args}
  {prepared : PreparedToolCall Tool Args}

theorem prepareCall_cases (done : runner.prepareCall context call = .ok prepared) :
    prepared.call.id = call.id ∧ prepared.call.name = call.name ∧
      ((isTruthy prepared.blockedReason = true ∧ prepared.tool = none) ∨
        (prepared.blockedReason = none ∧ isTruthy prepared.validationError = true) ∨
        (prepared.blockedReason = none ∧ prepared.validationError = none ∧
          (∀ names, context.allowedToolNames = some names → call.name ∈ names) ∧
          ∃ tool, prepared.tool = some tool ∧ runner.tools.get? call.name = some tool ∧
              runner.interface.normalize tool call.args =
                .ok (prepared.call.args, []))) := by
  unfold ToolCallRunner.prepareCall at done
  split at done
  · cases done
    exact ⟨rfl, rfl, .inl ⟨rfl, rfl⟩⟩
  · next allowed =>
      have inList :
          ∀ names, context.allowedToolNames = some names →
            call.name ∈ names := by
        intro names listed
        rw [listed] at allowed
        simpa using allowed
      split at done
      · cases done
      · next tool args error registered =>
          cases done
          refine ⟨rfl, rfl, .inr ?_⟩
          unfold prepareRegistered at registered
          split at registered
          · cases registered
            left
            refine ⟨rfl, ?_⟩
            simp [isTruthy]
          · next found present =>
              split at registered
              · cases registered
              · next normalized errors checked =>
                  cases registered
                  cases errors with
                  | nil =>
                    exact .inr ⟨rfl, rfl, inList, found, rfl, present, checked⟩
                  | cons first rest =>
                    left
                    refine ⟨rfl, ?_⟩
                    have nonempty : first ≠ "" := by
                      rintro rfl
                      exact runner.interface.errors_nonempty _ _ _ _ checked List.mem_cons_self
                    simpa [isTruthy] using intercalate_ne_empty "；" rest nonempty

@[simp]
theorem isTruthy_none : isTruthy none = false := rfl

variable {outcomes : CallOutcomes Args}

theorem executorRun_started {tool : Tool} {args : Args}
    (started : (runner.executorRun outcomes tool args).1 = true) :
    ∃ again, outcomes.recheck.check = .ok again ∧ isTruthy again = false := by
  unfold ToolCallRunner.executorRun at started
  cases recheck : outcomes.recheck.check with
  | error message =>
    rw [recheck] at started
    cases started
  | ok again =>
    refine ⟨again, rfl, ?_⟩
    rw [recheck] at started
    dsimp only at started
    cases secure : isTruthy again with
    | false => rfl
    | true =>
      rw [secure, if_pos rfl] at started
      cases started

theorem executePrepared_of_valid {tool : Tool} (notBlocked : prepared.blockedReason = none)
    (noError : prepared.validationError = none)
    (found : prepared.tool = some tool) :
    (∃ message, outcomes.precheck.check = .error message ∧
          runner.executePrepared context prepared outcomes =
            { started := false, result := .error message }) ∨
      ∃ error, outcomes.precheck.check = .ok error ∧ (∃ raw,
            (runner.executePrepared context prepared outcomes).result =
              .ok (runner.finalize outcomes prepared.call raw)) ∧
          ((runner.executePrepared context prepared outcomes).started = true →
            isTruthy error = false ∧ runBeforeToolCall runner.interface context prepared.call.name
                  outcomes.beforeHooks 0 runner.hooks = none ∧
              ∃ again,
                outcomes.recheck.check = .ok again ∧ isTruthy again = false) := by
  unfold ToolCallRunner.executePrepared
  rw [notBlocked, noError, found]
  simp only [isTruthy_none, Bool.false_eq_true, if_false]
  cases checked : outcomes.precheck.check with
  | error message => exact .inl ⟨message, rfl, rfl⟩
  | ok error =>
    right
    refine ⟨error, rfl, ?_⟩
    dsimp only
    cases refused : isTruthy error with
    | true =>
      rw [if_pos rfl]
      exact ⟨⟨_, rfl⟩, fun started => by cases started⟩
    | false =>
      rw [if_neg (by decide)]
      cases passed : runBeforeToolCall runner.interface context
          prepared.call.name outcomes.beforeHooks 0 runner.hooks with
      | some reason => exact ⟨⟨_, rfl⟩, fun started => by cases started⟩
      | none =>
        refine ⟨⟨_, rfl⟩, ?_⟩
        intro started
        exact ⟨rfl, rfl, executorRun_started started⟩

theorem executePrepared_started (done : runner.prepareCall context call = .ok prepared) (started :
      (runner.executePrepared context prepared outcomes).started = true) :
    Gate runner context call outcomes := by
  rcases prepareCall_cases done with ⟨-, sameName, cases⟩
  rcases cases with ⟨blocked, -⟩ | ⟨notBlocked, invalid⟩ |
      ⟨notBlocked, noError, allowed, tool, found, present, normalized⟩
  · simp [ToolCallRunner.executePrepared, blocked, ToolCallRunner.refused] at started
  · simp [ToolCallRunner.executePrepared, notBlocked, invalid, ToolCallRunner.refused] at started
  · rcases executePrepared_of_valid notBlocked noError found with
      ⟨message, -, raises⟩ | ⟨error, checked, -, passes⟩
    · rw [raises] at started
      cases started
    · rcases passes started with ⟨secure, passed, again, rechecked, safe⟩
      have unblocked :
          ∀ position (hook : Hook Tool) reason, runner.hooks[position]? = some hook →
            hook.beforeToolCall runner.interface context call.name
                (outcomes.beforeHooks position) = some (some reason) →
            reason = "" := by
        intro position hook reason present answered
        rw [← sameName] at answered
        apply runBeforeToolCall_none passed present
        rw [Nat.zero_add]
        exact answered
      exact
        { allowed := allowed
          valid := ⟨tool, _, present, normalized⟩
          secure := ⟨error, checked, secure⟩
          secureAgain := ⟨again, rechecked, safe⟩
          unblocked := unblocked
          approved := by
            intro position names tools present manual needs
            exact approved_of_unblocked (fun reason => unblocked position _ reason present) manual
                needs }

theorem executePrepared_result (done : runner.prepareCall context call = .ok prepared) :
    (∃ message, (runner.executePrepared context prepared outcomes).result = .error message ∧
          CheckRaises runner context (call, outcomes)) ∨
      ∃ record, (runner.executePrepared context prepared outcomes).result = .ok record ∧
          RecordOf runner (call, outcomes) record ∧
          ¬ CheckRaises runner context (call, outcomes) := by
  rcases prepareCall_cases done with ⟨sameId, sameName, cases⟩
  have sameCall :
      prepared.call = { call with args := prepared.call.args } := by
    cases same : prepared.call
    rw [same] at sameId sameName
    cases sameId
    cases sameName
    rfl
  have answered {raw : ToolRecord Args}
      (result : (runner.executePrepared context prepared outcomes).result =
          .ok (runner.finalize outcomes prepared.call raw))
      (unraised : prepared.blockedReason = none → prepared.validationError = none →
          ∀ message, outcomes.precheck.check ≠ .error message) :
      ∃ record, (runner.executePrepared context prepared outcomes).result = .ok record ∧
          RecordOf runner (call, outcomes) record ∧
          ¬ CheckRaises runner context (call, outcomes) := by
    refine ⟨_, result, ⟨prepared.call.args, raw, ?_⟩, ?_⟩
    · rw [← sameCall]
    · rintro (⟨message, failed⟩ | ⟨again, prepares, first, second, message,
        failed⟩)
      · rw [done] at failed
        cases failed
      · rw [done] at prepares
        cases prepares
        exact unraised first second message failed
  rcases cases with ⟨blocked, -⟩ | ⟨notBlocked, invalid⟩ |
      ⟨notBlocked, noError, -, tool, found, -, -⟩
  · right
    apply answered
    · simp only [ToolCallRunner.executePrepared, blocked, if_true]
      rfl
    · intro notBlocked
      rw [notBlocked] at blocked
      cases blocked
  · right
    apply answered
    · simp only [ToolCallRunner.executePrepared, notBlocked, invalid,
        isTruthy_none, Bool.false_eq_true, if_false, if_true]
      rfl
    · intro _ noError
      rw [noError] at invalid
      cases invalid
  · rcases executePrepared_of_valid notBlocked noError found with
      ⟨message, checked, raises⟩ | ⟨error, checked, ⟨raw, result⟩, -⟩
    · left
      refine ⟨message, by rw [raises], .inr ?_⟩
      exact ⟨prepared, done, notBlocked, noError, message, checked⟩
    · right
      refine answered result ?_
      intro _ _ message failed
      rw [checked] at failed
      cases failed

/-! ## All calls -/

/-- A slot holds its call as the preparation has left it. -/
def SlotPrepared (runner : ToolCallRunner Tool Args) (context : RunContext)
    (slot : Slot Tool Args) : Prop :=
  runner.prepareCall context slot.call = .ok slot.prepared

/-- What a part of a run shows of its calls. -/
structure RunSound (runner : ToolCallRunner Tool Args)
    (context : RunContext)
    (calls : List (ToolCall Args × CallOutcomes Args))
    (run : CallsRun Tool Args) : Prop where
  gate : ∀ slot ∈ run.started, Gate runner context slot.call slot.outcomes
  records : ∀ records, run.result = .ok records → List.Forall₂ (RecordOf runner) calls records ∧
        ∀ slot ∈ calls, ¬ CheckRaises runner context slot
  raises : ∀ message, run.result = .error message → ∃ slot ∈ calls, CheckRaises runner context slot

theorem RunSound.andThen
    {calls more : List (ToolCall Args × CallOutcomes Args)}
    {first second : CallsRun Tool Args}
    (sound : RunSound runner context calls first)
    (soundMore : RunSound runner context more second) :
    RunSound runner context (calls ++ more) (first.andThen second) := by
  unfold ToolCallRunner.CallsRun.andThen
  cases ended : first.result with
  | error message =>
    constructor
    · exact sound.gate
    · intro records result
      cases result
    · intro _ _
      rcases sound.raises message ended with ⟨slot, member, raises⟩
      exact ⟨slot, List.mem_append_left _ member, raises⟩
  | ok records =>
    rcases sound.records records ended with ⟨answered, unraised⟩
    constructor
    · intro slot member
      rcases List.mem_append.mp member with earlier | later
      · exact sound.gate slot earlier
      · exact soundMore.gate slot later
    · intro all result
      cases endedMore : second.result with
      | error message =>
        rw [endedMore] at result
        cases result
      | ok later =>
        rw [endedMore] at result
        cases result
        rcases soundMore.records later endedMore with ⟨answeredMore, unraisedMore⟩
        refine ⟨List.rel_append answered answeredMore, ?_⟩
        intro slot member
        rcases List.mem_append.mp member with earlier | after
        · exact unraised slot earlier
        · exact unraisedMore slot after
    · intro message result
      cases endedMore : second.result with
      | error text =>
        rcases soundMore.raises text endedMore with ⟨slot, member, raises⟩
        exact ⟨slot, List.mem_append_right _ member, raises⟩
      | ok later =>
        rw [endedMore] at result
        cases result

/-- The call and the outcomes of a slot. -/
def slotCall (slot : Slot Tool Args) :
    ToolCall Args × CallOutcomes Args :=
  (slot.call, slot.outcomes)

theorem runSlots_sound {slots : List (Slot Tool Args)}
    (prepared : ∀ slot ∈ slots, SlotPrepared runner context slot) :
    RunSound runner context (slots.map slotCall) (runner.runSlots context slots) := by
  constructor
  · intro slot member
    rcases List.mem_filter.mp member with ⟨inBatch, started⟩
    exact executePrepared_started (prepared slot inBatch) started
  · unfold ToolCallRunner.runSlots
    induction slots with
    | nil =>
      intro records result
      cases result
      exact ⟨.nil, fun slot member => by cases member⟩
    | cons slot rest induction =>
      intro records result
      simp only [List.map_cons] at result
      rcases executePrepared_result (prepared slot List.mem_cons_self) with
        ⟨message, raised, -⟩ | ⟨record, returned, answered, unraised⟩
      · rw [raised] at result
        cases result
      · rw [returned] at result
        simp only [ToolCallRunner.gather] at result
        cases ended : ToolCallRunner.gather (rest.map fun slot =>
            (runner.executePrepared context slot.prepared slot.outcomes).result) with
        | error message =>
          rw [ended] at result
          cases result
        | ok later =>
          rw [ended] at result
          cases result
          rcases induction (fun slot member =>
                prepared slot (List.mem_cons_of_mem _ member))
              later ended with
            ⟨answeredRest, unraisedRest⟩
          refine ⟨.cons answered answeredRest, ?_⟩
          intro other member
          rcases List.mem_cons.mp member with rfl | later
          · exact unraised
          · exact unraisedRest other later
  · unfold ToolCallRunner.runSlots
    induction slots with
    | nil =>
      intro message result
      cases result
    | cons slot rest induction =>
      intro message result
      simp only [List.map_cons] at result
      rcases executePrepared_result (prepared slot List.mem_cons_self) with
        ⟨_, _, raises⟩ | ⟨record, returned, _⟩
      · exact ⟨slotCall slot, List.mem_cons_self, raises⟩
      · rw [returned] at result
        simp only [ToolCallRunner.gather] at result
        cases ended : ToolCallRunner.gather (rest.map fun slot =>
            (runner.executePrepared context slot.prepared slot.outcomes).result) with
        | ok later =>
          rw [ended] at result
          cases result
        | error text =>
          rcases induction (fun slot member =>
                prepared slot (List.mem_cons_of_mem _ member))
              text ended with
            ⟨other, member, raises⟩
          exact ⟨other, List.mem_cons_of_mem _ member, raises⟩

theorem slots_snoc {batch : List (Slot Tool Args)}
    {prepares : PreparedToolCall Tool Args}
    (prepared : ∀ slot ∈ batch, SlotPrepared runner context slot)
    (done : runner.prepareCall context call = .ok prepares) :
    ∀ slot ∈ batch ++ [{ call := call, outcomes := outcomes, prepared := prepares }],
      SlotPrepared runner context slot := by
  intro slot member
  rcases List.mem_append.mp member with earlier | last
  · exact prepared slot earlier
  · rw [List.mem_singleton] at last
    subst last
    exact done

theorem noSlots (runner : ToolCallRunner Tool Args) (context : RunContext) :
    ∀ slot ∈ ([] : List (Slot Tool Args)),
      SlotPrepared runner context slot := by
  intro slot member
  cases member

theorem runSlot_sound (outcomes : CallOutcomes Args)
    {prepares : PreparedToolCall Tool Args}
    (done : runner.prepareCall context call = .ok prepares) :
    RunSound runner context [(call, outcomes)] (runner.runSlots context
        [{ call := call, outcomes := outcomes, prepared := prepares }]) := by
  have prepared : ∀ slot ∈ [] ++
        [{ call := call, outcomes := outcomes, prepared := prepares }],
      SlotPrepared runner context slot :=
    slots_snoc (noSlots runner context) done
  exact runSlots_sound prepared

theorem executeCallsFrom_sound {batch : List (Slot Tool Args)}
    (prepared : ∀ slot ∈ batch, SlotPrepared runner context slot)
    (calls : List (ToolCall Args × CallOutcomes Args)) :
    RunSound runner context (batch.map slotCall ++ calls)
      (runner.executeCallsFrom context batch calls) := by
  induction calls generalizing batch with
  | nil =>
    rw [List.append_nil]
    exact runSlots_sound prepared
  | cons head rest induction =>
    rcases head with ⟨call, outcomes⟩
    unfold ToolCallRunner.executeCallsFrom
    cases done : runner.prepareCall context call with
    | error message =>
      constructor
      · intro slot member
        cases member
      · intro records result
        cases result
      · intro _ _
        refine ⟨(call, outcomes), ?_, .inl ⟨message, done⟩⟩
        exact List.mem_append_right _ List.mem_cons_self
    | ok prepares =>
      dsimp only
      split
      · have joined : ∀ slot ∈ batch ++
              [{ call := call, outcomes := outcomes,
                 prepared := prepares }],
            SlotPrepared runner context slot :=
          slots_snoc prepared done
        have extended := induction joined
        rw [List.map_append, List.append_assoc] at extended
        exact extended
      · have later :
            RunSound runner context ([].map slotCall ++ rest)
              (runner.executeCallsFrom context [] rest) :=
          induction (noSlots runner context)
        have whole :=
          ((runSlots_sound prepared).andThen (runSlot_sound outcomes done)).andThen later
        rw [List.append_assoc] at whole
        exact whole

/--
The tools that are started have passed the gate, and there is one record for
each call in the order of the calls, exactly when no preparation and no
security check raises.
-/
theorem executeCalls_sound_iff (runner : ToolCallRunner Tool Args) (context : RunContext)
    (calls : List (ToolCall Args × CallOutcomes Args)) :
    ((∀ slot ∈ (runner.executeCalls context calls).started,
        Gate runner context slot.call slot.outcomes) ∧
      ∃ records, (runner.executeCalls context calls).result = .ok records ∧
          List.Forall₂ (RecordOf runner) calls records) ↔
      ∀ slot ∈ calls, ¬ CheckRaises runner context slot := by
  have sound : RunSound runner context calls
      (runner.executeCalls context calls) :=
    executeCallsFrom_sound (noSlots runner context) calls
  constructor
  · rintro ⟨-, records, result, -⟩
    exact (sound.records records result).2
  · intro unraised
    refine ⟨sound.gate, ?_⟩
    cases result : (runner.executeCalls context calls).result with
    | ok records =>
      exact ⟨records, rfl, (sound.records records result).1⟩
    | error message =>
      rcases sound.raises message result with ⟨slot, member, raises⟩
      exact absurd raises (unraised slot member)

end Gate

/-- A tool whose arguments are its path. -/
def sampleInterface : ToolInterface Unit String where
  name _ := "read_file"
  parallelSafe _ := true
  approvalRequired _ := false
  normalize _ path := .ok (path, [])
  errors_nonempty := by
    intro tool args normalized errors valid
    cases valid
    exact List.not_mem_nil

/-- The runner of a worker that has the tool. -/
def sampleRunner : ToolCallRunner Unit String where
  interface := sampleInterface
  tools := { tools := Foundation.Dict.empty.insert "read_file" () }
  hooks := []
  parallelToolCallsEnabled := true

/-- A call whose path policy ends in this way. -/
def sampleCall (id path : String) (policy : Except String (Option String)) :
    ToolCall String × CallOutcomes String :=
  ({ id := id, name := "read_file", args := path },
    { precheck := { policy := some policy, validation := .verdict none }
      beforeHooks := fun _ => .returned none
      recheck := { policy := some policy, validation := .verdict none }
      toolRun := .error "not a file"
      afterHooks := fun _ _ => none })

/-- The records of a batch are lost where `resolve` raises for one path. -/
theorem records_lost_at_null_path : ¬ ((∀ slot ∈ (sampleRunner.executeCalls ⟨false, false, none⟩
            [sampleCall "call-1" "README.md" (.ok none), sampleCall "call-2" "a\x00b"
                (.error "embedded null byte")]).started,
        Gate sampleRunner ⟨false, false, none⟩ slot.call slot.outcomes) ∧
      ∃ records, (sampleRunner.executeCalls ⟨false, false, none⟩
            [sampleCall "call-1" "README.md" (.ok none), sampleCall "call-2" "a\x00b"
                (.error "embedded null byte")]).result = .ok records ∧
          List.Forall₂ (RecordOf sampleRunner) [sampleCall "call-1" "README.md" (.ok none),
              sampleCall "call-2" "a\x00b" (.error "embedded null byte")]
            records) := by
  rintro ⟨-, records, result, -⟩
  cases result

end TurningGood.Runtime
