import TurningGood.MultiAgent.StrategyInvariant

/-!
# Calls of the strategies return

A call that has not returned can make a step, and every step lowers its rank.
So a call returns, with one terminal node for each task in the order of the
tasks; and a pipeline has executed only the tasks behind nodes that
succeeded.
-/

namespace TurningGood.MultiAgent

open TurningGood.Foundation

namespace StrategyCall

variable {policy : ResultPolicy} {run : MultiAgentRun}
  {call target : StrategyCall}

variable {execution : Execution} {executions : List Execution}

/-! ## Calls that return -/

theorem exists_resume (nodeId role : String) (uninterrupted : execution.interrupted = false)
    (running : execution.ended = false) :
    ∃ resumption after,
      execution.resume policy nodeId role none resumption = some after := by
  unfold Execution.resume
  rw [uninterrupted]
  cases point : execution.point with
  | created => exact ⟨.begun, _, rfl⟩
  | acquiringRun => exact ⟨.acquired, _, rfl⟩
  | acquiringGlobal => exact ⟨.acquired, _, rfl⟩
  | reportingStart => exact ⟨.started .delivered true, _, rfl⟩
  | working => exact ⟨.timedOut, _, rfl⟩
  | dismissing result => exact ⟨.dismissed, _, rfl⟩
  | reportingEnd node => exact ⟨.reported .delivered, _, rfl⟩
  | returned node | raised =>
    rw [Execution.ended, point] at running
    cases running

theorem Keeps.exists_resume (keeps : call.Keeps policy run) {index : Nat}
    {role : String} (present : call.crew.executions[index]? = some execution)
    (named : call.crew.roles[index]? = some role)
    (running : execution.ended = false) :
    ∃ label, (StrategyCall.step policy call label).isSome = true := by
  have steady := keeps.steady index execution role present named
  rcases @StrategyCall.exists_resume policy execution (workerId index) role
    steady.uninterrupted running with ⟨resumption, after, went⟩
  refine ⟨.resume none index resumption, ?_⟩
  simp only [StrategyCall.step, present, named, went, Option.bind_eq_bind, Option.bind_some]
  rfl

theorem mapM_returnedNode (all : ∀ execution ∈ executions, ∃ node,
      execution.point = .returned node) :
    ∃ nodes, executions.mapM Crew.returnedNode? = some nodes := by
  induction executions with
  | nil => exact ⟨[], rfl⟩
  | cons first rest induction =>
    rcases all first List.mem_cons_self with ⟨node, point⟩
    rcases induction fun other member =>
      all other (List.mem_cons_of_mem _ member) with ⟨nodes, later⟩
    refine ⟨node :: nodes, ?_⟩
    have here : Crew.returnedNode? first = some node := by
      rw [Crew.returnedNode?, point]
    rw [List.mapM_cons, here, later]
    rfl

theorem ended_or_returned {nodeId role : String} (steady : execution.Steady policy nodeId role) :
    execution.ended = false ∨ ∃ node, execution.point = .returned node := by
  have sound := steady.point
  cases point : execution.point with
  | created | acquiringRun | acquiringGlobal | reportingStart | working
  | dismissing result | reportingEnd node =>
    left
    rw [Execution.ended, point]
  | returned node => exact .inr ⟨node, rfl⟩
  | raised =>
    rw [point] at sound
    exact sound.elim

theorem exists_role {roles : List String} (length : executions.length = roles.length) {index : Nat}
    (present : executions[index]? = some execution) :
    ∃ role, roles[index]? = some role := by
  obtain ⟨within, -⟩ := List.getElem?_eq_some_iff.mp present
  exact ⟨roles[index], List.getElem?_eq_getElem (length ▸ within)⟩

theorem Keeps.exists_running (keeps : call.Keeps policy run)
    (gathering : call.crew.parent = .gathering)
    (waits : call.crew.result? = none) :
    ∃ (index : Nat) (execution : Execution) (role : String),
      call.crew.executions[index]? = some execution ∧
        call.crew.roles[index]? = some role ∧ execution.ended = false := by
  have length := keeps.parent
  rw [gathering] at length
  by_contra none_
  have all : ∀ execution ∈ call.crew.executions, ∃ node,
      execution.point = .returned node := by
    intro execution member
    rcases List.mem_iff_getElem?.mp member with ⟨index, present⟩
    rcases exists_role length present with ⟨role, named⟩
    have steady := keeps.steady index execution role present named
    rcases ended_or_returned steady with running | returned
    · exact absurd ⟨index, execution, role, present, named, running⟩ none_
    · exact returned
  rcases mapM_returnedNode all with ⟨nodes, collected⟩
  rw [Crew.result?, gathering, keeps.uncancelled] at waits
  simp only [Bool.false_eq_true, if_false, collected] at waits
  cases waits

theorem Keeps.progress (keeps : call.Keeps policy run) (waits : call.crew.result? = none) :
    ∃ label, (StrategyCall.step policy call label).isSome = true := by
  have kept := keeps.parent
  cases parent : call.crew.parent with
  | gathering =>
    rcases keeps.exists_running parent waits with ⟨index, execution, role, present, named, running⟩
    exact keeps.exists_resume present named running
  | executing nodes =>
    rw [parent] at kept
    rcases kept with ⟨-, length, -, running, within⟩
    have inside : nodes.length < call.crew.executions.length := by omega
    have present := List.getElem?_eq_getElem inside
    exact keeps.exists_resume present (List.getElem?_eq_getElem within) (running _ present)
  | reporting nodes current interrupted =>
    rw [parent] at kept
    rcases kept with ⟨-, rfl, -, -⟩
    refine ⟨.reported .delivered, ?_⟩
    simp only [StrategyCall.step, Crew.reported, parent]
    rfl
  | collected nodes =>
    rw [Crew.result?, parent] at waits
    cases waits
  | raised =>
    rw [parent] at kept
    exact kept.elim

/-! ## What a call returns -/

theorem mapM_returned {nodes : List MultiAgentNode}
    (collected : executions.mapM Crew.returnedNode? = some nodes) :
    nodes.length = executions.length ∧
      ∀ (index : Nat) (node : MultiAgentNode), nodes[index]? = some node →
        ∃ execution, executions[index]? = some execution ∧
          execution.point = .returned node := by
  induction executions generalizing nodes with
  | nil =>
    cases collected
    exact ⟨rfl, fun index node present => nomatch present⟩
  | cons first rest induction =>
    rw [List.mapM_cons] at collected
    rcases Option.bind_eq_some_iff.mp collected with ⟨node, returned, collected⟩
    rcases Option.bind_eq_some_iff.mp collected with ⟨others, later, same⟩
    cases same
    rcases induction later with ⟨length, each⟩
    refine ⟨congrArg Nat.succ length, ?_⟩
    intro index found present
    cases index with
    | zero =>
      cases present
      refine ⟨first, rfl, ?_⟩
      rw [Crew.returnedNode?] at returned
      split at returned
      · next point =>
          cases returned
          exact point
      · cases returned
    | succ index => exact each index found present

/-- One terminal node for each task, in the order of the tasks. -/
structure IsResult (run : MultiAgentRun) (nodes : List MultiAgentNode) :
    Prop where
  length : nodes.length = run.nodes.length
  each : ∀ (index : Nat) (node : MultiAgentNode), nodes[index]? = some node →
    node.nodeId = workerId index ∧ (run.nodes[index]?).map MultiAgentNode.role = some node.role ∧
      node.status.isTerminal = true

theorem Keeps.isResult (keeps : call.Keeps policy run)
    {result : Option (List MultiAgentNode)}
    (returned : call.crew.result? = some result) :
    ∃ nodes, result = some nodes ∧ IsResult run nodes := by
  have kept := keeps.parent
  have roles := keeps.roles
  have sizes : call.crew.roles.length = run.nodes.length := by
    rw [roles, List.length_map]
  have roleOf : ∀ index : Nat, call.crew.roles[index]? =
      (run.nodes[index]?).map MultiAgentNode.role := by
    intro index
    rw [roles, List.getElem?_map]
  unfold Crew.result? at returned
  cases parent : call.crew.parent with
  | gathering =>
    rw [parent] at kept
    rw [parent, keeps.uncancelled] at returned
    simp only [Bool.false_eq_true, if_false] at returned
    rcases Option.map_eq_some_iff.mp returned with ⟨nodes, collected, rfl⟩
    rcases mapM_returned collected with ⟨length, each⟩
    refine ⟨nodes, rfl, (length.trans kept).trans sizes, ?_⟩
    intro index node present
    rcases each index node present with ⟨execution, there, point⟩
    rcases exists_role kept there with ⟨role, named⟩
    have sound := (keeps.steady index execution role there named).point
    rw [point] at sound
    rw [← roleOf, sound.role]
    exact ⟨sound.nodeId, named, sound.terminal⟩
  | executing nodes =>
    rw [parent] at returned
    cases returned
  | reporting nodes current interrupted =>
    rw [parent] at returned
    cases returned
  | collected nodes =>
    rw [parent] at kept returned
    cases returned
    refine ⟨nodes, rfl, kept.2.2.trans sizes, ?_⟩
    intro index node present
    rw [← roleOf]
    exact kept.1.each index node present
  | raised =>
    rw [parent] at kept
    exact kept.elim

/--
Each worker of a pipeline was called with the sanitised content of the one
before it, which succeeded; the first one was called with nothing.
-/
structure HandsOn (policy : ResultPolicy) (call : StrategyCall) :
    Prop where
  sizes : call.arguments.length = call.crew.executions.length
  first : ∀ argument, call.arguments[0]? = some argument → argument = none
  next : ∀ (index : Nat) (execution : Execution),
    call.crew.executions[index + 1]? = some execution →
      ∃ (before : Execution) (node : MultiAgentNode) (raw : String),
        call.crew.executions[index]? = some before ∧
          before.Succeeded raw ∧ before.point = .returned node ∧
          node.status = .completed ∧
          node.content = some (policy.sanitizeContent raw) ∧
          call.arguments[index + 1]? = some (some (policy.sanitizeContent raw))

/-- A pipeline executes nothing behind a node that did not succeed. -/
def Blocks (call : StrategyCall) (nodes : List MultiAgentNode) : Prop :=
  ∀ (index later : Nat) (node other : MultiAgentNode),
    nodes[index]? = some node → node.status ≠ .completed → index < later →
      nodes[later]? = some other → IsUnstarted other ∧ call.crew.executions[later]? = none

theorem Keeps.pipeline (keeps : call.Keeps policy run) (strategy : run.strategy = .pipeline) :
    ∃ nodes, Pipeline policy call.crew.roles call.crew.executions call.arguments nodes ∧
        ∀ result, call.crew.result? = some (some result) → result = nodes := by
  have kept := keeps.parent
  cases parent : call.crew.parent with
  | gathering =>
    have other := keeps.strategy parent
    rw [strategy] at other
    cases other
  | executing nodes =>
    rw [parent] at kept
    refine ⟨nodes, kept.1, ?_⟩
    intro result returned
    rw [Crew.result?, parent] at returned
    cases returned
  | reporting nodes current interrupted =>
    rw [parent] at kept
    refine ⟨nodes, kept.1, ?_⟩
    intro result returned
    rw [Crew.result?, parent] at returned
    cases returned
  | collected nodes =>
    rw [parent] at kept
    refine ⟨nodes, kept.1, ?_⟩
    intro result returned
    rw [Crew.result?, parent] at returned
    cases returned
    rfl
  | raised =>
    rw [parent] at kept
    exact kept.elim

theorem Keeps.handsOn (keeps : call.Keeps policy run)
    (strategy : run.strategy = .pipeline) : call.HandsOn policy := by
  rcases keeps.pipeline strategy with ⟨nodes, pipeline, -⟩
  refine ⟨pipeline.sizes, pipeline.first, ?_⟩
  intro index execution present
  obtain ⟨within, -⟩ := List.getElem?_eq_some_iff.mp present
  rcases pipeline.handed index within with
    ⟨before, node, raw, there, given, success, succeeded, argument⟩
  have point := pipeline.returned index before node there given
  have named := (pipeline.each index node given).2.1
  have sound := (keeps.steady index before node.role there named).point
  rw [point] at sound
  rcases sound.completed success with ⟨same, ceased, content⟩
  rw [Execution.Succeeded, ceased] at succeeded
  cases succeeded
  exact ⟨before, node, raw, there, ceased, point, success, content, argument⟩

theorem Keeps.blocks (keeps : call.Keeps policy run)
    (strategy : run.strategy = .pipeline) {nodes : List MultiAgentNode}
    (returned : call.crew.result? = some (some nodes)) :
    call.Blocks nodes := by
  rcases keeps.pipeline strategy with ⟨collected, pipeline, same⟩
  cases same nodes returned
  intro index later node other present unsuccessful behind there
  rcases pipeline.blocked index node present unsuccessful with ⟨few, unstarted⟩
  refine ⟨unstarted later other behind there, ?_⟩
  rw [List.getElem?_eq_none_iff]
  omega

theorem keeps_of_reachable (reached : (strategyCalls policy run).Reachable call) :
    call.Keeps policy run := by
  apply Machine.Reaches.invariant _ _ reached
  · rintro _ rfl
    exact start_keeps policy run
  · intro state label after _ keeps _ stepped
    exact keeps.step stepped

end StrategyCall

/-- The policy that hides one text. -/
def hidingPolicy : ResultPolicy where
  sanitizeContent text := if text = "secret" then "[REDACTED]" else text
  safeError := id
  countTokens := String.length
  workerResultTokenLimit := 100

/-- A run of a pipeline with three tasks. -/
def threeTasks : MultiAgentRun where
  runId := "run"
  parentRequestId := "request"
  strategy := .pipeline
  status := .running
  nodes := [("worker-1", "read"), ("worker-2", "plan"), ("worker-3", "write")].map
      fun (nodeId, role) => { nodeId, role, status := .queued }

/-- An execution runs until its worker ends. -/
def executedBy (index : Nat) (ended : WorkerEnd) : List StrategyLabel :=
  [.resume none index .begun, .resume none index .acquired, .resume none index .acquired,
    .resume none index (.started .delivered true), .taskEnds index ended,
    .resume none index (.finished false),
    .resume none index (.reported .delivered)]

end TurningGood.MultiAgent
