import TurningGood.MultiAgent.StrategyCalls

/-!
# What the strategies return

The nodes of a pipeline are those of its executions, as far as all of them
succeeded, and nodes of its own behind the first that did not.  An execution
that succeeded has the sanitised content of its worker, which is what the next
execution was called with.
-/

namespace TurningGood.MultiAgent

open TurningGood.Foundation

/-! ## Nodes of executions -/

/--
The terminal node of a task, completed only with the sanitised content of its
worker.
-/
structure NodeOf (policy : ResultPolicy) (nodeId role : String)
    (task : Option WorkerTask) (node : MultiAgentNode) : Prop where
  nodeId : node.nodeId = nodeId
  role : node.role = role
  terminal : node.status.isTerminal = true
  completed : node.status = .completed →
    ∃ raw, task.bind WorkerTask.ended = some (.returned (.completed raw)) ∧
      node.content = some (policy.sanitizeContent raw)

/-- A result without content. -/
def WorkerResult.Unsuccessful (result : WorkerResult) : Prop := result.status ≠ .completed

/-- What the point of an execution says of its node. -/
def PointSound (policy : ResultPolicy) (nodeId role : String)
    (task : Option WorkerTask) : Point → Prop
  | .dismissing result => result.Unsuccessful
  | .reportingEnd node => NodeOf policy nodeId role task node
  | .returned node => NodeOf policy nodeId role task node
  | .raised => False
  | _ => True

/-- An execution that nobody cancels. -/
structure Execution.Steady (policy : ResultPolicy) (nodeId role : String)
    (execution : Execution) : Prop where
  uninterrupted : execution.interrupted = false
  point : PointSound policy nodeId role execution.task execution.point

section Nodes

variable {policy : ResultPolicy} {nodeId role : String}
  {task : Option WorkerTask}

theorem FailureStatus.status_ne (failure : FailureStatus) :
    failure.status ≠ .completed := by
  cases failure <;> exact nofun

theorem resultNode_unsuccessful {result : WorkerResult}
    (unsuccessful : result.Unsuccessful) (errorCode : Option String) :
    NodeOf policy nodeId role task (resultNode nodeId role (result, errorCode)) := by
  cases result with
  | completed content => exact absurd rfl unsuccessful
  | unsuccessful failure error =>
    refine ⟨rfl, rfl, ?_, ?_⟩
    · cases failure <;> rfl
    · exact fun same => absurd same failure.status_ne

theorem failure_unsuccessful (failure : FailureStatus) (error : String) :
    (WorkerResult.unsuccessful failure error).Unsuccessful :=
  failure.status_ne

theorem normalizeResult_unsuccessful {result : WorkerResult} (unsuccessful : result.Unsuccessful) :
    (policy.normalizeResult result).1.Unsuccessful := by
  cases result with
  | completed content => exact absurd rfl unsuccessful
  | unsuccessful failure error => exact failure_unsuccessful _ _

theorem normalized_completed {stopRequested : Bool} {ended : WorkerEnd}
    {content : String}
    (completed : (stopCompleted stopRequested
      (policy.normalizeWorkerResult ended)).1 = .completed content) :
    ∃ raw, ended = .returned (.completed raw) ∧
      content = policy.sanitizeContent raw := by
  have kept : (policy.normalizeWorkerResult ended).1 = .completed content := by
    unfold stopCompleted at completed
    split at completed
    · cases completed
    · exact completed
  cases ended with
  | returned result =>
    cases result with
    | completed raw =>
      refine ⟨raw, rfl, ?_⟩
      simp only [ResultPolicy.normalizeWorkerResult, ResultPolicy.normalizeResult] at kept
      split_ifs at kept
      cases kept
      rfl
    | unsuccessful failure error => cases kept
  | invalid | raised | cancelled => cases kept

theorem resultNode_normalized (stopRequested : Bool) (ended : WorkerEnd)
    (ceased : task.bind WorkerTask.ended = some ended) :
    NodeOf policy nodeId role task (resultNode nodeId role (stopCompleted stopRequested
        (policy.normalizeWorkerResult ended))) := by
  cases normalized : stopCompleted stopRequested (policy.normalizeWorkerResult ended) with
  | mk result errorCode =>
    cases result with
    | completed content =>
      rcases normalized_completed (congrArg Prod.fst normalized) with ⟨raw, rfl, rfl⟩
      exact ⟨rfl, rfl, rfl, fun _ => ⟨raw, ceased, rfl⟩⟩
    | unsuccessful failure error =>
      exact resultNode_unsuccessful (failure_unsuccessful _ _) errorCode

end Nodes

namespace Execution

variable {policy : ResultPolicy} {nodeId role : String}
  {execution target : Execution}

theorem terminalBeforeStart_nodeOf (task : Option WorkerTask) (refusal : Refusal) :
    NodeOf policy nodeId role task (terminalBeforeStart nodeId role refusal) := by
  cases refusal with
  | stopRequested | deadline | unavailable =>
    exact resultNode_unsuccessful (failure_unsuccessful _ _) _

theorem Resumed.steady (resumed : Resumed policy nodeId role execution target)
    (steady : execution.Steady policy nodeId role) :
    target.Steady policy nodeId role := by
  have point := steady.point
  cases resumed with
  | raises interrupted outside running =>
    rw [steady.uninterrupted] at interrupted
    cases interrupted
  | dismisses failure error working =>
    exact ⟨rfl, failure_unsuccessful failure error⟩
  | dismissed result waiting =>
    rw [waiting] at point
    exact ⟨rfl, resultNode_unsuccessful (normalizeResult_unsuccessful point) _⟩
  | waits point uninterrupted before after =>
    refine ⟨rfl, ?_⟩
    rw [goTo_point]
    cases point with
    | created | acquiringRun | acquiringGlobal | reportingStart =>
      exact trivial
    | working | dismissing _ | reportingEnd _ | returned _ | raised =>
      cases after
  | returnsEarly error uninterrupted before =>
    exact ⟨rfl, resultNode_unsuccessful (failure_unsuccessful _ _) _⟩
  | refused refusal uninterrupted before =>
    exact ⟨rfl, terminalBeforeStart_nodeOf _ refusal⟩
  | starts uninterrupted reporting => exact ⟨rfl, trivial⟩
  | tooLate uninterrupted reporting =>
    exact ⟨rfl, resultNode_unsuccessful (failure_unsuccessful _ _) _⟩
  | finishes stopRequested ended uninterrupted working ceased =>
    exact ⟨rfl, resultNode_normalized stopRequested ended ceased⟩
  | returns node uninterrupted reporting =>
    rw [reporting] at point
    exact ⟨rfl, point⟩

theorem taskEnds_steady {ended : WorkerEnd} (ceased : execution.taskEnds ended = some target)
    (steady : execution.Steady policy nodeId role) :
    target.Steady policy nodeId role ∧ target.point = execution.point := by
  unfold taskEnds at ceased
  split at ceased
  · next cancelRequested running =>
      cases ceased
      refine ⟨⟨steady.uninterrupted, ?_⟩, rfl⟩
      have unended : ∀ {node : MultiAgentNode},
          NodeOf policy nodeId role execution.task node → NodeOf policy nodeId role
              (some ⟨cancelRequested, some ended⟩) node := by
        intro node sound
        refine ⟨sound.nodeId, sound.role, sound.terminal, ?_⟩
        intro completed
        rcases sound.completed completed with ⟨raw, finished, -⟩
        rw [running] at finished
        cases finished
      have point := steady.point
      cases here : execution.point with
      | created | acquiringRun | acquiringGlobal | reportingStart | working =>
        exact trivial
      | dismissing result =>
        rw [here] at point
        exact point
      | reportingEnd node =>
        rw [here] at point
        exact unended point
      | returned node =>
        rw [here] at point
        exact unended point
      | raised =>
        rw [here] at point
        exact point.elim
  · cases ceased

end Execution

/-! ## Nodes of a pipeline -/

/-- The execution succeeded, and its worker returned this. -/
def Execution.Succeeded (execution : Execution) (raw : String) : Prop :=
  execution.task.bind WorkerTask.ended = some (.returned (.completed raw))

/-- The node of a task that a pipeline does not execute. -/
def IsUnstarted (node : MultiAgentNode) : Prop := node.status = .failed ∨ node.status = .cancelled

/-- The nodes that a pipeline has collected. -/
structure Pipeline (policy : ResultPolicy) (roles : List String)
    (executions : List Execution) (arguments : List (Option String))
    (nodes : List MultiAgentNode) : Prop where
  each : ∀ (index : Nat) (node : MultiAgentNode), nodes[index]? = some node →
    node.nodeId = workerId index ∧ roles[index]? = some node.role ∧ node.status.isTerminal = true
  returned : ∀ (index : Nat) (execution : Execution) (node : MultiAgentNode),
    executions[index]? = some execution → nodes[index]? = some node →
      execution.point = .returned node
  blocked : ∀ (index : Nat) (node : MultiAgentNode), nodes[index]? = some node →
    node.status ≠ .completed → executions.length ≤ index + 1 ∧
      ∀ (later : Nat) (other : MultiAgentNode), index < later → nodes[later]? = some other →
        IsUnstarted other
  handed : ∀ index, index + 1 < executions.length →
    ∃ (before : Execution) (node : MultiAgentNode) (raw : String),
      executions[index]? = some before ∧ nodes[index]? = some node ∧
        node.status = .completed ∧ before.Succeeded raw ∧
        arguments[index + 1]? = some (some (policy.sanitizeContent raw))
  first : ∀ argument, arguments[0]? = some argument → argument = none
  sizes : arguments.length = executions.length

namespace Pipeline

variable {policy : ResultPolicy} {roles : List String}
  {executions : List Execution} {arguments : List (Option String)}
  {nodes : List MultiAgentNode}

variable {index : Nat} {node : MultiAgentNode}

theorem nil : Pipeline policy roles [] [] [] where
  each _ _ present := nomatch present
  returned _ _ _ present := nomatch present
  blocked _ _ present := nomatch present
  handed _ within := nomatch within
  first _ present := nomatch present
  sizes := rfl

theorem length_le (pipeline : Pipeline policy roles executions arguments nodes) :
    nodes.length ≤ roles.length := by
  rcases List.eq_nil_or_concat nodes with rfl | ⟨front, last, rfl⟩
  · exact Nat.zero_le _
  · rw [List.concat_eq_append] at pipeline ⊢
    have present : (front ++ [last])[front.length]? = some last := by
      rw [List.getElem?_append_right (Nat.le_refl _), Nat.sub_self]
      rfl
    have named := (pipeline.each _ _ present).2.1
    obtain ⟨within, -⟩ := List.getElem?_eq_some_iff.mp named
    rw [List.length_append, List.length_singleton]
    exact within

theorem set (pipeline : Pipeline policy roles executions arguments nodes)
    (behind : nodes.length ≤ index) (target : Execution) :
    Pipeline policy roles (executions.set index target) arguments nodes := by
  have elsewhere : ∀ {position : Nat} {node}, nodes[position]? = some node →
      (executions.set index target)[position]? = executions[position]? := by
    intro position node present
    obtain ⟨within, -⟩ := List.getElem?_eq_some_iff.mp present
    exact List.getElem?_set_ne (by omega)
  refine ⟨pipeline.each, ?_, ?_, ?_, pipeline.first, ?_⟩
  · intro position execution node there present
    rw [elsewhere present] at there
    exact pipeline.returned position execution node there present
  · rw [List.length_set]
    exact pipeline.blocked
  · rw [List.length_set]
    intro position within
    rcases pipeline.handed position within with ⟨before, node, raw, there, present, rest⟩
    exact ⟨before, node, raw, (elsewhere present).trans there, present, rest⟩
  · rw [List.length_set]
    exact pipeline.sizes

theorem getElem?_concat {found : MultiAgentNode}
    (present : (nodes ++ [node])[index]? = some found) :
    nodes[index]? = some found ∨ index = nodes.length ∧ found = node := by
  rcases Nat.lt_or_ge index nodes.length with within | behind
  · rw [List.getElem?_append_left within] at present
    exact .inl present
  · rw [List.getElem?_append_right behind] at present
    obtain ⟨inside, same⟩ := List.getElem?_eq_some_iff.mp present
    rw [List.length_singleton] at inside
    have last : index = nodes.length := by omega
    subst last
    simp only [Nat.sub_self] at same
    exact .inr ⟨rfl, same.symm⟩

theorem handed_concat (pipeline : Pipeline policy roles executions arguments nodes)
    (node : MultiAgentNode) (within : index + 1 < executions.length) :
    ∃ (before : Execution) (found : MultiAgentNode) (raw : String),
      executions[index]? = some before ∧ (nodes ++ [node])[index]? = some found ∧
        found.status = .completed ∧ before.Succeeded raw ∧
        arguments[index + 1]? = some (some (policy.sanitizeContent raw)) := by
  rcases pipeline.handed index within with ⟨before, found, raw, there, present, rest⟩
  obtain ⟨inside, -⟩ := List.getElem?_eq_some_iff.mp present
  have still : (nodes ++ [node])[index]? = some found := by
    rw [List.getElem?_append_left inside]
    exact present
  exact ⟨before, found, raw, there, still, rest⟩

theorem append_returned (pipeline : Pipeline policy roles executions arguments nodes)
    (length : executions.length = nodes.length + 1)
    (completed : ∀ node ∈ nodes, node.status = .completed)
    {execution : Execution} {role : String}
    (last : executions[nodes.length]? = some execution)
    (point : execution.point = .returned node)
    (named : roles[nodes.length]? = some role)
    (sound : NodeOf policy (workerId nodes.length) role execution.task node) :
    Pipeline policy roles executions arguments (nodes ++ [node]) := by
  refine ⟨?_, ?_, ?_, ?_, pipeline.first, pipeline.sizes⟩
  · intro index found present
    rcases getElem?_concat present with old | ⟨rfl, rfl⟩
    · exact pipeline.each index found old
    · rw [sound.role]
      exact ⟨sound.nodeId, named, sound.terminal⟩
  · intro index other found there present
    rcases getElem?_concat present with old | ⟨rfl, rfl⟩
    · exact pipeline.returned index other found there old
    · rw [last] at there
      cases there
      exact point
  · intro index found present unsuccessful
    rcases getElem?_concat present with old | ⟨rfl, rfl⟩
    · exact absurd (completed found (List.mem_of_getElem? old)) unsuccessful
    · refine ⟨length.le, ?_⟩
      intro later other behind there
      obtain ⟨inside, -⟩ := List.getElem?_eq_some_iff.mp there
      rw [List.length_append, List.length_singleton] at inside
      omega
  · exact fun index within => pipeline.handed_concat node within

theorem append_unstarted (pipeline : Pipeline policy roles executions arguments nodes)
    (length : executions.length ≤ nodes.length) (unstarted : IsUnstarted node)
    (nodeId : node.nodeId = workerId nodes.length)
    (named : roles[nodes.length]? = some node.role) :
    Pipeline policy roles executions arguments (nodes ++ [node]) := by
  refine ⟨?_, ?_, ?_, ?_, pipeline.first, pipeline.sizes⟩
  · intro index found present
    rcases getElem?_concat present with old | ⟨rfl, rfl⟩
    · exact pipeline.each index found old
    · refine ⟨nodeId, named, ?_⟩
      rcases unstarted with same | same
      · rw [same]
        rfl
      · rw [same]
        rfl
  · intro index other found there present
    rcases getElem?_concat present with old | ⟨rfl, rfl⟩
    · exact pipeline.returned index other found there old
    · obtain ⟨inside, -⟩ := List.getElem?_eq_some_iff.mp there
      omega
  · intro index found present unsuccessful
    rcases getElem?_concat present with old | ⟨rfl, rfl⟩
    · have before := pipeline.blocked index found old unsuccessful
      refine ⟨before.1, ?_⟩
      intro later other behind there
      rcases getElem?_concat there with old | ⟨rfl, rfl⟩
      · exact before.2 later other behind old
      · exact unstarted
    · refine ⟨length.trans (Nat.le_succ _), ?_⟩
      intro later other behind there
      obtain ⟨inside, -⟩ := List.getElem?_eq_some_iff.mp there
      rw [List.length_append, List.length_singleton] at inside
      omega
  · exact fun index within => pipeline.handed_concat node within

theorem append_execution (pipeline : Pipeline policy roles executions arguments nodes)
    (length : executions.length = nodes.length)
    (completed : ∀ node ∈ nodes, node.status = .completed)
    {dependency : Option String}
    (begins : nodes = [] → dependency = none)
    (follows : ∀ index, index + 1 = nodes.length → ∃ (before : Execution) (raw : String),
        executions[index]? = some before ∧ before.Succeeded raw ∧
        dependency = some (policy.sanitizeContent raw)) :
    Pipeline policy roles (executions ++ [({} : Execution)]) (arguments ++ [dependency])
      nodes := by
  have inside : ∀ {index}, index < nodes.length →
      (executions ++ [({} : Execution)])[index]? = executions[index]? := by
    intro index within
    exact List.getElem?_append_left (by omega)
  refine ⟨pipeline.each, ?_, ?_, ?_, ?_, ?_⟩
  · intro index execution node there present
    obtain ⟨within, -⟩ := List.getElem?_eq_some_iff.mp present
    rw [inside within] at there
    exact pipeline.returned index execution node there present
  · intro index node present unsuccessful
    exact absurd (completed node (List.mem_of_getElem? present)) unsuccessful
  · intro index within
    rw [List.length_append, List.length_singleton, length] at within
    rcases Nat.lt_or_ge (index + 1) executions.length with earlier | last
    · rcases pipeline.handed index earlier with
        ⟨before, node, raw, there, present, success, succeeded, argument⟩
      have kept : (arguments ++ [dependency])[index + 1]? =
          some (some (policy.sanitizeContent raw)) := by
        rw [List.getElem?_append_left (by rw [pipeline.sizes]; exact earlier)]
        exact argument
      exact ⟨before, node, raw, (inside (by omega)).trans there, present,
        success, succeeded, kept⟩
    · have here : index + 1 = nodes.length := by omega
      rcases follows index here with ⟨before, raw, there, succeeded, rfl⟩
      have bound : index < nodes.length := by omega
      refine ⟨before, nodes[index], raw, (inside bound).trans there, List.getElem?_eq_getElem bound,
        completed _ (List.getElem_mem bound), succeeded, ?_⟩
      have position : index + 1 = arguments.length := by
        rw [pipeline.sizes, length, here]
      rw [position, List.getElem?_append_right (Nat.le_refl _), Nat.sub_self]
      rfl
  · intro argument present
    cases known : arguments with
    | nil =>
      rw [known] at present
      cases present
      apply begins
      have none_ := pipeline.sizes
      rw [known, length] at none_
      exact List.length_eq_zero_iff.mp none_.symm
    | cons first rest =>
      rw [known] at present
      apply pipeline.first
      rw [known]
      exact present
  · rw [List.length_append, List.length_append, pipeline.sizes]
    rfl

end Pipeline

end TurningGood.MultiAgent
