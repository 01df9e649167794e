import TurningGood.MultiAgent.StrategyResults

/-!
# What a call of a strategy keeps

Every step of a call, of its executions and of itself keeps the nodes that it
has collected in order, and the executions behind the nodes that they have
returned.
-/

namespace TurningGood.MultiAgent

open TurningGood.Foundation

/-! ## What every call keeps -/

/-- What a call awaits, and what it has collected. -/
def ParentKeeps (policy : ResultPolicy) (roles : List String)
    (executions : List Execution) (arguments : List (Option String)) :
    CrewParent → Prop
  | .gathering => executions.length = roles.length
  | .executing nodes =>
    Pipeline policy roles executions arguments nodes ∧ executions.length = nodes.length + 1 ∧
      (∀ node ∈ nodes, node.status = .completed) ∧
      (∀ execution, executions[nodes.length]? = some execution → execution.ended = false) ∧
      nodes.length < roles.length
  | .reporting nodes _ interrupted =>
    Pipeline policy roles executions arguments nodes ∧
      interrupted = false ∧ executions.length ≤ nodes.length ∧
      ∃ node ∈ nodes, node.status ≠ .completed
  | .collected nodes =>
    Pipeline policy roles executions arguments nodes ∧
      executions.length ≤ nodes.length ∧ nodes.length = roles.length
  | .raised => False

/-- The executions of a crew are steady. -/
def AllSteady (policy : ResultPolicy) (roles : List String) (executions : List Execution) : Prop :=
  ∀ (index : Nat) (execution : Execution) (role : String),
    executions[index]? = some execution → roles[index]? = some role →
      execution.Steady policy (workerId index) role

/-- What every call keeps. -/
structure StrategyCall.Keeps (policy : ResultPolicy) (run : MultiAgentRun)
    (call : StrategyCall) : Prop where
  roles : call.crew.roles = run.nodes.map MultiAgentNode.role
  uncancelled : call.crew.cancelled = false
  strategy : call.crew.parent = .gathering → run.strategy = .fanOutFanIn
  steady : AllSteady policy call.crew.roles call.crew.executions
  parent : ParentKeeps policy call.crew.roles call.crew.executions call.arguments call.crew.parent

section Advance

variable {policy : ResultPolicy} {crew : Crew}
  {arguments : List (Option String)} {nodes : List MultiAgentNode}

theorem advance_blocked (pipeline : Pipeline policy crew.roles crew.executions arguments nodes)
    (length : crew.executions.length ≤ nodes.length)
    (unsuccessful : ∃ node ∈ nodes, node.status ≠ .completed) :
    ParentKeeps policy crew.roles crew.executions arguments (crew.advance nodes true).parent := by
  unfold Crew.advance
  cases found : crew.roles[nodes.length]? with
  | none =>
    have behind := List.getElem?_eq_none_iff.mp found
    exact ⟨pipeline, length, Nat.le_antisymm pipeline.length_le behind⟩
  | some role =>
    rcases unsuccessful with ⟨node, member, status⟩
    have unstarted : IsUnstarted (cancelledNode (workerId nodes.length)
        role "前序 Worker 未成功") := .inr rfl
    refine ⟨pipeline.append_unstarted length unstarted rfl found, rfl, ?_,
      node, List.mem_append_left _ member, status⟩
    rw [List.length_append]
    exact length.trans (Nat.le_add_right _ _)

/-- The arguments of the executions that a step has added. -/
def addedArguments (before after : List Execution)
    (dependency : Option String) : List (Option String) :=
  (after.drop before.length).map fun _ => dependency

theorem addedArguments_same {before after : List Execution}
    (length : after.length = before.length) (dependency : Option String) :
    addedArguments before after dependency = [] := by
  rw [addedArguments, List.drop_eq_nil_of_le length.le]
  rfl

theorem addedArguments_one {before after : List Execution}
    (length : after.length = before.length) (dependency : Option String) :
    addedArguments before (after ++ [({} : Execution)]) dependency = [dependency] := by
  rw [addedArguments, ← length, List.drop_left]
  rfl

theorem advance_unblocked (pipeline : Pipeline policy crew.roles crew.executions arguments nodes)
    (length : crew.executions.length = nodes.length)
    (completed : ∀ node ∈ nodes, node.status = .completed)
    {dependency : Option String}
    (begins : nodes = [] → dependency = none)
    (follows : nodes.length < crew.roles.length →
      ∀ index, index + 1 = nodes.length → ∃ (before : Execution) (raw : String),
          crew.executions[index]? = some before ∧ before.Succeeded raw ∧
            dependency = some (policy.sanitizeContent raw)) :
    ParentKeeps policy crew.roles (crew.advance nodes false).executions
      (arguments ++ addedArguments crew.executions (crew.advance nodes false).executions dependency)
      (crew.advance nodes false).parent := by
  unfold Crew.advance
  cases found : crew.roles[nodes.length]? with
  | none =>
    have behind := List.getElem?_eq_none_iff.mp found
    dsimp only
    rw [addedArguments_same rfl, List.append_nil]
    exact ⟨pipeline, length.le, Nat.le_antisymm pipeline.length_le behind⟩
  | some role =>
    obtain ⟨within, -⟩ := List.getElem?_eq_some_iff.mp found
    simp only [Bool.false_eq_true, if_false]
    rw [addedArguments_one rfl]
    refine ⟨pipeline.append_execution length completed begins
      (follows within), ?_, completed, ?_, within⟩
    · rw [List.length_append, length]
      rfl
    · intro execution present
      rw [List.getElem?_append_right length.le, length, Nat.sub_self] at present
      cases present
      rfl

end Advance

section Steps

variable {policy : ResultPolicy} {crew : Crew}

theorem advance_blocked_executions (nodes : List MultiAgentNode) :
    (crew.advance nodes true).executions = crew.executions := by
  unfold Crew.advance
  cases crew.roles[nodes.length]? <;> rfl

/-- What a strategy does not change when it goes on. -/
structure SameStrategy (before after : Crew) : Prop where
  roles : after.roles = before.roles
  cancelled : after.cancelled = before.cancelled
  parent : after.parent ≠ .gathering
  executions : after.executions = before.executions ∨
    after.executions = before.executions ++ [({} : Execution)]

theorem advance_sameStrategy (nodes : List MultiAgentNode) (blocked : Bool) :
    SameStrategy crew (crew.advance nodes blocked) := by
  unfold Crew.advance
  cases crew.roles[nodes.length]? with
  | none => exact ⟨rfl, rfl, nofun, .inl rfl⟩
  | some role =>
    cases blocked with
    | true => exact ⟨rfl, rfl, nofun, .inl rfl⟩
    | false => exact ⟨rfl, rfl, nofun, .inr rfl⟩

theorem advanceFrom_sameStrategy (nodes : List MultiAgentNode) (node : MultiAgentNode) :
    SameStrategy crew (crew.advanceFrom policy nodes node) := by
  unfold Crew.advanceFrom
  dsimp only
  split
  · exact advance_sameStrategy _ true
  · split
    · exact advance_sameStrategy _ false
    · split
      · exact advance_sameStrategy _ false
      · exact ⟨rfl, rfl, nofun, .inl rfl⟩

theorem AllSteady.sameStrategy {after : Crew} (steady : AllSteady policy crew.roles crew.executions)
    (same : SameStrategy crew after) :
    AllSteady policy after.roles after.executions := by
  rw [same.roles]
  rcases same.executions with unchanged | grown
  · rw [unchanged]
    exact steady
  · rw [grown]
    intro index execution role present named
    rcases Nat.lt_or_ge index crew.executions.length with within | behind
    · rw [List.getElem?_append_left within] at present
      exact steady index execution role present named
    · rw [List.getElem?_append_right behind] at present
      have new : execution = {} :=
        List.mem_singleton.mp (List.mem_of_getElem? present)
      rw [new]
      exact ⟨rfl, trivial⟩

theorem AllSteady.set {roles : List String} {executions : List Execution}
    (steady : AllSteady policy roles executions) {index : Nat}
    {target : Execution} {role : String} (named : roles[index]? = some role)
    (one : target.Steady policy (workerId index) role) :
    AllSteady policy roles (executions.set index target) := by
  intro position execution other present there
  by_cases same : index = position
  · subst same
    rw [List.getElem?_set_self'] at present
    rcases Option.map_eq_some_iff.mp present with ⟨_, -, rfl⟩
    rw [named] at there
    cases there
    exact one
  · rw [List.getElem?_set_ne same] at present
    exact steady position execution other present there

theorem advanceFrom_keeps {arguments : List (Option String)}
    {nodes : List MultiAgentNode} {node : MultiAgentNode}
    {target : Execution} {role : String}
    (pipeline : Pipeline policy crew.roles crew.executions arguments nodes)
    (length : crew.executions.length = nodes.length + 1)
    (completed : ∀ node ∈ nodes, node.status = .completed)
    (last : crew.executions[nodes.length]? = some target)
    (point : target.point = .returned node)
    (named : crew.roles[nodes.length]? = some role)
    (sound : NodeOf policy (workerId nodes.length) role target.task node)
    {dependency : Option String}
    (next : node.status = .completed → node.content.isNone = false →
      nodes.length + 1 < crew.roles.length → dependency = policy.buildDependency node) :
    ParentKeeps policy crew.roles (crew.advanceFrom policy nodes node).executions
      (arguments ++ addedArguments crew.executions
        (crew.advanceFrom policy nodes node).executions dependency)
      (crew.advanceFrom policy nodes node).parent := by
  have grown := pipeline.append_returned length completed last point named
    sound
  have sizes : (nodes ++ [node]).length = nodes.length + 1 := by
    rw [List.length_append, List.length_singleton]
  unfold Crew.advanceFrom
  dsimp only
  split_ifs with unsuccessful
  · have status : node.status ≠ .completed := by
      rcases unsuccessful with status | nothing
      · exact status
      · intro success
        rcases sound.completed success with ⟨raw, -, content⟩
        rw [content] at nothing
        cases nothing
    rw [advance_blocked_executions, addedArguments_same rfl, List.append_nil]
    exact advance_blocked grown (by rw [sizes, length])
      ⟨node, List.mem_append_right _ List.mem_cons_self, status⟩
  · rw [not_or, not_not, Bool.not_eq_true] at unsuccessful
    have success : ∀ other ∈ nodes ++ [node],
        other.status = .completed := by
      intro other member
      rcases List.mem_append.mp member with old | new
      · exact completed other old
      · rw [List.mem_singleton.mp new]
        exact unsuccessful.1
    have begins : nodes ++ [node] = [] → dependency = none := by
      intro nothing
      rw [nothing] at sizes
      cases sizes
    split
    · next outside =>
        apply advance_unblocked grown (by rw [sizes, length]) success begins
        intro within
        rw [List.getElem?_eq_none_iff] at outside
        omega
    · next found =>
        obtain ⟨within, -⟩ := List.getElem?_eq_some_iff.mp found
        have given := next unsuccessful.1 unsuccessful.2 (by omega)
        rcases sound.completed unsuccessful.1 with ⟨raw, ceased, content⟩
        split
        · next built =>
            apply advance_unblocked grown (by rw [sizes, length]) success
              begins
            intro _ index here
            rw [sizes] at here
            cases here
            refine ⟨target, raw, last, ceased, ?_⟩
            rw [given, built]
            rw [ResultPolicy.buildDependency, content, Option.filter_eq_some_iff] at built
            exact built.1.symm
        · rw [addedArguments_same rfl, List.append_nil]
          refine ⟨grown.append_unstarted (by rw [sizes, length]) (.inl rfl)
            rfl found, rfl, ?_, _, List.mem_append_right _ List.mem_cons_self,
            nofun⟩
          have covered : crew.executions.length ≤ (nodes ++ [node]).length :=
            by rw [sizes, length]
          exact covered.trans (List.sublist_append_left _ _).length_le

end Steps

/-! ## Every step -/

namespace Pipeline

variable {policy : ResultPolicy} {roles : List String}
  {executions : List Execution} {arguments : List (Option String)}
  {nodes : List MultiAgentNode}

theorem ends (pipeline : Pipeline policy roles executions arguments nodes)
    {index : Nat} {execution target : Execution}
    (present : executions[index]? = some execution)
    (point : target.point = execution.point)
    (unsuccessful : ∀ raw, ¬ execution.Succeeded raw) :
    Pipeline policy roles (executions.set index target) arguments nodes := by
  obtain ⟨inside, -⟩ := List.getElem?_eq_some_iff.mp present
  refine ⟨pipeline.each, ?_, ?_, ?_, pipeline.first, ?_⟩
  · intro position other node there given
    by_cases same : index = position
    · subst same
      rw [List.getElem?_set_self inside] at there
      cases there
      rw [point]
      exact pipeline.returned index execution node present given
    · rw [List.getElem?_set_ne same] at there
      exact pipeline.returned position other node there given
  · rw [List.length_set]
    exact pipeline.blocked
  · rw [List.length_set]
    intro position within
    rcases pipeline.handed position within with
      ⟨before, node, raw, there, given, success, succeeded, argument⟩
    have differs : index ≠ position := by
      rintro rfl
      rw [present] at there
      cases there
      exact unsuccessful raw succeeded
    exact ⟨before, node, raw, (List.getElem?_set_ne differs).trans there,
      given, success, succeeded, argument⟩
  · rw [List.length_set]
    exact pipeline.sizes

end Pipeline

namespace StrategyCall

variable {policy : ResultPolicy} {run : MultiAgentRun}
  {call target : StrategyCall}

variable {index : Nat} {role : String} {execution : Execution}

theorem first_keeps {base : Crew} (roles : base.roles = run.nodes.map MultiAgentNode.role)
    (uncancelled : base.cancelled = false)
    (empty : base.executions = []) :
    StrategyCall.Keeps policy run
      { crew := base.advance [] false
        dependencyContent := none
        arguments := (base.advance [] false).executions.map fun _ => none } := by
  have same := @advance_sameStrategy base [] false
  have none_ : Pipeline policy base.roles base.executions [] [] := by
    rw [empty]
    exact .nil
  have kept := advance_unblocked none_ (by rw [empty]; rfl) nofun
    (fun _ => rfl : ([] : List MultiAgentNode) = [] → (none : Option String) = none)
    (fun _ index here => absurd here (Nat.succ_ne_zero index))
  have given : [] ++ addedArguments base.executions
      (base.advance [] false).executions none =
        (base.advance [] false).executions.map fun _ => none := by
    rw [List.nil_append, addedArguments, empty]
    rfl
  rw [given] at kept
  refine ⟨same.roles.trans roles, same.cancelled.trans uncancelled,
    fun gathering => absurd gathering same.parent, ?_, ?_⟩
  · apply AllSteady.sameStrategy _ same
    rw [empty]
    intro index execution role present
    cases present
  · dsimp only
    rw [same.roles]
    exact kept

theorem start_keeps (policy : ResultPolicy) (run : MultiAgentRun) :
    (StrategyCall.start run).Keeps policy run := by
  cases strategy : run.strategy with
  | fanOutFanIn =>
    have begun : Crew.start run =
        { run, roles := run.nodes.map MultiAgentNode.role
          executions := (run.nodes.map MultiAgentNode.role).map fun _ => {}
          parent := .gathering } := by
      unfold Crew.start
      rw [strategy]
    unfold StrategyCall.start
    rw [begun]
    refine ⟨rfl, rfl, fun _ => strategy, ?_, ?_⟩
    · intro index execution role present named
      rcases List.mem_map.mp (List.mem_of_getElem? present) with ⟨_, -, rfl⟩
      exact ⟨rfl, trivial⟩
    · exact List.length_map _
  | pipeline =>
    let base : Crew :=
      { run, roles := run.nodes.map MultiAgentNode.role
        executions := [], parent := .executing [] }
    have begun : Crew.start run = base.advance [] false := by
      unfold Crew.start
      rw [strategy]
    unfold StrategyCall.start
    rw [begun]
    exact first_keeps rfl rfl rfl

theorem follow_same {crew : Crew} (dependency : Option String)
    (length : crew.executions.length = call.crew.executions.length) :
    (call.follow crew dependency).arguments = call.arguments := by
  show call.arguments ++ addedArguments _ _ _ = _
  rw [addedArguments_same length, List.append_nil]

/-- An execution at a position has gone on, and nothing else. -/
structure Moved (before : Crew) (index : Nat) (target : Execution)
    (after : Crew) : Prop where
  roles : after.roles = before.roles
  cancelled : after.cancelled = before.cancelled
  parent : after.parent = before.parent
  executions : after.executions = before.executions.set index target

theorem replace_moved (crew : Crew) (index : Nat) (execution target : Execution) :
    Moved crew index target (crew.replace index execution target) :=
  ⟨rfl, rfl, rfl, rfl⟩

theorem Moved.length {before after : Crew} {target : Execution}
    (moved : Moved before index target after) :
    after.executions.length = before.executions.length := by
  rw [moved.executions, List.length_set]

theorem Keeps.moved (keeps : call.Keeps policy run) {target : Execution}
    {moved : Crew} (moves : Moved call.crew index target moved)
    (named : call.crew.roles[index]? = some role)
    (steady : target.Steady policy (workerId index) role)
    (dependency : Option String) (parent : ParentKeeps policy call.crew.roles
      (call.crew.executions.set index target) call.arguments call.crew.parent) :
    (call.follow moved dependency).Keeps policy run := by
  refine ⟨moves.roles.trans keeps.roles, moves.cancelled.trans keeps.uncancelled, ?_, ?_, ?_⟩
  · intro gathering
    apply keeps.strategy
    rw [← moves.parent]
    exact gathering
  · show AllSteady policy moved.roles moved.executions
    rw [moves.roles, moves.executions]
    exact keeps.steady.set named steady
  · rw [follow_same dependency moves.length]
    show ParentKeeps policy moved.roles moved.executions _ moved.parent
    rw [moves.roles, moves.executions, moves.parent]
    exact parent

theorem Keeps.returned (keeps : call.Keeps policy run)
    {nodes : List MultiAgentNode} {node : MultiAgentNode}
    (parent : call.crew.parent = .executing nodes) {target : Execution}
    {moved : Crew} (moves : Moved call.crew nodes.length target moved)
    (point : target.point = .returned node)
    (named : call.crew.roles[nodes.length]? = some role)
    (steady : target.Steady policy (workerId nodes.length) role) :
    (call.follow (moved.settle policy target)
      (call.nextDependency policy target)).Keeps policy run := by
  have kept := keeps.parent
  rw [parent] at kept
  rcases kept with ⟨pipeline, length, completed, -⟩
  have replaced := pipeline.set (Nat.le_refl nodes.length) target
  rw [← moves.executions, ← moves.roles] at replaced
  have last : moved.executions[nodes.length]? = some target := by
    rw [moves.executions]
    apply List.getElem?_set_self
    omega
  have settled :
      moved.settle policy target = moved.advanceFrom policy nodes node := by
    unfold Crew.settle
    rw [moves.parent, parent, point]
  have next : node.status = .completed → node.content.isNone = false →
      nodes.length + 1 < moved.roles.length →
        call.nextDependency policy target = policy.buildDependency node := by
    intro success content within
    rw [moves.roles] at within
    unfold nextDependency
    rw [parent, point]
    exact if_neg (by simp [success, content, within])
  have sound := steady.point
  rw [point] at sound
  rw [← moves.roles] at named
  have going := advanceFrom_keeps replaced (moves.length.trans length)
    completed last point named sound next
  have same := @advanceFrom_sameStrategy policy moved nodes node
  have allSteady := keeps.steady.set (moves.roles ▸ named) steady
  rw [← moves.executions, ← moves.roles] at allSteady
  rw [settled]
  refine ⟨(same.roles.trans moves.roles).trans keeps.roles,
    (same.cancelled.trans moves.cancelled).trans keeps.uncancelled,
    fun gathering => absurd gathering same.parent,
    AllSteady.sameStrategy allSteady same, ?_⟩
  unfold addedArguments at going
  rw [moves.length] at going
  show ParentKeeps policy (moved.advanceFrom policy nodes node).roles _ _ _
  rw [same.roles]
  exact going

theorem not_returned {target : Execution} {nodeId : String}
    {node : MultiAgentNode}
    (resumed : execution.Resumed policy nodeId role target)
    (point : execution.point = .returned node) : False := by
  have running := resumed.running
  rw [Execution.ended, point] at running
  cases running

theorem last_of_running {roles : List String} {executions : List Execution}
    {arguments : List (Option String)} {nodes : List MultiAgentNode}
    (pipeline : Pipeline policy roles executions arguments nodes)
    {target : Execution} {nodeId : String}
    (present : executions[index]? = some execution)
    (resumed : execution.Resumed policy nodeId role target) :
    nodes.length ≤ index := by
  by_contra within
  rw [Nat.not_le] at within
  have point := pipeline.returned index execution nodes[index] present
    (List.getElem?_eq_getElem within)
  exact not_returned resumed point

theorem settle_of_running {crew : Crew} (running : execution.ended = false) :
    crew.settle policy execution = crew := by
  unfold Crew.settle
  split
  · next point =>
      rw [Execution.ended, point] at running
      cases running
  · next point =>
      rw [Execution.ended, point] at running
      cases running
  · rfl

theorem Keeps.resume (keeps : call.Keeps policy run)
    {eventError : Option String} {resumption : Resumption}
    (stepped : call.step policy (.resume eventError index resumption) =
      some target) : target.Keeps policy run := by
  rcases Option.bind_eq_some_iff.mp stepped with ⟨execution, present, stepped⟩
  rcases Option.bind_eq_some_iff.mp stepped with ⟨role, named, stepped⟩
  rcases Option.bind_eq_some_iff.mp stepped with ⟨after, went, same⟩
  cases same
  have resumed := Execution.resume_resumed went
  have steady := resumed.steady (keeps.steady index execution role present
    named)
  have moves := replace_moved call.crew index execution after
  obtain ⟨inside, -⟩ := List.getElem?_eq_some_iff.mp present
  have kept := keeps.parent
  cases parent : call.crew.parent with
  | gathering =>
    rw [parent] at kept
    rw [Crew.settle_eq_self (by rw [moves.parent, parent]; exact nofun)]
    apply keeps.moved moves named steady
    rw [parent]
    exact List.length_set.trans kept
  | executing nodes =>
    rw [parent] at kept
    rcases kept with ⟨pipeline, length, completed, -, within⟩
    have behind := last_of_running pipeline present resumed
    have last : index = nodes.length := by omega
    subst last
    cases ended : after.ended with
    | true =>
      have sound := steady.point
      rw [Execution.ended] at ended
      split at ended
      · next node point =>
          exact keeps.returned parent moves point named steady
      · next point =>
          rw [point] at sound
          exact sound.elim
      · cases ended
    | false =>
      rw [settle_of_running ended]
      apply keeps.moved moves named steady
      rw [parent]
      refine ⟨pipeline.set (Nat.le_refl _) after,
        List.length_set.trans length, completed, ?_, within⟩
      intro other there
      rw [List.getElem?_set_self inside] at there
      cases there
      exact ended
  | reporting nodes current interrupted =>
    rw [parent] at kept
    have behind := last_of_running kept.1 present resumed
    have few := kept.2.2.1
    omega
  | collected nodes =>
    rw [parent] at kept
    have behind := last_of_running kept.1 present resumed
    have few := kept.2.1
    omega
  | raised =>
    rw [parent] at kept
    exact kept.elim

theorem Keeps.reported (keeps : call.Keeps policy run)
    {outcome : SinkOutcome}
    (stepped : call.step policy (.reported outcome) = some target) :
    target.Keeps policy run := by
  rcases Option.map_eq_some_iff.mp stepped with ⟨crew, went, rfl⟩
  have kept := keeps.parent
  rw [Crew.reported] at went
  split at went
  · next nodes current interrupted parent =>
      rw [parent] at kept
      rcases kept with ⟨pipeline, rfl, length, unsuccessful⟩
      simp only [Bool.false_eq_true, if_false] at went
      split_ifs at went
      cases went
      have same := @advance_sameStrategy call.crew nodes true
      have unmoved := @advance_blocked_executions call.crew nodes
      refine ⟨same.roles.trans keeps.roles, same.cancelled.trans keeps.uncancelled,
        fun gathering => absurd gathering same.parent,
        AllSteady.sameStrategy keeps.steady same, ?_⟩
      rw [follow_same _ (by rw [unmoved])]
      show ParentKeeps policy (call.crew.advance nodes true).roles
        (call.crew.advance nodes true).executions _ _
      rw [same.roles, unmoved]
      exact advance_blocked pipeline length unsuccessful
  · cases went

theorem unsuccessful_of_taskEnds {after : Execution} {ended : WorkerEnd}
    (ceased : execution.taskEnds ended = some after) (raw : String) :
    ¬ execution.Succeeded raw := by
  unfold Execution.taskEnds at ceased
  split at ceased
  · next cancelRequested running =>
      intro succeeded
      rw [Execution.Succeeded, running] at succeeded
      cases succeeded
  · cases ceased

theorem Keeps.taskEnds (keeps : call.Keeps policy run) {ended : WorkerEnd}
    (stepped : call.step policy (.taskEnds index ended) = some target) :
    target.Keeps policy run := by
  rcases Option.map_eq_some_iff.mp stepped with ⟨crew, went, rfl⟩
  rcases Crew.taskEnds_cases went with ⟨execution, after, present, ceased, rfl⟩
  have unsuccessful := unsuccessful_of_taskEnds ceased
  obtain ⟨inside, -⟩ := List.getElem?_eq_some_iff.mp present
  rcases Execution.taskEnds_spec ceased with ⟨point, -, -, -⟩
  have kept := keeps.parent
  refine ⟨keeps.roles, keeps.uncancelled, keeps.strategy, ?_, ?_⟩
  · intro position other role there named
    replace there : (call.crew.executions.set index after)[position]? =
      some other := there
    by_cases same : index = position
    · subst same
      rw [List.getElem?_set_self inside] at there
      cases there
      have before := keeps.steady index execution role present named
      exact (Execution.taskEnds_steady ceased before).1
    · rw [List.getElem?_set_ne same] at there
      exact keeps.steady position other role there named
  · rw [follow_same _ List.length_set]
    show ParentKeeps policy call.crew.roles
      (call.crew.executions.set index after) call.arguments call.crew.parent
    cases parent : call.crew.parent with
    | gathering =>
      rw [parent] at kept
      exact List.length_set.trans kept
    | executing nodes =>
      rw [parent] at kept
      rcases kept with ⟨pipeline, length, completed, running, within⟩
      refine ⟨pipeline.ends present point unsuccessful,
        List.length_set.trans length, completed, ?_, within⟩
      intro other there
      by_cases same : index = nodes.length
      · subst same
        rw [List.getElem?_set_self inside] at there
        cases there
        have before := running execution present
        rw [Execution.ended] at before ⊢
        rw [point]
        exact before
      · rw [List.getElem?_set_ne same] at there
        exact running other there
    | reporting nodes current interrupted =>
      rw [parent] at kept
      rcases kept with ⟨pipeline, uninterrupted, length, failed⟩
      exact ⟨pipeline.ends present point unsuccessful, uninterrupted,
        List.length_set.le.trans length, failed⟩
    | collected nodes =>
      rw [parent] at kept
      rcases kept with ⟨pipeline, length, all⟩
      exact ⟨pipeline.ends present point unsuccessful, List.length_set.le.trans length, all⟩
    | raised =>
      rw [parent] at kept
      exact kept

theorem Keeps.step (keeps : call.Keeps policy run) {label : StrategyLabel}
    (stepped : StrategyCall.step policy call label = some target) :
    target.Keeps policy run := by
  cases label with
  | resume eventError index resumption => exact keeps.resume stepped
  | reported outcome => exact keeps.reported stepped
  | taskEnds index ended => exact keeps.taskEnds stepped

end StrategyCall

end TurningGood.MultiAgent
