import TurningGood.Foundation.Machine

/-!
# Two runs that look alike

A component serves one client while others share its state.  The client is
isolated if two runs that differ only in what the others do give it the same
answers.

The rule of unwinding reduces this to single steps: an operation of the
client answers the same in states that look alike and leaves such states, and
what the others do on one side leaves them as well.  For operations that are
composed of actions, a relational triple says what an action does to two
states at once.
-/

namespace TurningGood.Foundation

universe u v w x

/-! ## Actions -/

/-- A computation that changes a state and may fail behind the change. -/
abbrev Action (State : Type u) (Error : Type u) (Value : Type u) :=
  ExceptT Error (StateM State) Value

namespace Action

variable {State Error Value Result : Type u}

/-- The result of an action, and the state that it leaves. -/
def perform (action : Action State Error Value) (state : State) :
    Except Error Value × State :=
  StateT.run (ExceptT.run action) state

theorem perform_pure (value : Value) (state : State) :
    perform (pure value : Action State Error Value) state = (.ok value, state) := rfl

theorem perform_throw (error : Error) (state : State) :
    perform (throw error : Action State Error Value) state = (.error error, state) := rfl

theorem perform_get (state : State) :
    perform (get : Action State Error State) state = (.ok state, state) := rfl

theorem perform_modify (change : State → State) (state : State) :
    perform (modify change : Action State Error PUnit) state = (.ok ⟨⟩, change state) := rfl

/-- What is read of the state, without a change. -/
def reading (read : State → Except Error Value) :
    Action State Error Value := do
  let state ← get
  match read state with
  | .ok value => return value
  | .error error => throw error

theorem perform_reading (read : State → Except Error Value)
    (state : State) : perform (reading read) state = (read state, state) := by
  change perform (match read state with
    | .ok value => pure value
    | .error error => throw error : Action State Error Value) state = _
  cases read state with
  | ok value => rfl
  | error error => rfl

theorem perform_bind (action : Action State Error Value)
    (next : Value → Action State Error Result) (state : State) :
    perform (action >>= next) state =
      match perform action state with
      | (.ok value, target) => perform (next value) target
      | (.error error, target) => (.error error, target) := by
  change (StateT.run (ExceptT.run action >>= ExceptT.bindCont next) state :
    Id (Except Error Result × State)) = _
  rw [StateT.run_bind]
  change (StateT.run (ExceptT.bindCont next (perform action state).1)
    (perform action state).2 : Id (Except Error Result × State)) = _
  rcases perform action state with ⟨error | value, target⟩
  · rfl
  · rfl

variable (alike : State → State → Prop)

/--
The action gives the same result in both states.  The states that a success
leaves are related by `post`, and those that a failure leaves are alike.
-/
def Agrees (pre : State → State → Prop) (action : Action State Error Value)
    (post : Value → State → State → Prop) : Prop :=
  ∀ left right, pre left right → (perform action left).1 = (perform action right).1 ∧
      match (perform action left).1 with
      | .ok value => post value (perform action left).2 (perform action right).2
      | .error _ => alike (perform action left).2 (perform action right).2

variable {alike}

variable {pre : State → State → Prop} {post : Value → State → State → Prop}

theorem agrees_pure {value : Value} (holds : ∀ left right, pre left right → post value left right) :
    Agrees alike pre (pure value : Action State Error Value) post := by
  intro left right related
  exact ⟨rfl, holds left right related⟩

theorem agrees_throw {error : Error} (holds : ∀ left right, pre left right → alike left right) :
    Agrees alike pre (throw error : Action State Error Value) post := by
  intro left right related
  exact ⟨rfl, holds left right related⟩

theorem agrees_modify {post : PUnit → State → State → Prop}
    {change : State → State} (holds : ∀ left right, pre left right →
      post ⟨⟩ (change left) (change right)) :
    Agrees alike pre (modify change : Action State Error PUnit) post := by
  intro left right related
  exact ⟨rfl, holds left right related⟩

variable {action : Action State Error Value}

theorem Agrees.bind {between : Value → State → State → Prop}
    {next : Value → Action State Error Result}
    {post : Result → State → State → Prop}
    (first : Agrees alike pre action between)
    (second : ∀ value, Agrees alike (between value) (next value) post) :
    Agrees alike pre (action >>= next) post := by
  intro left right related
  rcases first left right related with ⟨same, after⟩
  rw [perform_bind, perform_bind]
  rcases atLeft : perform action left with ⟨error | value, target⟩
  · rcases atRight : perform action right with ⟨result, other⟩
    rw [atLeft, atRight] at same after
    cases same
    exact ⟨rfl, after⟩
  · rcases atRight : perform action right with ⟨result, other⟩
    rw [atLeft, atRight] at same after
    cases same
    exact second value target other after

theorem agrees_reading {read : State → Except Error Value}
    (same : ∀ left right, pre left right → read left = read right)
    (related : ∀ left right, pre left right → alike left right) :
    Agrees alike pre (reading read)
      fun value left right => pre left right ∧ read left = .ok value := by
  intro left right before
  simp only [perform_reading]
  refine ⟨same left right before, ?_⟩
  cases found : read left with
  | ok value => exact ⟨before, rfl⟩
  | error error => exact related left right before

theorem Agrees.weaken {stronger : State → State → Prop}
    {weaker : Value → State → State → Prop}
    (agrees : Agrees alike pre action post)
    (before : ∀ left right, stronger left right → pre left right)
    (after : ∀ value left right, post value left right →
      weaker value left right) : Agrees alike stronger action weaker := by
  intro left right related
  rcases agrees left right (before left right related) with ⟨same, holds⟩
  refine ⟨same, ?_⟩
  revert holds
  cases (perform action left).1 with
  | ok value => exact after value _ _
  | error error => exact id

theorem Agrees.result (agrees : Agrees alike pre action fun _ => alike)
    {left right : State} (related : pre left right) :
    (perform action left).1 = (perform action right).1 ∧
      alike (perform action left).2 (perform action right).2 := by
  rcases agrees left right related with ⟨same, holds⟩
  refine ⟨same, ?_⟩
  revert holds
  cases (perform action left).1 with
  | ok value => exact id
  | error error => exact id

end Action

/-- Two runs, with the answers that the client got in each of them. -/
structure TwoRuns (State : Type u) (Answer : Type v) where
  left : State
  right : State
  leftAnswers : List Answer
  rightAnswers : List Answer

/-- The client operates in both runs; the others change one of them. -/
inductive TwoRunsLabel (Operation : Type w) (Change : Type x) where
  | operate (operation : Operation)
  | left (change : Change)
  | right (change : Change)

variable {State : Type u} {Answer : Type v} {Operation : Type w}
  {Change : Type x}

/--
The machine of two runs from the same state.  The answer to an operation is
compared if it is `shown`.
-/
def twoRuns (initial : State → Prop) (operate : Operation → State → Answer × State)
    (shown : Operation → Bool) (others : Change → State → Option State) :
    Machine (TwoRuns State Answer) (TwoRunsLabel Operation Change) where
  initial runs := initial runs.left ∧ runs.right = runs.left ∧
    runs.leftAnswers = [] ∧ runs.rightAnswers = []
  step runs
    | .operate operation =>
      let answers (answer : Answer) (earlier : List Answer) :=
        if shown operation then earlier ++ [answer] else earlier
      some
        { left := (operate operation runs.left).2
          right := (operate operation runs.right).2
          leftAnswers := answers (operate operation runs.left).1 runs.leftAnswers
          rightAnswers := answers (operate operation runs.right).1 runs.rightAnswers }
    | .left change =>
      (others change runs.left).map fun left => { runs with left := left }
    | .right change =>
      (others change runs.right).map fun right =>
        { runs with right := right }

/-- The guard that the operations of the client meet a condition. -/
def OnOperations (comparable : State → State → Operation → Prop) (runs : TwoRuns State Answer) :
    TwoRunsLabel Operation Change → Prop
  | .operate operation => comparable runs.left runs.right operation
  | .left _ | .right _ => True

theorem alike_of_twoRuns {initial : State → Prop}
    {operate : Operation → State → Answer × State}
    {shown : Operation → Bool} {others : Change → State → Option State}
    {alike : State → State → Prop}
    {comparable : State → State → Operation → Prop}
    (initially : ∀ state, initial state → alike state state)
    (operates : ∀ operation left right, alike left right → comparable left right operation →
      (shown operation = true → (operate operation left).1 = (operate operation right).1) ∧
      alike (operate operation left).2 (operate operation right).2)
    (onLeft : ∀ change left right target, alike left right →
      others change left = some target → alike target right)
    (onRight : ∀ change left right target, alike left right →
      others change right = some target → alike left target)
    {runs : TwoRuns State Answer}
    (reached : (twoRuns initial operate shown others).Reaches (OnOperations comparable) runs) :
    alike runs.left runs.right ∧ runs.leftAnswers = runs.rightAnswers := by
  apply @Machine.Reaches.invariant _ _ _ _ (fun runs =>
    alike runs.left runs.right ∧ runs.leftAnswers = runs.rightAnswers)
    ?_ ?_ _ reached
  · rintro ⟨left, right, leftAnswers, rightAnswers⟩ ⟨start, same, none, nil⟩
    dsimp only at same none nil
    subst same none nil
    exact ⟨initially _ start, rfl⟩
  · intro runs label target _ holds allowed stepped
    cases label with
    | operate operation =>
      cases stepped
      rcases operates operation _ _ holds.1 allowed with ⟨same, alike⟩
      refine ⟨alike, ?_⟩
      dsimp only
      split
      · rename_i visible
        rw [same visible, holds.2]
      · exact holds.2
    | left change =>
      rcases Option.map_eq_some_iff.mp stepped with ⟨left, changed, rfl⟩
      exact ⟨onLeft change _ _ _ holds.1 changed, holds.2⟩
    | right change =>
      rcases Option.map_eq_some_iff.mp stepped with ⟨right, changed, rfl⟩
      exact ⟨onRight change _ _ _ holds.1 changed, holds.2⟩

end TurningGood.Foundation
