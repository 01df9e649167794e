import TurningGood.Proactive.ReviewCursor

/-!
# The sessions of one review run

A run of Breakbeat or of Dream goes through the sessions in a given order.
It selects the window of each session, and a window with a message above the
token limit raises.  The batches of a session end the review of that session
when one of them fails, but the error of a selection leaves the loop.

Here the answers of the environment are given for each session: the messages
that are read and how each batch ends.  The result of a session alone is
compared with its result in the run.
-/

namespace TurningGood.Proactive

open TurningGood.Foundation

/-! ## The loop over the sessions -/

/-- How the review of a batch ends. -/
inductive BatchEnd where
  | reviewed
  | failed
deriving DecidableEq

/-- A session of a run, with what it reads and how its batches end. -/
structure SessionVisit where
  sessionId : String
  archived : Bool
  /-- what `_messages_for` returns -/
  messages : List ReviewMessage
  batchEnd : Nat → BatchEnd

/-- The validated settings of a service. -/
structure ReviewLimits where
  refresh : Nat
  tokenLimit : Nat
  refreshPositive : 0 < refresh
  tokenLimitPositive : 0 < tokenLimit

/-- The cursors, and the batches that were given to the executor. -/
structure ReviewProgress where
  cursors : Dict String ReviewCursor
  reviewed : List (String × List ReviewMessage)

/-- How a run ends. -/
inductive RunEnd where
  | completed
  /-- Breakbeat reports `execution_failed`, and the next run is scheduled -/
  | executionFailed
  /-- Dream defers its next run, and raises -/
  | raised (text : String)
deriving DecidableEq

/-- The loop over the batches in `_review_selection`. -/
def reviewBatches (visit : SessionVisit) : Nat → List ReviewBatch → ReviewProgress → ReviewProgress
  | _, [], progress => progress
  | index, batch :: rest, progress =>
    let called :=
      { progress with
        reviewed := progress.reviewed ++ [(visit.sessionId, batch.messages)] }
    match visit.batchEnd index with
    | .failed => called
    | .reviewed =>
      reviewBatches visit (index + 1) rest
        { called with
          cursors := called.cursors.insert visit.sessionId batch.cursor }

/-- `_review_selection`. -/
def reviewSelection (visit : SessionVisit) (selection : ReviewSelection)
    (progress : ReviewProgress) : ReviewProgress :=
  if selection.batches = [] then
    match selection.advanceCursor with
    | none => progress
    | some cursor =>
      { progress with
        cursors := progress.cursors.insert visit.sessionId cursor }
  else
    reviewBatches visit 0 selection.batches progress

/-- The window of a session, from a cursor of it. -/
def SessionVisit.select (visit : SessionVisit) (limits : ReviewLimits)
    (now : Nat) (cursor : Option ReviewCursor) :
    Except String ReviewSelection :=
  selectReviewWindow visit.messages cursor now limits.refresh limits.tokenLimit

/-- The loop of `run`; the error of a selection leaves it. -/
def reviewSessions (limits : ReviewLimits) (now : Nat) :
    List SessionVisit → ReviewProgress → ReviewProgress × Option String
  | [], progress => (progress, none)
  | visit :: rest, progress =>
    if visit.archived then
      reviewSessions limits now rest progress
    else
      match visit.select limits now
          (progress.cursors.get? visit.sessionId) with
      | .error text => (progress, some text)
      | .ok selection =>
        reviewSessions limits now rest (reviewSelection visit selection progress)

/-- `run` of a service, on the sessions that its scope lists. -/
def reviewRun (reviewing : Reviewing) (limits : ReviewLimits) (now : Nat)
    (visits : List SessionVisit) (progress : ReviewProgress) :
    ReviewProgress × RunEnd :=
  match reviewSessions limits now visits progress, reviewing with
  | (reached, none), _ => (reached, .completed)
  | (reached, some _), .breakbeat => (reached, .executionFailed)
  | (reached, some text), .dream => (reached, .raised text)

/-! ## What a run leaves of one session -/

/-- The cursor of a session, and its batches. -/
def ReviewProgress.of (progress : ReviewProgress) (sessionId : String) :
    Option ReviewCursor × List (String × List ReviewMessage) :=
  (progress.cursors.get? sessionId, progress.reviewed.filter fun call => call.1 = sessionId)

/-- The progress of a run with only one session. -/
def reviewAlone (reviewing : Reviewing) (limits : ReviewLimits) (now : Nat)
    (visit : SessionVisit) (progress : ReviewProgress) : ReviewProgress :=
  (reviewRun reviewing limits now [visit] progress).1

/-- The messages of the window, as far as it is selected. -/
def SessionVisit.window (visit : SessionVisit) (limits : ReviewLimits)
    (now : Nat) (cursor : Option ReviewCursor) : List ReviewMessage :=
  let source := reviewSource visit.messages now
  if source.length ≤ unreadStart source cursor then
    []
  else
    source.drop (selectedStart source cursor now limits.refresh)

/-- The window of the session holds a message above the token limit. -/
def SessionVisit.Oversized (visit : SessionVisit) (limits : ReviewLimits)
    (now : Nat) (progress : ReviewProgress) : Prop :=
  visit.archived = false ∧ ∃ message ∈ visit.window limits now
        (progress.cursors.get? visit.sessionId),
      limits.tokenLimit < message.tokenCount

/-- The session has nothing to review, and no cursor to move. -/
def SessionVisit.Idle (visit : SessionVisit) (limits : ReviewLimits)
    (now : Nat) (progress : ReviewProgress) : Prop :=
  let cursor := progress.cursors.get? visit.sessionId
  visit.archived = true ∨ ∃ selection, visit.select limits now cursor = .ok selection ∧
      selection.batches = [] ∧
      (selection.advanceCursor = none ∨ selection.advanceCursor = cursor)

/--
Every session without an oversized message ends the run with the cursor and
the reviewed batches that it gets when it is the only session of the run.
-/
def Isolated (reviewing : Reviewing) (limits : ReviewLimits) (now : Nat)
    (visits : List SessionVisit) (progress : ReviewProgress) : Prop :=
  ∀ visit ∈ visits, ¬ visit.Oversized limits now progress →
    (reviewRun reviewing limits now visits progress).1.of visit.sessionId =
      (reviewAlone reviewing limits now visit progress).of visit.sessionId

/--
Behind a session with an oversized message there are only sessions with such
a message and sessions that are idle.
-/
def OversizedLast (limits : ReviewLimits) (now : Nat)
    (visits : List SessionVisit) (progress : ReviewProgress) : Prop :=
  ∀ before oversized behind, visits = before ++ oversized :: behind →
    oversized.Oversized limits now progress →
    ∀ visit ∈ behind, ¬ visit.Oversized limits now progress → visit.Idle limits now progress

theorem batchesLoop_eq_error_iff
    {tokenLimit : Nat} {messages : List ReviewMessage}
    {closed : List ReviewBatch} {current : List ReviewMessage}
    {currentTokens : Nat} :
    (∃ text, batchesLoop tokenLimit messages closed current currentTokens = .error text) ↔
      ∃ message ∈ messages, tokenLimit < message.tokenCount := by
  induction messages generalizing closed current currentTokens with
  | nil =>
    simp only [batchesLoop, reduceCtorEq, exists_const, List.not_mem_nil, false_and, exists_false]
  | cons record rest induction =>
    simp only [batchesLoop, List.exists_mem_cons_iff]
    by_cases large : tokenLimit < record.tokenCount
    · simp only [large, if_true, true_or, Except.error.injEq, exists_eq']
    · simp only [large, if_false, false_or]
      split
      · exact induction
      · exact induction

theorem SessionVisit.select_eq_error_iff (visit : SessionVisit) (limits : ReviewLimits) (now : Nat)
    (cursor : Option ReviewCursor) :
    (∃ text, visit.select limits now cursor = .error text) ↔
      ∃ message ∈ visit.window limits now cursor,
        limits.tokenLimit < message.tokenCount := by
  have refresh := limits.refreshPositive.ne'
  have tokenLimit := limits.tokenLimitPositive.ne'
  simp only [select, window, selectReviewWindow, refresh, tokenLimit, if_false]
  generalize reviewSource visit.messages now = source
  cases last : source.getLast? with
  | none =>
    rw [List.getLast?_eq_none_iff.mp last]
    simp
  | some newest =>
    by_cases allRead : source.length ≤ unreadStart source cursor
    · simp [allRead]
    · simp only [allRead, if_false]
      cases selected : (source.drop (selectedStart source cursor now limits.refresh)).getLast? with
      | none =>
        rw [List.getLast?_eq_none_iff.mp selected]
        simp
      | some lastSelected =>
        have raises :=
          @batchesLoop_eq_error_iff limits.tokenLimit (source.drop
              (selectedStart source cursor now limits.refresh)) [] [] 0
        rw [← raises]
        simp only [batches]
        cases batchesLoop limits.tokenLimit (source.drop
              (selectedStart source cursor now limits.refresh)) [] []
            0 with
        | error text => exact ⟨fun _ => ⟨text, rfl⟩, fun _ => ⟨text, rfl⟩⟩
        | ok packed =>
          exact iff_of_false (fun raised => nomatch raised) (fun raised => nomatch raised)

/-! ## One visit -/

/-- What the review of one session makes of the progress. -/
def SessionVisit.visit (visit : SessionVisit) (limits : ReviewLimits)
    (now : Nat) (progress : ReviewProgress) : ReviewProgress :=
  if visit.archived then
    progress
  else
    match visit.select limits now
        (progress.cursors.get? visit.sessionId) with
    | .error _ => progress
    | .ok selection => reviewSelection visit selection progress

section Visits

variable
    {limits : ReviewLimits}
    {now : Nat}

variable {progress : ReviewProgress} {visits : List SessionVisit}

theorem reviewBatches_of_other (visit : SessionVisit) {other : String}
    (different : other ≠ visit.sessionId) (index : Nat)
    (remaining : List ReviewBatch) (progress : ReviewProgress) :
    (reviewBatches visit index remaining progress).of other =
      progress.of other := by
  induction remaining generalizing index progress with
  | nil => rfl
  | cons batch rest induction =>
    have called (cursors : Dict String ReviewCursor)
        (same : cursors.get? other = progress.cursors.get? other) :
        ReviewProgress.of ⟨cursors, progress.reviewed ++ [(visit.sessionId, batch.messages)]⟩
            other =
          progress.of other := by
      simp only [ReviewProgress.of, same, List.filter_append,
        List.filter_singleton, Ne.symm different, decide_false,
        cond_false, List.append_nil]
    simp only [reviewBatches]
    cases visit.batchEnd index with
    | failed => exact called _ rfl
    | reviewed =>
      rw [induction]
      exact called _ (Dict.get?_insert_of_ne _ _ different)

theorem reviewBatches_congr (visit : SessionVisit) (index : Nat)
    (remaining : List ReviewBatch) {other : ReviewProgress}
    (same : progress.of visit.sessionId = other.of visit.sessionId) :
    (reviewBatches visit index remaining progress).of visit.sessionId =
      (reviewBatches visit index remaining other).of visit.sessionId := by
  induction remaining generalizing index progress other with
  | nil => exact same
  | cons batch rest induction =>
    rcases Prod.mk.inj same with ⟨cursor, calls⟩
    simp only [reviewBatches]
    cases visit.batchEnd index with
    | failed =>
      simp only [ReviewProgress.of, cursor, List.filter_append, calls]
    | reviewed =>
      apply induction
      simp only [ReviewProgress.of, Dict.get?_insert_self, List.filter_append, calls]

theorem reviewBatches_prefix (visit : SessionVisit) (index : Nat) (remaining : List ReviewBatch)
    (progress : ReviewProgress) :
    progress.reviewed <+: (reviewBatches visit index remaining progress).reviewed := by
  induction remaining generalizing index progress with
  | nil => exact List.prefix_rfl
  | cons batch rest induction =>
    simp only [reviewBatches]
    cases visit.batchEnd index with
    | failed => exact List.prefix_append _ _
    | reviewed =>
      apply (List.prefix_append _ [(visit.sessionId, batch.messages)]).trans
      exact induction (index + 1) ⟨progress.cursors.insert visit.sessionId batch.cursor, _⟩

theorem reviewSelection_of_other
    (visit : SessionVisit) (selection : ReviewSelection) {other : String}
    (different : other ≠ visit.sessionId) (progress : ReviewProgress) :
    (reviewSelection visit selection progress).of other =
      progress.of other := by
  simp only [reviewSelection]
  split
  · split
    · rfl
    · simp only [ReviewProgress.of, Dict.get?_insert_of_ne _ _ different]
  · exact reviewBatches_of_other visit different 0 _ progress

theorem reviewSelection_congr (visit : SessionVisit)
    (selection : ReviewSelection) {other : ReviewProgress}
    (same : progress.of visit.sessionId = other.of visit.sessionId) :
    (reviewSelection visit selection progress).of visit.sessionId =
      (reviewSelection visit selection other).of visit.sessionId := by
  simp only [reviewSelection]
  split
  · split
    · exact same
    · rcases Prod.mk.inj same with ⟨_, calls⟩
      simp only [ReviewProgress.of, Dict.get?_insert_self, calls]
  · exact reviewBatches_congr visit 0 _ same

namespace SessionVisit

variable {progress : ReviewProgress}

theorem visit_of_other (visit : SessionVisit) {other : String}
    (different : other ≠ visit.sessionId) (progress : ReviewProgress) :
    (visit.visit limits now progress).of other = progress.of other := by
  simp only [SessionVisit.visit]
  split
  · rfl
  · split
    · rfl
    · exact reviewSelection_of_other visit _ different progress

theorem visit_congr (visit : SessionVisit) {other : ReviewProgress}
    (same : progress.of visit.sessionId = other.of visit.sessionId) :
    (visit.visit limits now progress).of visit.sessionId =
      (visit.visit limits now other).of visit.sessionId := by
  have cursor : progress.cursors.get? visit.sessionId =
      other.cursors.get? visit.sessionId := congrArg Prod.fst same
  simp only [SessionVisit.visit, cursor]
  split
  · exact same
  · split
    · exact same
    · exact reviewSelection_congr visit _ same

theorem oversized_congr (visit : SessionVisit) {other : ReviewProgress}
    (same : progress.of visit.sessionId = other.of visit.sessionId) :
    visit.Oversized limits now progress ↔
      visit.Oversized limits now other := by
  have cursor : progress.cursors.get? visit.sessionId =
      other.cursors.get? visit.sessionId := congrArg Prod.fst same
  simp only [Oversized, cursor]

theorem exists_selection {visit : SessionVisit} (active : visit.archived = false)
    (fits : ¬ visit.Oversized limits now progress) :
    ∃ selection, visit.select limits now (progress.cursors.get? visit.sessionId) =
        .ok selection := by
  cases selected : visit.select limits now (progress.cursors.get? visit.sessionId) with
  | ok selection => exact ⟨selection, rfl⟩
  | error text =>
    have large := (visit.select_eq_error_iff limits now _).mp
      ⟨text, selected⟩
    exact absurd ⟨active, large⟩ fits

theorem visit_of_self_iff {visit : SessionVisit} (fits : ¬ visit.Oversized limits now progress) :
    (visit.visit limits now progress).of visit.sessionId = progress.of visit.sessionId ↔
      visit.Idle limits now progress := by
  cases active : visit.archived with
  | true =>
    simp only [SessionVisit.visit, active, if_true, Idle, true_or]
  | false =>
    rcases exists_selection active fits with ⟨selection, selected⟩
    simp only [SessionVisit.visit, active, Bool.false_eq_true, if_false,
      selected, Idle, false_or, Except.ok.injEq, exists_eq_left',
      reviewSelection]
    by_cases empty : selection.batches = []
    · simp only [empty, if_true, true_and]
      cases selection.advanceCursor with
      | none => simp only [true_or]
      | some cursor =>
        simp only [ReviewProgress.of, Dict.get?_insert_self,
          Prod.mk.injEq, and_true, reduceCtorEq, false_or]
    · simp only [empty, if_false, false_and, iff_false]
      intro same
      have calls := congrArg List.length (Prod.mk.inj same).2
      cases listed : selection.batches with
      | nil => exact empty listed
      | cons batch rest =>
        have grown : progress.reviewed ++
              [(visit.sessionId, batch.messages)] <+:
            (reviewBatches visit 0 selection.batches progress).reviewed :=
          by
            simp only [listed, reviewBatches]
            cases visit.batchEnd 0 with
            | failed => exact List.prefix_rfl
            | reviewed =>
              exact reviewBatches_prefix visit 1 rest
                ⟨progress.cursors.insert visit.sessionId batch.cursor, _⟩
        have longer := (grown.filter fun call =>
          decide (call.1 = visit.sessionId)).length_le
        simp only [List.filter_append, List.length_append,
          List.filter_singleton, decide_true, cond_true,
          List.length_singleton] at longer
        omega

end SessionVisit

/-! ## The run and its sessions -/

variable {visit : SessionVisit}

theorem reviewSessions_cons {rest : List SessionVisit}
    (fits : ¬ visit.Oversized limits now progress) :
    reviewSessions limits now (visit :: rest) progress =
      reviewSessions limits now rest (visit.visit limits now progress) := by
  cases active : visit.archived with
  | true =>
    simp only [reviewSessions, SessionVisit.visit, active, if_true]
  | false =>
    rcases SessionVisit.exists_selection active fits with ⟨selection, selected⟩
    simp only [reviewSessions, SessionVisit.visit, active, Bool.false_eq_true, if_false, selected]

theorem reviewSessions_stops {rest : List SessionVisit}
    (oversized : visit.Oversized limits now progress) :
    (reviewSessions limits now (visit :: rest) progress).1 = progress := by
  rcases (visit.select_eq_error_iff limits now _).mpr oversized.2 with ⟨text, selected⟩
  simp only [reviewSessions, oversized.1, Bool.false_eq_true, if_false, selected]

theorem reviewRun_fst (reviewing : Reviewing) (visits : List SessionVisit)
    (progress : ReviewProgress) :
    (reviewRun reviewing limits now visits progress).1 =
      (reviewSessions limits now visits progress).1 := by
  simp only [reviewRun]
  split <;> simp only [*]

theorem reviewAlone_eq (reviewing : Reviewing) (fits : ¬ visit.Oversized limits now progress) :
    reviewAlone reviewing limits now visit progress =
      visit.visit limits now progress := by
  rw [reviewAlone, reviewRun_fst, reviewSessions_cons fits, reviewSessions]

theorem reviewSessions_of_absent {sessionId : String}
    (absent : ∀ visit ∈ visits, sessionId ≠ visit.sessionId)
    (progress : ReviewProgress) :
    (reviewSessions limits now visits progress).1.of sessionId =
      progress.of sessionId := by
  induction visits generalizing progress with
  | nil => rfl
  | cons visit rest induction =>
    by_cases oversized : visit.Oversized limits now progress
    · rw [reviewSessions_stops oversized]
    · rw [reviewSessions_cons oversized, induction fun other member =>
          absent other (List.mem_cons_of_mem _ member)]
      exact visit.visit_of_other (absent visit List.mem_cons_self) progress

theorem reviewSessions_behind {before behind : List SessionVisit}
    (distinct : (visits.map SessionVisit.sessionId).Nodup)
    (split : visits = before ++ visit :: behind)
    (blocked : ∃ other ∈ before, other.Oversized limits now progress) :
    (reviewSessions limits now visits progress).1.of visit.sessionId =
      progress.of visit.sessionId := by
  induction visits generalizing before progress with
  | nil => simp at split
  | cons first rest induction =>
    by_cases oversized : first.Oversized limits now progress
    · rw [reviewSessions_stops oversized]
    · cases before with
      | nil => simp at blocked
      | cons head before =>
        rw [List.cons_append, List.cons.injEq] at split
        rcases split with ⟨rfl, split⟩
        rw [List.map_cons, List.nodup_cons] at distinct
        have apart {other : SessionVisit} (member : other ∈ rest) :
            other.sessionId ≠ first.sessionId :=
          fun same => distinct.1 (same ▸ List.mem_map_of_mem member)
        have kept {other : SessionVisit} (member : other ∈ rest) :
            (first.visit limits now progress).of other.sessionId =
              progress.of other.sessionId :=
          first.visit_of_other (apart member) progress
        have listed {other : SessionVisit} (member : other ∈ before) :
            other ∈ rest :=
          split ▸ List.mem_append_left _ member
        have member : visit ∈ rest :=
          split ▸ List.mem_append_right _ List.mem_cons_self
        rcases blocked with ⟨other, found, large⟩
        rcases List.mem_cons.mp found with rfl | later
        · exact absurd large oversized
        · rw [reviewSessions_cons oversized, induction distinct.2 split
              ⟨other, later, (other.oversized_congr (kept (listed later))).mpr large⟩]
          exact kept member

theorem reviewSessions_visits {before behind : List SessionVisit}
    (distinct : (visits.map SessionVisit.sessionId).Nodup)
    (split : visits = before ++ visit :: behind)
    (fits : ¬ visit.Oversized limits now progress)
    (free : ∀ other ∈ before, ¬ other.Oversized limits now progress) :
    (reviewSessions limits now visits progress).1.of visit.sessionId =
      (visit.visit limits now progress).of visit.sessionId := by
  induction visits generalizing before progress with
  | nil => simp at split
  | cons first rest induction =>
    rw [List.map_cons, List.nodup_cons] at distinct
    have apart {other : SessionVisit} (member : other ∈ rest) :
        other.sessionId ≠ first.sessionId :=
      fun same => distinct.1 (same ▸ List.mem_map_of_mem member)
    cases before with
    | nil =>
      rw [List.nil_append, List.cons.injEq] at split
      rcases split with ⟨rfl, _⟩
      rw [reviewSessions_cons fits]
      exact reviewSessions_of_absent (fun other member => (apart member).symm) _
    | cons head before =>
      rw [List.cons_append, List.cons.injEq] at split
      rcases split with ⟨rfl, split⟩
      have kept {other : SessionVisit} (member : other ∈ rest) :
          (first.visit limits now progress).of other.sessionId =
            progress.of other.sessionId :=
        first.visit_of_other (apart member) progress
      have listed {other : SessionVisit} (member : other ∈ before) :
          other ∈ rest :=
        split ▸ List.mem_append_left _ member
      have member : visit ∈ rest :=
        split ▸ List.mem_append_right _ List.mem_cons_self
      rw [reviewSessions_cons (free first List.mem_cons_self),
        induction distinct.2 split (fun large => fits
            ((visit.oversized_congr (kept member)).mp large))
          (fun other found large =>
            free other (List.mem_cons_of_mem _ found)
              ((other.oversized_congr (kept (listed found))).mp large))]
      exact visit.visit_congr (kept member)

/--
An oversized message leaves the other sessions of a run alone exactly when
behind its session there are only oversized and idle sessions.
-/
theorem reviewRun_isolated_iff (reviewing : Reviewing) {visits : List SessionVisit}
    (distinct : (visits.map SessionVisit.sessionId).Nodup)
    (progress : ReviewProgress) :
    Isolated reviewing limits now visits progress ↔
      OversizedLast limits now visits progress := by
  constructor
  · intro isolated before oversized behind split large visit member fits
    rcases List.append_of_mem member with ⟨between, after, rfl⟩
    have listed : visits = (before ++ oversized :: between) ++
        visit :: after := by
      rw [split, List.append_assoc, List.cons_append]
    have same := isolated visit
      (listed ▸ List.mem_append_right _ List.mem_cons_self) fits
    rw [reviewRun_fst, reviewAlone_eq reviewing fits, reviewSessions_behind distinct listed
        ⟨oversized, List.mem_append_right _ List.mem_cons_self, large⟩]
      at same
    exact (SessionVisit.visit_of_self_iff fits).mp same.symm
  · intro last visit member fits
    rcases List.append_of_mem member with ⟨before, behind, split⟩
    rw [reviewRun_fst, reviewAlone_eq reviewing fits]
    by_cases blocked : ∃ other ∈ before, other.Oversized limits now progress
    · rcases blocked with ⟨other, found, large⟩
      rw [reviewSessions_behind distinct split ⟨other, found, large⟩]
      rcases List.append_of_mem found with ⟨front, between, rfl⟩
      have idle := last front other (between ++ visit :: behind)
        (by rw [split, List.append_assoc, List.cons_append]) large visit
        (List.mem_append_right _ List.mem_cons_self) fits
      exact ((SessionVisit.visit_of_self_iff fits).mpr idle).symm
    · exact reviewSessions_visits distinct split fits fun other found large =>
        blocked ⟨other, found, large⟩

end Visits

/-- A window of ten moments, and batches of at most ten tokens. -/
def narrowLimits : ReviewLimits where
  refresh := 10
  tokenLimit := 10
  refreshPositive := by decide
  tokenLimitPositive := by decide

/-- A session with one message of the given size. -/
def sampleVisit (sessionId : String) (tokenCount : Nat) : SessionVisit where
  sessionId := sessionId
  archived := false
  messages := [⟨sessionId, sessionId, "user", tokenCount, 1⟩]
  batchEnd _ := .reviewed

def noProgress : ReviewProgress where
  cursors := .empty
  reviewed := []

/-- With the oversized session last, the first session is reviewed. -/
theorem reviewRun_isolated_iff_sample :
    Isolated .dream narrowLimits 2 [sampleVisit "a" 3, sampleVisit "b" 11] noProgress ↔
      OversizedLast narrowLimits 2 [sampleVisit "a" 3, sampleVisit "b" 11] noProgress :=
  reviewRun_isolated_iff .dream (by decide) noProgress

/-- With the oversized session first, the other one is not reviewed. -/
theorem reviewRun_not_isolated : ¬ ∀ (reviewing : Reviewing) (limits : ReviewLimits) (now : Nat)
      (visits : List SessionVisit) (progress : ReviewProgress),
      (visits.map SessionVisit.sessionId).Nodup →
      Isolated reviewing limits now visits progress := by
  intro isolated
  have fits :
      ¬ (sampleVisit "b" 3).Oversized narrowLimits 2 noProgress := by
    rintro ⟨_, large⟩
    exact absurd large (by decide)
  have same := isolated .breakbeat narrowLimits 2
    [sampleVisit "a" 11, sampleVisit "b" 3] noProgress (by decide)
    (sampleVisit "b" 3) (List.mem_cons_of_mem _ List.mem_cons_self) fits
  exact absurd (congrArg Prod.fst same) (by decide)

end TurningGood.Proactive
