import ArtifactPipeline.Proofs.ParallelSafety
import ArtifactPipeline.Run.Sequence

set_option autoImplicit false

namespace ArtifactPipeline

open Function

namespace NodeState

variable {states : NodeId → NodeState} {state : NodeState} {id : NodeId} {ids : List NodeId}

theorem satisfied_update (satisfied : ∀ other ∈ ids, (states other).isSatisfied = true)
    (fine : state.isSatisfied = true) :
    ∀ other ∈ ids ++ [id], (update states id state other).isSatisfied = true := by
  intro other member
  rw [update_apply]
  split_ifs with same
  · exact fine
  · exact satisfied other (by simpa [same] using member)

theorem waiting_update (waiting : ∀ other ∈ id :: ids, states other = .evaluating)
    (distinct : id ∉ ids) : ∀ other ∈ ids, update states id state other = .evaluating := by
  intro other member
  have apart : other ≠ id := fun same => distinct (same ▸ member)
  rw [update_of_ne apart]
  exact waiting other (List.mem_cons_of_mem _ member)

end NodeState

namespace Run

variable {W : Type} [Disk W] {registry : Registry} {executor : Executor W} {id : NodeId}
  {session next last : Session W} {outcome : Outcome}

def deedOf : Except Failure Unit → Deed
  | .ok _ => .succeeded
  | .error failure => .failed failure

theorem act_internal {node : Artifact} (internal : ∀ commands, node.action ≠ .run commands)
    {session : Session W} :
    act executor node session =
      (deedOf (runInternal node session.world).1,
        { session.noteAll (runInternal node session.world).2.1 with
          world := (runInternal node session.world).2.2 }) := by
  unfold act
  split
  · rename_i commands external
    exact absurd external (internal commands)
  · dsimp only
    generalize runInternal node session.world = ran
    obtain ⟨result, events, world⟩ := ran
    cases result <;> rfl

theorem act_kept (executor : Executor W) (node : Artifact) (session : Session W) :
    (act executor node session).2.states = session.states ∧
      (act executor node session).2.verdicts = session.verdicts ∧
      (act executor node session).2.report = session.report := by
  unfold act
  split
  · split
    · exact ⟨rfl, rfl, rfl⟩
    · dsimp only
      split <;> exact ⟨rfl, rfl, rfl⟩
  · dsimp only
    split <;> exact ⟨rfl, rfl, rfl⟩

def acting (session : Session W) (id : NodeId) (verdicts : Verdicts) : Session W :=
  { session with verdicts, states := session.states.set id .executing }

/-- The node that waits for its turn is found dirty, and its action comes to `deed`. -/
structure Attempt (registry : Registry) (executor : Executor W) (id : NodeId) (session : Session W)
    (node : Artifact) (deed : Deed) (after : Session W) : Prop where
  resolved : registry.resolve id = .ok node
  waiting : session.states.get id = .evaluating
  answer : Freshness.isDirty registry session.world session.verdicts id =
    (.ok true, after.verdicts)
  acted : act executor node (acting session id after.verdicts) = (deed, after)
  states : after.states = session.states.set id .executing
  report : after.report = session.report

theorem Attempt.closed {node : Artifact} {deed : Deed}
    (attempt : Attempt registry executor id session node deed next) (state : NodeState) :
    (next.states.set id state).get = update session.states.get id state := by
  rw [attempt.states, NodeStates.get_set_set]

/-- A node that goes well, and the session in which the next one is handled. -/
inductive Continues (registry : Registry) (executor : Executor W) (id : NodeId)
    (session : Session W) : Session W → Prop where
  | skipped {node : Artifact} {verdicts : Verdicts} (resolved : registry.resolve id = .ok node)
      (waiting : session.states.get id = .evaluating)
      (answer : Freshness.isDirty registry session.world session.verdicts id =
        (.ok false, verdicts)) :
      Continues registry executor id session
        (Session.reportSkipped
          { session with verdicts, states := session.states.set id .skipped } id)
  | executed {node : Artifact} {after : Session W}
      (attempt : Attempt registry executor id session node .succeeded after) :
      Continues registry executor id session
        (Session.reportExecuted { after with states := after.states.set id .succeeded } id)

inductive Halts (registry : Registry) (executor : Executor W) (id : NodeId) (session : Session W) :
    Outcome → Session W → Prop where
  | unknown {failure : Failure} (unresolved : registry.resolve id = .error failure) :
      Halts registry executor id session (.failed failure) session
  | unanswered {node : Artifact} {failure : Failure} {verdicts : Verdicts}
      (resolved : registry.resolve id = .ok node)
      (answer : Freshness.isDirty registry session.world session.verdicts id =
        (.error failure, verdicts)) :
      Halts registry executor id session (.failed failure)
        (if failure.isBreakdown then { session with verdicts }
          else Session.abort { session with verdicts })
  | astray {node : Artifact} {dirty : Bool} {failure : Failure} {verdicts : Verdicts}
      (resolved : registry.resolve id = .ok node) (astray : session.states.get id ≠ .evaluating)
      (answer : Freshness.isDirty registry session.world session.verdicts id =
        (.ok dirty, verdicts)) :
      Halts registry executor id session (.failed failure) { session with verdicts }
  | unprepared {node : Artifact} {failure : Failure} {after : Session W}
      (attempt : Attempt registry executor id session node (.unprepared failure) after) :
      Halts registry executor id session (.failed failure) after
  | crashed {node : Artifact} {after : Session W}
      (attempt : Attempt registry executor id session node .crashed after) :
      Halts registry executor id session .crashed after
  | failed {node : Artifact} {failure : Failure} {after : Session W}
      (attempt : Attempt registry executor id session node (.failed failure) after) :
      Halts registry executor id session (.failed failure)
        (Session.abort { after with states := after.states.set id .failed })

/-- What comes of a node has nothing to do with the rest: the run goes on behind it or ends there. -/
def Proceeds (registry : Registry) (executor : Executor W) (id : NodeId) (session : Session W) :
    Prop :=
  (∃ next, Continues registry executor id session next ∧
    ∀ rest, inSequence registry executor (id :: rest) session =
      inSequence registry executor rest next) ∨
  ∃ outcome last, Halts registry executor id session outcome last ∧
    ∀ rest, inSequence registry executor (id :: rest) session = (outcome, last)

theorem proceeds_of_dirty {node : Artifact} {verdicts : Verdicts}
    (resolved : registry.resolve id = .ok node) (waiting : session.states.get id = .evaluating)
    (answer : Freshness.isDirty registry session.world session.verdicts id =
      (.ok true, verdicts)) : Proceeds registry executor id session := by
  have opened : Session.move { session with verdicts } id .executing =
      .ok (acting session id verdicts) :=
    Session.move_eq _ (NodeState.canBecome_executing.mpr waiting)
  obtain ⟨states, kept, report⟩ := act_kept executor node (acting session id verdicts)
  rcases acted : act executor node (acting session id verdicts) with ⟨deed, after⟩
  rw [acted] at states kept report
  obtain rfl : after.verdicts = verdicts := kept
  have attempt : Attempt registry executor id session node deed after :=
    ⟨resolved, waiting, answer, acted, states, report⟩
  -- The action leaves the node executing: it can move on to its end.
  have closed (state : NodeState) (allowed : NodeState.executing.canBecome state = true) :
      after.move id state = .ok { after with states := after.states.set id state } := by
    refine after.move_eq ?_
    rw [attempt.states, NodeStates.get_set, if_pos rfl]
    exact allowed
  simp only [Proceeds, inSequence, Session.ask_eq, resolved, answer, opened, acted]
  cases deed with
  | unprepared failure => exact .inr ⟨_, _, .unprepared attempt, fun _ => rfl⟩
  | crashed => exact .inr ⟨_, _, .crashed attempt, fun _ => rfl⟩
  | succeeded =>
      simp only [closed .succeeded rfl]
      exact .inl ⟨_, .executed attempt, fun _ => rfl⟩
  | failed failure =>
      simp only [closed .failed rfl]
      exact .inr ⟨_, _, .failed attempt, fun _ => rfl⟩

theorem inSequence_proceeds (registry : Registry) (executor : Executor W) (id : NodeId)
    (session : Session W) : Proceeds registry executor id session := by
  cases resolved : registry.resolve id with
  | error failure =>
      simp only [Proceeds, inSequence, resolved]
      exact .inr ⟨_, _, .unknown resolved, fun _ => rfl⟩
  | ok node =>
      rcases answer : Freshness.isDirty registry session.world session.verdicts id with
        ⟨failure | dirty, verdicts⟩
      · simp only [Proceeds, inSequence, Session.ask_eq, resolved, answer]
        exact .inr ⟨_, _, .unanswered resolved answer, fun _ => rfl⟩
      by_cases waiting : session.states.get id = .evaluating
      · cases dirty with
        | true => exact proceeds_of_dirty resolved waiting answer
        | false =>
            have allowed := NodeState.canBecome_skipped.mpr waiting
            simp only [Proceeds, inSequence, Session.ask_eq, resolved, answer,
              Session.move_eq { session with verdicts } allowed]
            exact .inl ⟨_, .skipped resolved waiting answer, fun _ => rfl⟩
      · -- Whether it is found clean or dirty, it cannot leave a place that it does not hold.
        have refused {state : NodeState}
            (forbidden : (session.states.get id).canBecome state ≠ true) :
            ∃ failure, Session.move { session with verdicts } id state = .error failure := by
          cases moved : Session.move { session with verdicts } id state with
          | error failure => exact ⟨failure, rfl⟩
          | ok next => exact absurd (Session.move_eq_ok.mp moved).1 forbidden
        cases dirty with
        | false =>
            obtain ⟨failure, moved⟩ := refused (mt NodeState.canBecome_skipped.mp waiting)
            simp only [Proceeds, inSequence, Session.ask_eq, resolved, answer, moved]
            exact .inr ⟨_, _, .astray resolved waiting answer, fun _ => rfl⟩
        | true =>
            obtain ⟨failure, moved⟩ := refused (mt NodeState.canBecome_executing.mp waiting)
            simp only [Proceeds, inSequence, Session.ask_eq, resolved, answer, moved]
            exact .inr ⟨_, _, .astray resolved waiting answer, fun _ => rfl⟩

structure Passes (registry : Registry) (id : NodeId) (session next : Session W) : Prop where
  answered : ∃ dirty, Freshness.isDirty registry session.world session.verdicts id =
    (.ok dirty, next.verdicts)
  moved : ∃ state : NodeState, state.isSatisfied = true ∧
    next.states.get = update session.states.get id state

theorem Continues.passes (continues : Continues registry executor id session next) :
    Passes registry id session next := by
  cases continues with
  | skipped _ _ answer =>
      exact ⟨⟨false, answer⟩, .skipped, rfl, NodeStates.get_set_eq_update ..⟩
  | executed attempt => exact ⟨⟨true, attempt.answer⟩, .succeeded, rfl, attempt.closed _⟩

theorem Halts.incomplete (halts : Halts registry executor id session outcome last)
    (report : Report) : outcome ≠ .completed report := by
  cases halts <;> nofun

theorem inSequence_unanswered {node : Artifact} (resolved : registry.resolve id = .ok node)
    {failure : Failure} {verdicts : Verdicts}
    (answer : Freshness.isDirty registry session.world session.verdicts id =
      (.error failure, verdicts)) (rest : List NodeId) :
    (inSequence registry executor (id :: rest) session).1 = .failed failure := by
  simp only [inSequence, Session.ask_eq, resolved, answer]

theorem continues_of_completed {rest : List NodeId} {report : Report}
    (completed : (inSequence registry executor (id :: rest) session).1 = .completed report) :
    ∃ next, Continues registry executor id session next ∧
      ∀ rest, inSequence registry executor (id :: rest) session =
        inSequence registry executor rest next := by
  rcases inSequence_proceeds registry executor id session with going | ⟨outcome, last, halts, ends⟩
  · exact going
  · rw [ends] at completed
    exact absurd completed (halts.incomplete report)

end Run

end ArtifactPipeline
