import ArtifactPipeline.Disk.Virtual
import ArtifactPipeline.Proofs.PlanOrder
import ArtifactPipeline.Run.Coordinator
import Mathlib.Logic.Function.Basic
import Mathlib.Logic.Relation

set_option autoImplicit false

namespace ArtifactPipeline

open Function Relation

namespace NodeState

theorem canBecome_skipped {state : NodeState} :
    state.canBecome .skipped = true ↔ state = .evaluating := by
  cases state <;> simp [canBecome]

theorem canBecome_executing {state : NodeState} :
    state.canBecome .executing = true ↔ state = .evaluating := by
  cases state <;> simp [canBecome]

theorem canBecome_succeeded {state : NodeState} :
    state.canBecome .succeeded = true ↔ state = .executing := by
  cases state <;> simp [canBecome]

theorem canBecome_failed {state : NodeState} :
    state.canBecome .failed = true ↔ state = .executing := by
  cases state <;> simp [canBecome]

end NodeState

theorem NodeStates.get_set_eq_update (states : NodeStates) (id : NodeId) (state : NodeState) :
    (states.set id state).get = update states.get id state := by
  funext other
  rw [NodeStates.get_set, update_apply]

theorem NodeStates.get_set_set (states : NodeStates) (id : NodeId) (first last : NodeState) :
    ((states.set id first).set id last).get = update states.get id last := by
  rw [NodeStates.get_set_eq_update, NodeStates.get_set_eq_update, update_idem]

theorem NodeStates.transition_eq_ok {states next : NodeStates} {id : NodeId} {state : NodeState} :
    states.transition id state = .ok next ↔
      (states.get id).canBecome state = true ∧ next = states.set id state := by
  unfold transition
  split
  · rename_i allowed
    simp [allowed, eq_comm]
  · rename_i refused
    simp [refused]

theorem Session.move_eq_ok {W : Type} {session next : Session W} {id : NodeId}
    {state : NodeState} :
    session.move id state = .ok next ↔
      (session.states.get id).canBecome state = true ∧
        next = { session with states := session.states.set id state } := by
  unfold move
  split
  · rename_i states moved
    obtain ⟨allowed, rfl⟩ := NodeStates.transition_eq_ok.mp moved
    simp [allowed, eq_comm]
  · rename_i failure refused
    have forbidden : (session.states.get id).canBecome state ≠ true := by
      intro allowed
      rw [NodeStates.transition_eq_ok.mpr ⟨allowed, rfl⟩] at refused
      cases refused
    simp [forbidden]

theorem Session.move_eq {W : Type} (session : Session W) {id : NodeId} {state : NodeState}
    (allowed : (session.states.get id).canBecome state = true) :
    session.move id state = .ok { session with states := session.states.set id state } :=
  Session.move_eq_ok.mpr ⟨allowed, rfl⟩

theorem Session.not_canBecome_of_move {W : Type} {session : Session W} {id : NodeId}
    {state : NodeState} {failure : Failure} (refused : session.move id state = .error failure) :
    (session.states.get id).canBecome state ≠ true := by
  intro allowed
  rw [session.move_eq allowed] at refused
  cases refused

theorem Session.ask_eq {W : Type} [Disk W] (registry : Registry) (session : Session W)
    (id : NodeId) :
    session.ask registry id =
      ((Freshness.isDirty registry session.world session.verdicts id).1,
        { session with
          verdicts := (Freshness.isDirty registry session.world session.verdicts id).2 }) :=
  rfl

namespace Run.Coordinator

variable {W : Type} [Disk W]

/-- The next pending node may be handled: nothing has failed, there is room for a task, and its
prerequisites have finished well. -/
structure Chosen (registry : Registry) (plan : Plan) (jobs : Nat) (c : Coordinator W)
    (node : Artifact) (id : NodeId) (rest : List NodeId) : Prop where
  calm : c.failure = none
  next : c.rest = id :: rest
  room : c.running.length < jobs
  ready : plan.readyIn c.session.states id = true
  resolved : registry.resolve id = .ok node

structure Opened (registry : Registry) (plan : Plan) (jobs : Nat) (c : Coordinator W)
    (node : Artifact) (id : NodeId) (rest : List NodeId) (verdicts : Verdicts) : Prop
    extends Chosen registry plan jobs c node id rest where
  answer : Freshness.isDirty registry c.session.world c.session.verdicts id = (.ok true, verdicts)
  waiting : c.session.states.get id = .evaluating

def opening (c : Coordinator W) (id : NodeId) (verdicts : Verdicts) : Session W :=
  { c.session with verdicts, states := c.session.states.set id .executing }

def Astray (registry : Registry) (c : Coordinator W) : Prop :=
  (∃ id ∈ c.rest, (∃ failure, registry.resolve id = .error failure) ∨
    c.session.states.get id ≠ .evaluating) ∨
  ∃ id ∈ c.running, (∃ failure, registry.resolve id = .error failure) ∨
    c.session.states.get id ≠ .executing

def Waits (jobs : Nat) (c : Coordinator W) : Prop :=
  c.failure = none → c.running.length < jobs → c.rest = []

structure Ends (jobs : Nat) (crew : Crew W) (c : Coordinator W) (id : NodeId)
    (joined : Joined W c.running) : Prop where
  waits : Waits jobs c
  turn : ∃ busy, joined = crew.join c.running busy c.session.world
  ended : id = c.running.get joined.index
  executing : joined.result ≠ .crashed → c.session.states.get id = .executing

/-- The coordinator after a task has left, with all pending nodes to be looked at again. -/
def relieved (c : Coordinator W) (joined : Joined W c.running) : Coordinator W :=
  rewind {
    c with
    session := { c.session with world := joined.world }
    running := c.running.eraseIdx joined.index }

inductive Turn (registry : Registry) (plan : Plan) (jobs : Nat) (crew : Crew W)
    (c : Coordinator W) : Progress W → Prop where
  | passOver {id : NodeId} {rest : List NodeId} (calm : c.failure = none)
      (next : c.rest = id :: rest) (room : c.running.length < jobs)
      (waits : plan.readyIn c.session.states id = false) :
      Turn registry plan jobs crew c (.going { c with passed := c.passed ++ [id], rest })
  | skip {node : Artifact} {id : NodeId} {rest : List NodeId} {verdicts : Verdicts}
      (chosen : Chosen registry plan jobs c node id rest)
      (answer : Freshness.isDirty registry c.session.world c.session.verdicts id =
        (.ok false, verdicts))
      (waiting : c.session.states.get id = .evaluating) :
      Turn registry plan jobs crew c (.going (rewind { c with
        rest
        session := Session.reportSkipped
          { c.session with verdicts, states := c.session.states.set id .skipped } id }))
  | puzzle {node : Artifact} {id : NodeId} {rest : List NodeId} {verdicts : Verdicts}
      {failure : Failure} (chosen : Chosen registry plan jobs c node id rest)
      (answer : Freshness.isDirty registry c.session.world c.session.verdicts id =
        (.error failure, verdicts)) :
      Turn registry plan jobs crew c
        (.going (fail { c with rest, session := { c.session with verdicts } } failure))
  | breakDown {node : Artifact} {id : NodeId} {rest : List NodeId} {verdicts : Verdicts}
      {failure : Failure} (chosen : Chosen registry plan jobs c node id rest)
      (answer : Freshness.isDirty registry c.session.world c.session.verdicts id =
        (.error failure, verdicts)) (grave : failure.isBreakdown = true) :
      Turn registry plan jobs crew c (.ended (.failed failure) { c.session with verdicts })
  | launch {node : Artifact} {id : NodeId} {rest : List NodeId} {verdicts : Verdicts}
      {commands : List Command} {before : Option Nat}
      (opened : Opened registry plan jobs c node id rest verdicts)
      (external : node.action = .run commands)
      (timed : outputTime c.session.world node = .ok before) :
      Turn registry plan jobs crew c (.going { c with
        rest
        session := { c.opening id verdicts with world := crew.start node c.session.world }
        running := c.running ++ [id]
        before := Assoc.set id before c.before })
  | unprepared {node : Artifact} {id : NodeId} {rest : List NodeId} {verdicts : Verdicts}
      {commands : List Command} {failure : Failure}
      (opened : Opened registry plan jobs c node id rest verdicts)
      (external : node.action = .run commands)
      (untimed : outputTime c.session.world node = .error failure) :
      Turn registry plan jobs crew c (.ended (.failed failure) (c.opening id verdicts))
  | perform {node : Artifact} {id : NodeId} {rest : List NodeId} {verdicts : Verdicts}
      {events : List Event} {world : W}
      (opened : Opened registry plan jobs c node id rest verdicts)
      (internal : ∀ commands, node.action ≠ .run commands)
      (done : runInternal node c.session.world = (.ok (), events, world)) :
      Turn registry plan jobs crew c (.going (rewind { c with
        rest
        session := Session.reportExecuted
          { (c.opening id verdicts).noteAll events with
            world
            states := (c.opening id verdicts).states.set id .succeeded } id }))
  | spoil {node : Artifact} {id : NodeId} {rest : List NodeId} {verdicts : Verdicts}
      {events : List Event} {world : W} {failure : Failure}
      (opened : Opened registry plan jobs c node id rest verdicts)
      (internal : ∀ commands, node.action ≠ .run commands)
      (failed : runInternal node c.session.world = (.error failure, events, world)) :
      Turn registry plan jobs crew c (.going (fail { c with
        rest
        session := { (c.opening id verdicts).noteAll events with
          world
          states := (c.opening id verdicts).states.set id .failed } } failure))
  | succeed {id : NodeId} {joined : Joined W c.running} (ends : Ends jobs crew c id joined)
      (result : joined.result = .succeeded) :
      Turn registry plan jobs crew c (.going { c.relieved joined with
        session := Session.reportExecuted { c.session with
          world := joined.world, states := c.session.states.set id .succeeded } id
        before := Assoc.erase id c.before })
  | failure {node : Artifact} {id : NodeId} {joined : Joined W c.running} {failure : Failure}
      (ends : Ends jobs crew c id joined) (resolved : registry.resolve id = .ok node)
      (result : joined.result = .failed failure) {session : Session W}
      (cleaned : session = (if c.failure.isSome then
          (discard { c.session with
            world := joined.world, states := c.session.states.set id .failed } node
            (c.beforeOf id)).note (.failedToo id)
        else discard { c.session with
          world := joined.world, states := c.session.states.set id .failed } node
          (c.beforeOf id))) :
      Turn registry plan jobs crew c
        (.going (fail { c.relieved joined with session, before := Assoc.erase id c.before }
          failure))
  | crash {id : NodeId} {joined : Joined W c.running} (ends : Ends jobs crew c id joined)
      (result : joined.result = .crashed) :
      Turn registry plan jobs crew c (.going (fail { c.relieved joined with
        session := (c.relieved joined).session.note .taskCrashed } .actionCrashed))
  | finish (idle : c.running = []) (waits : Waits jobs c) :
      Turn registry plan jobs crew c (c.finish registry)
  | stray {failure : Failure} {session : Session W} (astray : Astray registry c)
      (kept : ∀ id, (c.session.states.get id).isFinal = true →
        session.states.get id = c.session.states.get id)
      (world : session.world = c.session.world ∨
        ∃ busy, session.world = (crew.join c.running busy c.session.world).world) :
      Turn registry plan jobs crew c (.ended (.failed failure) session)

variable {registry : Registry} {plan : Plan} {jobs : Nat} {crew : Crew W} {c : Coordinator W}

theorem turn_launch {node : Artifact} {id : NodeId} {rest : List NodeId} {verdicts : Verdicts}
    (chosen : Chosen registry plan jobs c node id rest)
    (answer : Freshness.isDirty registry c.session.world c.session.verdicts id =
      (.ok true, verdicts)) :
    Turn registry plan jobs crew c
      (launch crew { c with rest, session := { c.session with verdicts } } node id) := by
  unfold launch
  split
  · rename_i failure refused
    refine .stray (.inl ⟨id, by simp [chosen.next], .inr fun waiting => ?_⟩) (fun _ _ => rfl)
      (.inl rfl)
    exact Session.not_canBecome_of_move refused (NodeState.canBecome_executing.mpr waiting)
  · rename_i session moved
    obtain ⟨allowed, rfl⟩ := Session.move_eq_ok.mp moved
    have opened : Opened registry plan jobs c node id rest verdicts :=
      { chosen with answer, waiting := NodeState.canBecome_executing.mp allowed }
    have executing : (c.session.states.set id .executing).get id = .executing := by
      simp [NodeStates.get_set]
    split
    · rename_i commands external
      split
      · rename_i failure untimed
        exact .unprepared opened external untimed
      · rename_i before timed
        exact .launch opened external timed
    · rename_i internal
      dsimp only
      generalize acted : runInternal node c.session.world = deed
      obtain ⟨result, events, world⟩ := deed
      dsimp only
      split
      · split
        · rename_i failure refused
          refine absurd ?_ (Session.not_canBecome_of_move refused)
          exact NodeState.canBecome_succeeded.mpr executing
        · rename_i session moved
          obtain ⟨_, rfl⟩ := Session.move_eq_ok.mp moved
          exact .perform opened internal acted
      · split
        · rename_i failure refused
          refine absurd ?_ (Session.not_canBecome_of_move refused)
          exact NodeState.canBecome_failed.mpr executing
        · rename_i session moved
          obtain ⟨_, rfl⟩ := Session.move_eq_ok.mp moved
          exact .spoil opened internal acted

theorem turn_handle {id : NodeId} {rest : List NodeId}
    (calm : c.failure = none) (next : c.rest = id :: rest) (room : c.running.length < jobs)
    (ready : plan.readyIn c.session.states id = true) :
    Turn registry plan jobs crew c (handle registry crew { c with rest } id) := by
  unfold handle
  split
  · rename_i failure unknown
    exact .stray (.inl ⟨id, by simp [next], .inl ⟨failure, unknown⟩⟩) (fun _ _ => rfl) (.inl rfl)
  · rename_i node resolved
    have chosen : Chosen registry plan jobs c node id rest := ⟨calm, next, room, ready, resolved⟩
    rw [Session.ask_eq]
    dsimp only
    generalize asked : Freshness.isDirty registry c.session.world c.session.verdicts id = ruling
    obtain ⟨answer, verdicts⟩ := ruling
    cases answer with
    | error failure =>
        dsimp only
        split
        · rename_i grave
          exact .breakDown chosen asked grave
        · exact .puzzle chosen asked
    | ok dirty =>
        cases dirty with
        | false =>
            dsimp only
            split
            · rename_i failure refused
              refine .stray (.inl ⟨id, by simp [next], .inr fun waiting => ?_⟩) (fun _ _ => rfl)
                (.inl rfl)
              exact Session.not_canBecome_of_move refused (NodeState.canBecome_skipped.mpr waiting)
            · rename_i session moved
              obtain ⟨allowed, rfl⟩ := Session.move_eq_ok.mp moved
              exact .skip chosen asked (NodeState.canBecome_skipped.mp allowed)
        | true => exact turn_launch chosen asked

theorem turn_settle {joined : Joined W c.running} {id : NodeId}
    (waits : Waits jobs c) (turn : ∃ busy, joined = crew.join c.running busy c.session.world)
    (ended : id = c.running.get joined.index) :
    Turn registry plan jobs crew c (settle registry (c.relieved joined) id joined.result) := by
  have member : id ∈ c.running := ended ▸ List.get_mem _ _
  have ends (executing : joined.result ≠ .crashed → c.session.states.get id = .executing) :
      Ends jobs crew c id joined := ⟨waits, turn, ended, executing⟩
  have left : joined.world = c.session.world ∨
      ∃ busy, joined.world = (crew.join c.running busy c.session.world).world :=
    .inr (turn.imp fun _ same => congrArg Joined.world same)
  cases result : joined.result with
  | succeeded =>
      rw [settle]
      split
      · rename_i failure refused
        refine .stray (.inr ⟨id, member, .inr fun executing => ?_⟩) (fun _ _ => rfl) left
        exact Session.not_canBecome_of_move refused (NodeState.canBecome_succeeded.mpr executing)
      · rename_i session moved
        obtain ⟨allowed, rfl⟩ := Session.move_eq_ok.mp moved
        exact .succeed (ends fun _ => NodeState.canBecome_succeeded.mp allowed) result
  | failed failure =>
      rw [settle]
      split
      · rename_i failure refused
        refine .stray (.inr ⟨id, member, .inr fun executing => ?_⟩) (fun _ _ => rfl) left
        exact Session.not_canBecome_of_move refused (NodeState.canBecome_failed.mpr executing)
      · rename_i session moved
        obtain ⟨allowed, rfl⟩ := Session.move_eq_ok.mp moved
        have executing : c.session.states.get id = .executing :=
          NodeState.canBecome_failed.mp allowed
        split
        · rename_i unknownFailure unknown
          refine .stray (.inr ⟨id, member, .inl ⟨unknownFailure, unknown⟩⟩)
            (fun other final => ?_) left
          have apart : other ≠ id := by
            intro same
            rw [same, executing] at final
            cases final
          simp [relieved, rewind, NodeStates.get_set, apart]
        · rename_i node resolved
          exact .failure (ends fun _ => executing) resolved result rfl
  | crashed => exact .crash (ends fun alive => absurd result alive) result

theorem turn_join (waits : Waits jobs c) :
    Turn registry plan jobs crew c (c.join registry crew) := by
  unfold join
  split
  · rename_i idle
    exact .finish idle waits
  · rename_i busy
    exact turn_settle waits ⟨busy, rfl⟩ rfl

theorem turn_step : Turn registry plan jobs crew c (c.step registry plan jobs crew) := by
  unfold step
  split
  · rename_i id rest calm next
    split
    · rename_i room
      split
      · rename_i ready
        exact turn_handle calm next room ready
      · rename_i waits
        exact .passOver calm next room (by simpa using waits)
    · rename_i full
      exact turn_join fun _ room => absurd room full
  · rename_i other
    refine turn_join fun calm _ => ?_
    cases next : c.rest with
    | nil => rfl
    | cons id rest => exact absurd next (other id rest calm)

theorem turn_of_step {progress : Progress W}
    (stepped : c.step registry plan jobs crew = progress) :
    Turn registry plan jobs crew c progress :=
  stepped ▸ turn_step

inductive Moves (registry : Registry) (plan : Plan) (jobs : Nat) (crew : Crew W)
    (c : Coordinator W) : (NodeId → NodeState) → Prop where
  | still : Moves registry plan jobs crew c c.session.states.get
  | skip {node : Artifact} {id : NodeId} {rest : List NodeId}
      (chosen : Chosen registry plan jobs c node id rest) :
      Moves registry plan jobs crew c (update c.session.states.get id .skipped)
  | launch {node : Artifact} {id : NodeId} {rest : List NodeId} {verdicts : Verdicts}
      (opened : Opened registry plan jobs c node id rest verdicts) :
      Moves registry plan jobs crew c (update c.session.states.get id .executing)
  | perform {node : Artifact} {id : NodeId} {rest : List NodeId} {verdicts : Verdicts}
      {events : List Event} {world : W}
      (opened : Opened registry plan jobs c node id rest verdicts)
      (internal : ∀ commands, node.action ≠ .run commands)
      (done : runInternal node c.session.world = (.ok (), events, world)) :
      Moves registry plan jobs crew c (update c.session.states.get id .succeeded)
  | spoil {node : Artifact} {id : NodeId} {rest : List NodeId} {verdicts : Verdicts}
      (opened : Opened registry plan jobs c node id rest verdicts) :
      Moves registry plan jobs crew c (update c.session.states.get id .failed)
  | succeed {id : NodeId} {joined : Joined W c.running} (ends : Ends jobs crew c id joined)
      (result : joined.result = .succeeded) :
      Moves registry plan jobs crew c (update c.session.states.get id .succeeded)
  | fail {id : NodeId} (executing : c.session.states.get id = .executing) :
      Moves registry plan jobs crew c (update c.session.states.get id .failed)

theorem moves_of_step {next : Coordinator W}
    (stepped : c.step registry plan jobs crew = .going next) :
    Moves registry plan jobs crew c next.session.states.get := by
  have moves {states : NodeStates} {after : NodeId → NodeState} (moved : states.get = after)
      (moves : Moves registry plan jobs crew c after) :
      Moves registry plan jobs crew c states.get := moved ▸ moves
  generalize going : Progress.going next = progress at stepped
  cases turn_of_step stepped with
  | passOver | puzzle | crash =>
      cases going
      exact .still
  | skip chosen =>
      cases going
      exact moves (NodeStates.get_set_eq_update ..) (.skip chosen)
  | launch opened =>
      cases going
      exact moves (NodeStates.get_set_eq_update ..) (.launch opened)
  | perform opened internal done =>
      cases going
      exact moves (NodeStates.get_set_set ..) (.perform opened internal done)
  | spoil opened =>
      cases going
      exact moves (NodeStates.get_set_set ..) (.spoil opened)
  | succeed ends result =>
      cases going
      exact moves (NodeStates.get_set_eq_update ..) (.succeed ends result)
  | @failure _ id _ _ ends _ result session cleaned =>
      cases going
      have states : session.states.get = update c.session.states.get id .failed := by
        rw [cleaned, ← NodeStates.get_set_eq_update]
        split <;> rfl
      exact moves states (.fail (ends.executing (by simp [result])))
  | finish => exact absurd going.symm finish_ne_going
  | breakDown => cases going
  | unprepared => cases going
  | stray => cases going

theorem drive_of_going {next : Coordinator W}
    (stepped : c.step registry plan jobs crew = .going next) :
    c.drive registry plan jobs crew = (next.stirred crew).drive registry plan jobs crew := by
  rw [drive]
  split
  · rename_i other going
    rw [stepped] at going
    cases going
    rfl
  · rename_i ended
    rw [stepped] at ended
    cases ended

theorem drive_of_ended {outcome : Outcome} {session : Session W}
    (stepped : c.step registry plan jobs crew = .ended outcome session) :
    c.drive registry plan jobs crew = (outcome, session) := by
  rw [drive]
  split
  · rename_i going
    rw [stepped] at going
    cases going
  · rename_i ended
    rw [stepped] at ended
    cases ended
    rfl

end Run.Coordinator

def NodeState.isStarted : NodeState → Bool
  | .executing | .succeeded | .failed => true
  | _ => false

theorem NodeState.ended_of_isStarted {state : NodeState} (started : state.isStarted = true)
    (done : state ≠ .executing) : state = .succeeded ∨ state = .failed := by
  cases state <;> simp_all [isStarted]

namespace Run

variable {W : Type} [Disk W]

@[simp] theorem states_discard (session : Session W) (node : Artifact) (before : Option Nat) :
    (discard session node before).states = session.states := rfl

namespace Coordinator

/-- The action that the next step starts: the coordinator by then, the node and its id. -/
def launching? (registry : Registry) (plan : Plan) (jobs : Nat) (c : Coordinator W) :
    Option (Coordinator W × Artifact × NodeId) :=
  match c.failure, c.rest with
  | none, id :: rest =>
      if c.running.length < jobs ∧ plan.readyIn c.session.states id = true then
        match registry.resolve id, c.session.ask registry id with
        | .ok node, (.ok true, session) => some ({ c with rest, session }, node, id)
        | _, _ => none
      else none
  | _, _ => none

def launches (registry : Registry) (plan : Plan) (jobs : Nat) (c : Coordinator W) : List NodeId :=
  ((c.launching? registry plan jobs).map fun launching => launching.2.2).toList

/-- `Leads a launched b`: steps lead from `a` to `b` and start the actions of `launched`, in this
order. After each of them the tasks go on for a while. -/
inductive Leads (registry : Registry) (plan : Plan) (jobs : Nat) (crew : Crew W) :
    Coordinator W → List NodeId → Coordinator W → Prop where
  | refl (c : Coordinator W) : Leads registry plan jobs crew c [] c
  | step {a c next : Coordinator W} {launched : List NodeId}
      (leads : Leads registry plan jobs crew a launched c)
      (stepped : c.step registry plan jobs crew = .going next) :
      Leads registry plan jobs crew a (launched ++ c.launches registry plan jobs)
        (next.stirred crew)

variable {registry : Registry} {plan : Plan} {jobs : Nat} {crew : Crew W}
  {c next later : Coordinator W}

theorem launching?_eq_some {ready : Coordinator W} {node : Artifact} {id : NodeId} :
    c.launching? registry plan jobs = some (ready, node, id) ↔
      ∃ rest verdicts, Chosen registry plan jobs c node id rest ∧
        Freshness.isDirty registry c.session.world c.session.verdicts id = (.ok true, verdicts) ∧
        ready = { c with rest, session := { c.session with verdicts } } := by
  constructor
  · intro launching
    unfold launching? at launching
    split at launching
    · rename_i calm next
      split at launching
      · rename_i able
        split at launching
        · rename_i resolved asked
          rw [Session.ask_eq] at asked
          simp only [Prod.mk.injEq] at asked
          simp only [Option.some.injEq, Prod.mk.injEq] at launching
          obtain ⟨rfl, rfl, rfl⟩ := launching
          exact ⟨_, _, ⟨calm, next, able.1, able.2, resolved⟩, Prod.ext asked.1 rfl,
            by rw [← asked.2]⟩
        · cases launching
      · cases launching
    · cases launching
  · rintro ⟨rest, verdicts, chosen, answer, rfl⟩
    unfold launching?
    rw [chosen.calm, chosen.next]
    simp only [chosen.room, chosen.ready, chosen.resolved, Session.ask_eq, answer, and_self,
      if_true]

omit [Disk W] in
@[simp] theorem stirred_running (crew : Crew W) (c : Coordinator W) :
    (c.stirred crew).running = c.running := rfl

theorem Leads.drive_eq {launched : List NodeId}
    (leads : Leads registry plan jobs crew c launched later) :
    c.drive registry plan jobs crew = later.drive registry plan jobs crew := by
  induction leads with
  | refl => rfl
  | step _ stepped ih => rw [ih, drive_of_going stepped]

structure Safe (plan : Plan) (jobs : Nat) (launched : List NodeId) (c : Coordinator W) : Prop where
  bounded : c.running.length ≤ jobs
  planned : ∀ id ∈ c.pending, id ∈ plan.order
  waiting : ∀ id ∈ c.pending, c.session.states.get id = .evaluating
  distinct : c.pending.Nodup
  started : ∀ id ∈ launched, (c.session.states.get id).isStarted = true
  once : launched.Nodup

omit [Disk W] in
@[simp] theorem pending_rewind (c : Coordinator W) : c.rewind.pending = c.pending := rfl

omit [Disk W] in
theorem Safe.stirred {launched : List NodeId} (safe : Safe plan jobs launched c) (crew : Crew W) :
    Safe plan jobs launched (c.stirred crew) :=
  ⟨safe.bounded, safe.planned, safe.waiting, safe.distinct, safe.started, safe.once⟩

theorem launches_of_opened {node : Artifact} {id : NodeId} {rest : List NodeId}
    {verdicts : Verdicts} (opened : Opened registry plan jobs c node id rest verdicts) :
    c.launches registry plan jobs = [id] := by
  have launching := launching?_eq_some.mpr ⟨rest, verdicts, opened.toChosen, opened.answer, rfl⟩
  simp [launches, launching]

theorem launching?_eq_none
    (quiet : ∀ node id rest verdicts, Chosen registry plan jobs c node id rest →
      Freshness.isDirty registry c.session.world c.session.verdicts id ≠ (.ok true, verdicts)) :
    c.launching? registry plan jobs = none := by
  cases launching : c.launching? registry plan jobs with
  | none => rfl
  | some found =>
      obtain ⟨ready, node, id⟩ := found
      obtain ⟨rest, verdicts, chosen, answer, _⟩ := launching?_eq_some.mp launching
      exact absurd answer (quiet node id rest verdicts chosen)

theorem launches_of_launching?_eq_none (quiet : c.launching? registry plan jobs = none) :
    c.launches registry plan jobs = [] := by
  simp [launches, quiet]

theorem launches_of_answer {node : Artifact} {id : NodeId} {rest : List NodeId}
    (chosen : Chosen registry plan jobs c node id rest)
    (answer : (Freshness.isDirty registry c.session.world c.session.verdicts id).1 ≠ .ok true) :
    c.launches registry plan jobs = [] := by
  refine launches_of_launching?_eq_none (launching?_eq_none ?_)
  refine fun other otherId otherRest verdicts alsoChosen dirty => answer ?_
  have same := chosen.next.symm.trans alsoChosen.next
  simp only [List.cons.injEq] at same
  rw [same.1, dirty]

theorem launches_of_unready {id : NodeId} {rest : List NodeId} (next : c.rest = id :: rest)
    (unready : plan.readyIn c.session.states id = false) :
    c.launches registry plan jobs = [] := by
  refine launches_of_launching?_eq_none (launching?_eq_none fun _ _ _ _ chosen _ => ?_)
  have same := next.symm.trans chosen.next
  simp only [List.cons.injEq] at same
  rw [same.1, chosen.ready] at unready
  cases unready

theorem launches_of_waits (waits : Waits jobs c) : c.launches registry plan jobs = [] := by
  refine launches_of_launching?_eq_none (launching?_eq_none fun _ _ _ _ chosen _ => ?_)
  have none := waits chosen.calm chosen.room
  rw [chosen.next] at none
  cases none

omit [Disk W] in
theorem pending_of_next {id : NodeId} {rest : List NodeId} (next : c.rest = id :: rest) :
    c.pending = c.passed ++ id :: rest := by
  rw [pending, next]

namespace Safe

variable {launched : List NodeId}

omit [Disk W] in
theorem start (sound : plan.Sound registry) (world : W) :
    Safe plan jobs [] (Coordinator.start plan world) where
  bounded := Nat.zero_le jobs
  planned := fun _ member => member
  waiting := by
    intro id member
    have planned : id ∈ plan.order := member
    show plan.states.get id = .evaluating
    rw [sound.states_get, if_pos planned]
  distinct := sound.nodup
  started := by simp
  once := List.nodup_nil

omit [Disk W] in
theorem handled (safe : Safe plan jobs launched c) {id : NodeId} {rest : List NodeId}
    (next : c.rest = id :: rest) {after : Coordinator W}
    (pending : after.pending = c.passed ++ rest) (bounded : after.running.length ≤ jobs)
    (others : ∀ other, other ≠ id →
      after.session.states.get other = c.session.states.get other) {more : List NodeId}
    (more_ : more = [] ∨ more = [id] ∧ (after.session.states.get id).isStarted = true) :
    Safe plan jobs (launched ++ more) after := by
  have known := pending_of_next next
  have distinct := safe.distinct
  rw [known] at distinct
  -- The node has left the pending ones for good: they are distinct.
  have rearranged := List.nodup_middle.mp distinct
  have idWaiting : c.session.states.get id = .evaluating := safe.waiting id (by simp [known])
  have apart : ∀ other ∈ launched, other ≠ id := by
    intro other member same
    have started := safe.started other member
    rw [same, idWaiting] at started
    cases started
  have before : ∀ other ∈ after.pending, other ∈ c.pending := by
    intro other member
    rw [pending] at member
    rw [known]
    simp only [List.mem_append, List.mem_cons] at member ⊢
    tauto
  constructor
  case bounded => exact bounded
  case planned => exact fun other member => safe.planned other (before other member)
  case waiting =>
    intro other member
    have waiting := safe.waiting other (before other member)
    rw [pending] at member
    have different : other ≠ id := by
      intro same
      exact (List.nodup_cons.mp rearranged).1 (same ▸ member)
    rw [others other different]
    exact waiting
  case distinct =>
    rw [pending]
    exact (List.nodup_cons.mp rearranged).2
  case started =>
    intro other member
    rcases List.mem_append.mp member with old | new
    · rw [others other (apart other old)]
      exact safe.started other old
    · rcases more_ with rfl | ⟨rfl, started⟩
      · cases new
      · rw [List.mem_singleton.mp new]
        exact started
  case once =>
    rcases more_ with rfl | ⟨rfl, _⟩
    · simpa using safe.once
    · rw [List.nodup_append]
      refine ⟨safe.once, by simp, ?_⟩
      intro other member last same
      rw [List.mem_singleton.mp same]
      exact apart other member

omit [Disk W] in
theorem joined (safe : Safe plan jobs launched c) {id : NodeId} {after : Coordinator W}
    (pending : after.pending = c.pending) (bounded : after.running.length ≤ jobs)
    (others : ∀ other, other ≠ id →
      after.session.states.get other = c.session.states.get other)
    (ended : after.session.states.get id = c.session.states.get id ∨
      c.session.states.get id = .executing ∧
        (after.session.states.get id).isStarted = true) :
    Safe plan jobs launched after := by
  constructor
  case bounded => exact bounded
  case planned =>
    intro other member
    exact safe.planned other (pending ▸ member)
  case waiting =>
    intro other member
    have waiting := safe.waiting other (pending ▸ member)
    by_cases same : other = id
    · subst same
      rcases ended with kept | ⟨executing, _⟩
      · rw [kept]
        exact waiting
      · rw [executing] at waiting
        cases waiting
    · rw [others other same]
      exact waiting
  case distinct =>
    rw [pending]
    exact safe.distinct
  case started =>
    intro other member
    have started := safe.started other member
    by_cases same : other = id
    · subst same
      rcases ended with kept | ⟨_, alsoStarted⟩
      · rw [kept]
        exact started
      · exact alsoStarted
    · rw [others other same]
      exact started
  case once => exact safe.once

theorem step (safe : Safe plan jobs launched c)
    (stepped : c.step registry plan jobs crew = .going next) :
    Safe plan jobs (launched ++ c.launches registry plan jobs) next := by
  generalize going : Progress.going next = progress at stepped
  have opens {node : Artifact} {id : NodeId} {rest : List NodeId} {verdicts : Verdicts}
      (opened : Opened registry plan jobs c node id rest verdicts) {after : Coordinator W}
      (state : NodeState) (started : state.isStarted = true)
      (pending : after.pending = c.passed ++ rest) (bounded : after.running.length ≤ jobs)
      (states : ∀ other, after.session.states.get other =
        if other = id then state else c.session.states.get other) :
      Safe plan jobs (launched ++ c.launches registry plan jobs) after := by
    refine safe.handled opened.next pending bounded ?_
      (.inr ⟨launches_of_opened opened, ?_⟩)
    · intro other different
      rw [states, if_neg different]
    · rw [states, if_pos rfl]
      exact started
  have ends {id : NodeId} {joined : Joined W c.running} (ends : Ends jobs crew c id joined)
      {after : Coordinator W} (pending : after.pending = c.pending)
      (running : after.running = c.running.eraseIdx joined.index)
      (others : ∀ other, other ≠ id →
        after.session.states.get other = c.session.states.get other)
      (ended : after.session.states.get id = c.session.states.get id ∨
        c.session.states.get id = .executing ∧
          (after.session.states.get id).isStarted = true) :
      Safe plan jobs (launched ++ c.launches registry plan jobs) after := by
    rw [launches_of_waits ends.waits, List.append_nil]
    refine safe.joined pending ?_ others ended
    rw [running]
    exact Nat.le_trans (List.length_eraseIdx_le _ _) safe.bounded
  cases turn_of_step stepped with
  | passOver calm head room waits =>
      cases going
      have pending := pending_of_next head
      rw [launches_of_unready head waits, List.append_nil]
      refine ⟨safe.bounded, ?_, ?_, ?_, safe.started, safe.once⟩
      · simpa [Coordinator.pending, head] using safe.planned
      · simpa [Coordinator.pending, head] using safe.waiting
      · simpa [Coordinator.pending, head] using safe.distinct
  | skip chosen answer waiting =>
      cases going
      refine safe.handled chosen.next ?_ ?_ ?_
        (.inl (launches_of_answer chosen (by simp [answer])))
      · rfl
      · exact safe.bounded
      intro other different
      simp [rewind, Session.reportSkipped, Session.note, NodeStates.get_set, different]
  | puzzle chosen answer =>
      cases going
      refine safe.handled chosen.next ?_ ?_ ?_
        (.inl (launches_of_answer chosen (by simp [answer])))
      · rfl
      · exact safe.bounded
      · exact fun _ _ => rfl
  | launch opened =>
      cases going
      refine opens opened .executing rfl rfl ?_ ?_
      · have room := opened.room
        simp only [List.length_append, List.length_singleton]
        omega
      · intro other
        exact NodeStates.get_set _ _ _ _
  | @perform _ id _ _ _ _ opened =>
      cases going
      refine opens opened .succeeded rfl rfl ?_ ?_
      · exact safe.bounded
      · intro other
        by_cases same : other = id <;>
          simp [rewind, Session.reportExecuted, opening, NodeStates.get_set, same]
  | @spoil _ id _ _ _ _ _ opened =>
      cases going
      refine opens opened .failed rfl rfl ?_ ?_
      · exact safe.bounded
      · intro other
        by_cases same : other = id <;> simp [fail, opening, NodeStates.get_set, same]
  | succeed ended result =>
      cases going
      refine ends ended rfl rfl ?_ (.inr ⟨ended.executing (by simp [result]), ?_⟩)
      · intro other different
        simp [Session.reportExecuted, NodeStates.get_set, different]
      · simp [Session.reportExecuted, NodeStates.get_set, NodeState.isStarted]
  | @failure _ id _ _ ended _ result session cleaned =>
      cases going
      have states : session.states = c.session.states.set id .failed := by
        rw [cleaned]
        split <;> rfl
      refine ends ended rfl rfl ?_ (.inr ⟨ended.executing (by simp [result]), ?_⟩)
      · intro other different
        simp [fail, states, NodeStates.get_set, different]
      · simp [fail, states, NodeStates.get_set, NodeState.isStarted]
  | crash ended =>
      cases going
      exact ends ended rfl rfl (fun _ _ => rfl) (.inl rfl)
  | finish => exact absurd going.symm finish_ne_going
  | breakDown => cases going
  | unprepared => cases going
  | stray => cases going

end Safe

theorem Leads.safe (sound : plan.Sound registry) {world : W} {launched : List NodeId}
    (leads : Leads registry plan jobs crew (Coordinator.start plan world) launched c) :
    Safe plan jobs launched c := by
  generalize origin : Coordinator.start plan world = a at leads
  induction leads with
  | refl =>
      subst origin
      exact .start sound world
  | step _ stepped ih => exact (ih.step stepped).stirred crew

/-- What the task of a node may have left on disk is discarded. -/
def Discards (registry : Registry) (c : Coordinator W) (id : NodeId) (before after : W) : Prop :=
  c.session.states.get id = .executing ∧
    ∃ node, registry.resolve id = .ok node ∧
      after = (discardLeftover node (c.beforeOf id) before).2

/-- All that a step can do: the nodes whose actions it starts, be it by handing their commands to
the crew or by doing itself what needs no command, the tasks that are under way after it, and the
world it leaves. -/
inductive Effect (registry : Registry) (crew : Crew W) (c : Coordinator W) :
    List NodeId → List NodeId → W → Prop where
  | still : Effect registry crew c [] c.running c.session.world
  | join (busy : c.running ≠ []) {world : W}
      (left : ReflGen
        (c.Discards registry
          (c.running.get (crew.join c.running busy c.session.world).index))
        (crew.join c.running busy c.session.world).world world) :
      Effect registry crew c []
        (c.running.eraseIdx (crew.join c.running busy c.session.world).index) world
  | close (idle : c.running = []) {world : W}
      (left : ReflTransGen (fun before after => ∃ id, c.Discards registry id before after)
        c.session.world world) :
      Effect registry crew c [] c.running world
  | start {id : NodeId} {node : Artifact} {commands : List Command}
      (resolved : registry.resolve id = .ok node) (external : node.action = .run commands) :
      Effect registry crew c [id] (c.running ++ [id]) (crew.start node c.session.world)
  | perform {id : NodeId} {node : Artifact} (resolved : registry.resolve id = .ok node)
      (internal : ∀ commands, node.action ≠ .run commands) :
      Effect registry crew c [id] c.running (runInternal node c.session.world).2.2

def worldAfter : Progress W → W
  | .going c => c.session.world
  | .ended _ session => session.world

theorem failStranded_discards {ids : List NodeId} {session result : Session W}
    (stranded : c.failStranded registry ids session = .ok result)
    (executing : ∀ id, session.states.get id = .executing →
      c.session.states.get id = .executing) :
    ReflTransGen (fun before after => ∃ id, c.Discards registry id before after)
      session.world result.world := by
  induction ids generalizing session with
  | nil =>
      cases stranded
      exact .refl
  | cons head rest ih =>
      unfold failStranded at stranded
      split at stranded
      · cases stranded
      · rename_i moved movedTo
        obtain ⟨allowed, rfl⟩ := Session.move_eq_ok.mp movedTo
        split at stranded
        · cases stranded
        · rename_i node resolved
          have discards : c.Discards registry head session.world
              (discardLeftover node (c.beforeOf head) session.world).2 :=
            ⟨executing head (NodeState.canBecome_failed.mp allowed), node, resolved, rfl⟩
          refine .head ⟨head, discards⟩ (ih stranded ?_)
          intro id still
          rw [states_discard, NodeStates.get_set] at still
          split_ifs at still
          exact executing id still

theorem finish_effect (idle : c.running = []) :
    Effect registry crew c [] c.running (worldAfter (c.finish registry)) := by
  unfold finish
  split
  · split
    · rename_i stranded
      have discards := failStranded_discards stranded fun _ executing => executing
      exact .close idle discards
    · exact .still
  · split <;> exact .still

theorem Ends.effect {id : NodeId} {joined : Joined W c.running} (ends : Ends jobs crew c id joined) :
    Effect registry crew c [] (c.running.eraseIdx joined.index) joined.world := by
  obtain ⟨busy, rfl⟩ := ends.turn
  exact .join busy .refl

theorem Ends.effect_discard {id : NodeId} {joined : Joined W c.running}
    (ends : Ends jobs crew c id joined) {failure : Failure} (result : joined.result = .failed failure)
    {node : Artifact} (resolved : registry.resolve id = .ok node) :
    Effect registry crew c [] (c.running.eraseIdx joined.index)
      (discardLeftover node (c.beforeOf id) joined.world).2 := by
  have executing := ends.executing (by simp [result])
  obtain ⟨busy, rfl⟩ := ends.turn
  obtain rfl := ends.ended
  exact .join busy (.single ⟨executing, node, resolved, rfl⟩)

theorem effect_of_step {next : Coordinator W}
    (stepped : c.step registry plan jobs crew = .going next) :
    Effect registry crew c (c.launches registry plan jobs) next.running next.session.world := by
  generalize going : Progress.going next = progress at stepped
  cases turn_of_step stepped with
  | passOver calm head room waits =>
      cases going
      rw [launches_of_unready head waits]
      exact .still
  | skip chosen answer =>
      cases going
      rw [launches_of_answer chosen (by simp [answer])]
      exact .still
  | puzzle chosen answer =>
      cases going
      rw [launches_of_answer chosen (by simp [answer])]
      exact .still
  | launch opened external =>
      cases going
      rw [launches_of_opened opened]
      exact .start opened.resolved external
  | perform opened internal done =>
      cases going
      rw [launches_of_opened opened]
      have performed : Effect registry crew c _ _ _ := .perform opened.resolved internal
      rw [done] at performed
      exact performed
  | spoil opened internal failed =>
      cases going
      rw [launches_of_opened opened]
      have performed : Effect registry crew c _ _ _ := .perform opened.resolved internal
      rw [failed] at performed
      exact performed
  | succeed ends =>
      cases going
      rw [launches_of_waits ends.waits]
      exact ends.effect
  | failure ends resolved result cleaned =>
      cases going
      rw [launches_of_waits ends.waits, cleaned]
      have discarded := ends.effect_discard result resolved
      split <;> exact discarded
  | crash ends =>
      cases going
      rw [launches_of_waits ends.waits]
      exact ends.effect
  | finish => exact absurd going.symm finish_ne_going
  | breakDown => cases going
  | unprepared => cases going
  | stray => cases going

theorem effect_of_last_step {outcome : Outcome} {session : Session W}
    (stepped : c.step registry plan jobs crew = .ended outcome session) :
    ∃ running, Effect registry crew c [] running session.world := by
  generalize ended : Progress.ended outcome session = progress at stepped
  cases turn_of_step stepped with
  | finish idle =>
      have closes : Effect registry crew c [] c.running (worldAfter (c.finish registry)) :=
        finish_effect idle
      rw [← ended] at closes
      exact ⟨_, closes⟩
  | breakDown =>
      cases ended
      exact ⟨_, .still⟩
  | unprepared =>
      cases ended
      exact ⟨_, .still⟩
  | stray _ _ world =>
      cases ended
      rcases world with same | ⟨busy, left⟩
      · rw [same]
        exact ⟨_, .still⟩
      · rw [left]
        exact ⟨_, .join busy .refl⟩
  | passOver | skip | puzzle | launch | perform | spoil | succeed | failure | crash => cases ended

theorem effect_of_launching?_eq_none (quiet : c.launching? registry plan jobs = none) :
    ∃ running, Effect registry crew c [] running (worldAfter (c.step registry plan jobs crew)) := by
  cases stepped : c.step registry plan jobs crew with
  | going next =>
      have effect := effect_of_step stepped
      rw [launches, quiet] at effect
      exact ⟨_, effect⟩
  | ended outcome session => exact effect_of_last_step stepped

def advance (registry : Registry) (plan : Plan) (jobs : Nat) (crew : Crew W) :
    Nat → Coordinator W → List NodeId × Coordinator W
  | 0, c => ([], c)
  | steps + 1, c =>
      let (launched, c) := advance registry plan jobs crew steps c
      match c.step registry plan jobs crew with
      | .going next => (launched ++ c.launches registry plan jobs, next.stirred crew)
      | .ended _ _ => (launched, c)

theorem leads_advance (steps : Nat) (c : Coordinator W) :
    Leads registry plan jobs crew c (advance registry plan jobs crew steps c).1
      (advance registry plan jobs crew steps c).2 := by
  induction steps with
  | zero => exact .refl c
  | succ steps ih =>
      rw [advance]
      dsimp only
      split
      · rename_i stepped
        exact ih.step stepped
      · exact ih

def outcomeOf : Progress W → Option Outcome
  | .going _ => none
  | .ended outcome _ => some outcome

theorem inParallel_of_advance {world : W} {outcome : Outcome} (steps : Nat)
    (ended : outcomeOf ((advance registry plan jobs crew steps (start plan world)).2.step
      registry plan jobs crew) = some outcome) :
    (inParallel registry crew jobs plan world).1 = outcome := by
  have leads : Leads registry plan jobs crew (start plan world) _ _ := leads_advance steps _
  rw [inParallel, leads.drive_eq]
  cases stepped : (advance registry plan jobs crew steps (start plan world)).2.step
      registry plan jobs crew with
  | going next =>
      rw [stepped] at ended
      cases ended
  | ended last session =>
      rw [stepped] at ended
      cases ended
      rw [drive_of_ended stepped]

def trio : Registry where
  nodes := [
    .phony "a" (.run [⟨"make", [], ⟨[]⟩, none, none⟩]),
    .phony "b" (.run [⟨"make", [], ⟨[]⟩, none, none⟩]),
    (Artifact.phony "all" .none).dependsOnAll ["a", "b"]]

def trioPlan : Plan where
  order := ["a", "b", "all"]
  deps := [("all", ["a", "b"]), ("b", []), ("a", [])]
  states := ⟨[("all", .evaluating), ("a", .evaluating), ("b", .evaluating)]⟩

def lastFirst : Crew VirtualDisk where
  start _ disk := disk
  meanwhile disk := disk
  join running busy disk :=
    ⟨⟨running.length - 1, Nat.sub_lt (List.length_pos_iff.mpr busy) Nat.one_pos⟩, .succeeded, disk⟩

end Coordinator

end Run

end ArtifactPipeline
