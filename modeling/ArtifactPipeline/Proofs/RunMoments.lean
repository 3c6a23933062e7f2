import ArtifactPipeline.Proofs.Conduct
import ArtifactPipeline.Proofs.ParallelSafety
import ArtifactPipeline.Proofs.PlanOrder
import ArtifactPipeline.Proofs.SequentialSteps
import ArtifactPipeline.Run.Basic

set_option autoImplicit false

/-!
Runs as one system of disk, tasks, states and verdicts, whoever carries the tasks out: every run,
in sequence or in parallel, goes through moments of it.
-/

namespace ArtifactPipeline.Run

open Function Relation

/-- A run at some point: what is on the disk, which tasks change it, and what has been decided. -/
structure Moment extends Workplace where
  states : NodeId → NodeState
  verdicts : Verdicts
  executed : List NodeId
  before : NodeId → Option Nat

namespace Moment

def start (plan : Plan) (disk : VirtualDisk) : Moment where
  disk := disk
  tasks := .none
  states := plan.states.get
  verdicts := .none
  executed := []
  before := fun _ => none

variable {registry : Registry} {conduct : Conduct}

structure Ready (registry : Registry) (m : Moment) (node : Artifact) : Prop where
  found : registry.find? node.id = some node
  waiting : m.states node.id = .evaluating
  supported : ∀ dep ∈ node.nodePrerequisites, registry.contains dep = true →
    (m.states dep).isSatisfied = true

def Answered (registry : Registry) (m : Moment) : Prop :=
  ∀ node, Ready registry m node → ∃ dirty verdicts,
    Freshness.isDirty registry m.disk m.verdicts node.id = (.ok dirty, verdicts)

structure Called (registry : Registry) (m : Moment) (node : Artifact) (verdicts : Verdicts) : Prop
    extends Ready registry m node where
  dirty : Freshness.isDirty registry m.disk m.verdicts node.id = (.ok true, verdicts)

inductive Advances (registry : Registry) (conduct : Conduct) : Moment → Moment → Prop where
  | skip {m : Moment} {node : Artifact} {verdicts : Verdicts} (ready : Ready registry m node)
      (clean : Freshness.isDirty registry m.disk m.verdicts node.id = (.ok false, verdicts)) :
      Advances registry conduct m
        { m with verdicts, states := update m.states node.id .skipped }
  | launch {m : Moment} {node : Artifact} {verdicts : Verdicts} {commands : List Command}
      {before : Option Nat} (called : Called registry m node verdicts)
      (external : node.action = .run commands)
      (timed : outputTime m.disk node = .ok before) :
      Advances registry conduct m
        { m with
          verdicts
          states := update m.states node.id .executing
          tasks := update m.tasks node.id (some ⟨node, commands⟩)
          before := update m.before node.id before }
  | perform {m : Moment} {node : Artifact} {verdicts : Verdicts} {events : List Event}
      {disk : VirtualDisk} (called : Called registry m node verdicts)
      (internal : ∀ commands, node.action ≠ .run commands)
      (done : runInternal node m.disk = (.ok (), events, disk)) :
      Advances registry conduct m
        { m with
          verdicts
          disk
          states := update m.states node.id .succeeded
          executed := m.executed ++ [node.id] }
  | work {m : Moment} {place : Workplace} (works : conduct.Works m.toWorkplace place) :
      Advances registry conduct m { m with toWorkplace := place }
  | succeed {m : Moment} {id : NodeId} {node : Artifact} (finished : m.tasks id = some ⟨node, []⟩)
      (executing : m.states id = .executing) :
      Advances registry conduct m
        { m with
          tasks := update m.tasks id none
          states := update m.states id .succeeded
          executed := m.executed ++ [id]
          before := update m.before id none }

inductive Suffers (registry : Registry) : Moment → Moment → Prop where
  | spoil {m : Moment} {node : Artifact} {verdicts : Verdicts} {events : List Event}
      {disk : VirtualDisk} {failure : Failure} (called : Called registry m node verdicts)
      (internal : ∀ commands, node.action ≠ .run commands)
      (failed : runInternal node m.disk = (.error failure, events, disk)) :
      Suffers registry m
        { m with verdicts, disk, states := update m.states node.id .failed }
  | fail {m : Moment} {node : Artifact} (found : registry.find? node.id = some node)
      (executing : m.states node.id = .executing) :
      Suffers registry m
        { m with
          disk := (discardLeftover node (m.before node.id) m.disk).2
          tasks := update m.tasks node.id none
          states := update m.states node.id .failed
          before := update m.before node.id none }
  | crash {m : Moment} {id : NodeId} (executing : m.states id = .executing) :
      Suffers registry m { m with tasks := update m.tasks id none }

def Next (registry : Registry) (conduct : Conduct) (m next : Moment) : Prop :=
  Advances registry conduct m next ∨ Suffers registry m next

theorem next_of_advances {m last : Moment}
    (advances : ReflTransGen (Advances registry conduct) m last) :
    ReflTransGen (Next registry conduct) m last := by
  induction advances with
  | refl => exact .refl
  | tail _ step ih => exact ih.tail (.inl step)

theorem kept_of_next {Inv : Moment → Prop}
    (kept : ∀ m next, Inv m → Next registry conduct m next → Inv next) {m last : Moment}
    (inv : Inv m) (run : ReflTransGen (Next registry conduct) m last) : Inv last := by
  induction run with
  | refl => exact inv
  | tail _ step ih => exact kept _ _ ih step

theorem works_advances {m : Moment} {place : Workplace}
    (works : ReflTransGen conduct.Works m.toWorkplace place) :
    ReflTransGen (Advances registry conduct) m { m with toWorkplace := place } := by
  induction works with
  | refl => exact .refl
  | @tail between next _ step ih =>
      have advance : Advances registry conduct { m with toWorkplace := between }
          { m with toWorkplace := next } := .work step
      exact ih.tail advance

end Moment

end ArtifactPipeline.Run

namespace ArtifactPipeline.Run.Moment

open Function Relation

def known (m : Moment) (id : NodeId) : Bool :=
  (m.verdicts.get? id).getD false

/-- States, tasks and verdicts go together: a node is decided when it is not waiting any more, and
has a task only while it is executing. -/
structure Kept (registry : Registry) (order : List NodeId) (m : Moment) : Prop where
  planned : ∀ id, m.states id ≠ .unvisited → id ∈ order
  visited : ∀ id ∈ order, m.states id ≠ .unvisited
  assigned : ∀ id assignment, m.tasks id = some assignment →
    assignment.node.id = id ∧ registry.find? id = some assignment.node ∧ m.states id = .executing
  undecided : ∀ id, m.states id = .evaluating → m.verdicts.get? id = none
  decided : ∀ id ∈ order, m.states id ≠ .evaluating → m.verdicts.get? id = some (m.known id)

variable {registry : Registry} {conduct : Conduct} {order : List NodeId} {m next : Moment}

theorem kept_start {plan : Plan} (sound : plan.Sound registry) (disk : VirtualDisk) :
    Kept registry plan.order (.start plan disk) where
  planned := by
    intro id visited
    by_contra unplanned
    refine visited ?_
    show plan.states.get id = .unvisited
    rw [sound.states_get, if_neg unplanned]
  visited := by
    intro id planned
    show plan.states.get id ≠ .unvisited
    rw [sound.states_get, if_pos planned]
    nofun
  assigned := nofun
  undecided := fun _ _ => rfl
  decided := by
    intro id planned moved
    refine absurd ?_ moved
    show plan.states.get id = .evaluating
    rw [sound.states_get, if_pos planned]

theorem Kept.ask (canonical : registry.Canonical) (globFree : registry.GlobFree)
    (kept : Kept registry order m) {node : Artifact} (ready : Ready registry m node)
    (supplied : node.kind = .file → ∀ dep ∈ node.nodePrerequisites,
      registry.contains dep = false → m.disk.present ⟨dep⟩ = true) :
    Freshness.isDirty registry m.disk m.verdicts node.id =
      (.ok (Freshness.dirtyGiven registry m.disk m.known node),
        m.verdicts.record node.id (Freshness.dirtyGiven registry m.disk m.known node)) := by
  refine Freshness.isDirty_next canonical globFree ready.found
    (kept.undecided node.id ready.waiting) m.known ?_ supplied
  intro dep needed registered
  have satisfied := ready.supported dep needed registered
  have started : dep ∈ order := by
    refine kept.planned dep fun unvisited => ?_
    rw [unvisited] at satisfied
    cases satisfied
  refine kept.decided dep started fun waiting => ?_
  rw [waiting] at satisfied
  cases satisfied

theorem Kept.answered (orderly : registry.Orderly) (kept : Kept registry order m)
    (supplied : registry.Supplied order m.disk) : Answered registry m :=
  fun node ready => ⟨_, _, kept.ask orderly.canonical orderly.globFree ready
    (supplied node ready.found (kept.planned node.id (by rw [ready.waiting]; nofun)))⟩

theorem Kept.moved (kept : Kept registry order m) {id : NodeId} (member : id ∈ order)
    {state : NodeState} (states : next.states = update m.states id state)
    (visited : state ≠ .unvisited) (moved : state ≠ .evaluating)
    (verdicts : ∀ other, other ≠ id → next.verdicts.get? other = m.verdicts.get? other)
    (decided : ∃ dirty, next.verdicts.get? id = some dirty)
    (tasks : ∀ other assignment, next.tasks other = some assignment →
      other ≠ id ∧ m.tasks other = some assignment ∨
        other = id ∧ assignment.node.id = id ∧ registry.find? id = some assignment.node ∧
          state = .executing) :
    Kept registry order next := by
  -- Only the state, the verdict and the task of `id` have changed.
  constructor
  case planned =>
    intro other seen
    by_cases same : other = id
    · exact same ▸ member
    · rw [states, update_of_ne same] at seen
      exact kept.planned other seen
  case visited =>
    intro other inOrder
    by_cases same : other = id
    · rw [states, same, update_self]
      exact visited
    · rw [states, update_of_ne same]
      exact kept.visited other inOrder
  case assigned =>
    intro other assignment assigned
    rcases tasks other assignment assigned with ⟨apart, earlier⟩ | ⟨rfl, named, found, executing⟩
    · rw [states, update_of_ne apart]
      exact kept.assigned other assignment earlier
    · rw [states, update_self]
      exact ⟨named, found, executing⟩
  case undecided =>
    intro other waiting
    by_cases same : other = id
    · rw [states, same, update_self] at waiting
      exact absurd waiting moved
    · rw [states, update_of_ne same] at waiting
      rw [verdicts other same]
      exact kept.undecided other waiting
  case decided =>
    intro other inOrder started
    by_cases same : other = id
    · obtain ⟨dirty, recorded⟩ := decided
      rw [same, known, recorded]
      rfl
    · rw [states, update_of_ne same] at started
      rw [known, verdicts other same]
      exact kept.decided other inOrder started

theorem Kept.recorded (canonical : registry.Canonical) (globFree : registry.GlobFree)
    (kept : Kept registry order m) {node : Artifact} (ready : Ready registry m node)
    {dirty : Bool} {verdicts : Verdicts}
    (answer : Freshness.isDirty registry m.disk m.verdicts node.id = (.ok dirty, verdicts)) :
    node.id ∈ order ∧ dirty = Freshness.dirtyGiven registry m.disk m.known node ∧
      verdicts.get? node.id = some dirty ∧
      ∀ other, other ≠ node.id → verdicts.get? other = m.verdicts.get? other := by
  have undecided := kept.undecided node.id ready.waiting
  have asked := kept.ask canonical globFree ready fun kind _ needed unregistered =>
    Freshness.present_of_isDirty canonical ready.found undecided answer kind needed unregistered
  rw [answer, Prod.mk.injEq, Except.ok.injEq] at asked
  obtain ⟨rfl, rfl⟩ := asked
  refine ⟨kept.planned node.id (by rw [ready.waiting]; nofun), rfl, ?_, ?_⟩
  · rw [Verdicts.get?_record, undecided]
    simp
  · intro other apart
    rw [Verdicts.get?_record, if_neg apart, Option.or_none]

theorem Kept.idle (kept : Kept registry order m) {node : Artifact}
    (ready : Ready registry m node) : m.tasks node.id = none := by
  cases assigned : m.tasks node.id with
  | none => rfl
  | some assignment =>
      have executing := (kept.assigned node.id assignment assigned).2.2
      rw [ready.waiting] at executing
      cases executing

theorem Kept.advances (canonical : registry.Canonical) (globFree : registry.GlobFree)
    (kept : Kept registry order m) (advances : Advances registry conduct m next) :
    Kept registry order next := by
  cases advances with
  | @skip node verdicts ready clean =>
      obtain ⟨member, _, decided, others⟩ := kept.recorded canonical globFree ready clean
      refine kept.moved member rfl nofun nofun others ⟨_, decided⟩ ?_
      intro other assignment assigned
      refine .inl ⟨?_, assigned⟩
      rintro rfl
      rw [kept.idle ready] at assigned
      cases assigned
  | @launch node verdicts commands before called external timed =>
      obtain ⟨member, _, decided, others⟩ :=
        kept.recorded canonical globFree called.toReady called.dirty
      refine kept.moved member rfl nofun nofun others ⟨_, decided⟩ ?_
      intro other assignment assigned
      dsimp only at assigned
      rw [update_apply] at assigned
      split_ifs at assigned with same
      · cases assigned
        exact .inr ⟨same, rfl, called.found, rfl⟩
      · exact .inl ⟨same, assigned⟩
  | @perform node verdicts events disk called internal done =>
      obtain ⟨member, _, decided, others⟩ :=
        kept.recorded canonical globFree called.toReady called.dirty
      refine kept.moved member rfl nofun nofun others ⟨_, decided⟩ ?_
      intro other assignment assigned
      refine .inl ⟨?_, assigned⟩
      rintro rfl
      have idle := kept.idle called.toReady
      rw [idle] at assigned
      cases assigned
  | work works =>
      cases works with
      | meddle =>
          exact ⟨kept.planned, kept.visited, kept.assigned, kept.undecided, kept.decided⟩
      | @complete id node command left disk assigned completes =>
          refine ⟨kept.planned, kept.visited, ?_, kept.undecided, kept.decided⟩
          intro other assignment found
          dsimp only at found
          rw [update_apply] at found
          split_ifs at found with same
          · cases found
            subst same
            have before := kept.assigned other _ assigned
            exact before
          · exact kept.assigned other assignment found
  | @succeed id node finished executing =>
      have member : id ∈ order := kept.planned id (by rw [executing]; nofun)
      have decided := kept.decided id member (by rw [executing]; nofun)
      refine kept.moved member rfl nofun nofun (fun _ _ => rfl) ⟨_, decided⟩ ?_
      intro other assignment assigned
      dsimp only at assigned
      rw [update_apply] at assigned
      split_ifs at assigned with same
      exact .inl ⟨same, assigned⟩

theorem Kept.suffers (canonical : registry.Canonical) (globFree : registry.GlobFree)
    (kept : Kept registry order m) (suffers : Suffers registry m next) :
    Kept registry order next := by
  cases suffers with
  | @spoil node verdicts events disk failure called internal failed =>
      obtain ⟨member, _, decided, others⟩ :=
        kept.recorded canonical globFree called.toReady called.dirty
      refine kept.moved member rfl nofun nofun others ⟨_, decided⟩ ?_
      intro other assignment assigned
      refine .inl ⟨?_, assigned⟩
      rintro rfl
      have idle := kept.idle called.toReady
      rw [idle] at assigned
      cases assigned
  | @fail node found executing =>
      have member : node.id ∈ order := kept.planned node.id (by rw [executing]; nofun)
      have decided := kept.decided node.id member (by rw [executing]; nofun)
      refine kept.moved member rfl nofun nofun (fun _ _ => rfl) ⟨_, decided⟩ ?_
      intro other assignment assigned
      dsimp only at assigned
      rw [update_apply] at assigned
      split_ifs at assigned with same
      exact .inl ⟨same, assigned⟩
  | @crash id executing =>
      refine ⟨kept.planned, kept.visited, ?_, kept.undecided, kept.decided⟩
      intro other assignment assigned
      dsimp only at assigned
      rw [update_apply] at assigned
      split_ifs at assigned with same
      exact kept.assigned other assignment assigned

theorem Kept.step (canonical : registry.Canonical) (globFree : registry.GlobFree)
    (kept : Kept registry order m) (step : Next registry conduct m next) :
    Kept registry order next := by
  rcases step with advances | suffers
  · exact kept.advances canonical globFree advances
  · exact kept.suffers canonical globFree suffers

end ArtifactPipeline.Run.Moment

namespace ArtifactPipeline

namespace Run

open Function Relation

variable {W : Type} [Disk W] [Mounted W]

structure Shows (m : Moment) (session : Session W) : Prop where
  disk : m.disk = Mounted.disk session.world
  states : m.states = session.states.get
  verdicts : m.verdicts = session.verdicts
  executed : m.executed = session.report.executed

/-- How a run comes to its end: by which steps, and what is certain then. -/
structure Reaches (registry : Registry) (conduct : Conduct) (order : List NodeId) (m : Moment)
    (outcome : Outcome) (session : Session W) (last : Moment) : Prop where
  steps : ReflTransGen (Moment.Next registry conduct) m last
  disk : last.disk = Mounted.disk session.world
  states : last.states = session.states.get
  tidy : outcome ≠ .crashed → ∀ id ∈ order, last.states id ≠ .executing
  completed : ∀ report, outcome = .completed report →
    ReflTransGen (Moment.Advances registry conduct) m last ∧ report.executed = last.executed ∧
      ∀ id ∈ order, (last.states id).isSatisfied = true

theorem Reaches.after {registry : Registry} {conduct : Conduct} {order : List NodeId}
    {m next last : Moment} {outcome : Outcome} {session : Session W}
    (reaches : Reaches registry conduct order next outcome session last)
    (advances : ReflTransGen (Moment.Advances registry conduct) m next) :
    Reaches registry conduct order m outcome session last :=
  { reaches with
    steps := (Moment.next_of_advances advances).trans reaches.steps
    completed := by
      intro report completed
      obtain ⟨steps, listed⟩ := reaches.completed report completed
      exact ⟨advances.trans steps, listed⟩ }

theorem outputTime_disk (disk : VirtualDisk) (node : Artifact) :
    ∃ before, outputTime disk node = .ok before := by
  unfold outputTime
  cases node.kind with
  | file => exact ⟨_, rfl⟩
  | directory => exact ⟨_, rfl⟩
  | phony => exact ⟨_, rfl⟩

theorem Shows.isDirty {registry : Registry} {m : Moment} {session : Session W}
    (shows : Shows m session) (globFree : registry.GlobFree) (id : NodeId) :
    Freshness.isDirty registry session.world session.verdicts id =
      Freshness.isDirty registry m.disk m.verdicts id := by
  rw [Freshness.isDirty_mounted globFree, shows.disk, shows.verdicts]

section Sequence

variable {registry : Registry} {conduct : Conduct} {executor : Executor W}

/-- A sequential run between two nodes: those of `done` are behind it, those of `rest` before it. -/
structure Paused (done rest : List NodeId) (m : Moment) (session : Session W) : Prop
    extends Shows m session where
  idle : m.tasks = .none
  satisfied : ∀ id ∈ done, (m.states id).isSatisfied = true
  waiting : ∀ id ∈ rest, m.states id = .evaluating

theorem paused_start {plan : Plan} (sound : plan.Sound registry) (world : W) :
    Paused [] plan.order (.start plan (Mounted.disk world)) (.start world plan.states) := by
  refine ⟨⟨rfl, rfl, rfl, rfl⟩, rfl, nofun, ?_⟩
  intro id planned
  show plan.states.get id = .evaluating
  rw [sound.states_get, if_pos planned]

/-- What comes of the action of a node that is called: it succeeds, fails or breaks down, in steps
that the conduct allows. -/
inductive Acted (registry : Registry) (conduct : Conduct) (m : Moment) (node : Artifact)
    (verdicts : Verdicts) : Deed × Session W → Prop where
  | succeeded {next : Moment} {after : Session W}
      (advances : ReflTransGen (Moment.Advances registry conduct) m next)
      (disk : next.disk = Mounted.disk after.world) (idle : next.tasks = .none)
      (states : next.states = update m.states node.id .succeeded)
      (verdicts_ : next.verdicts = verdicts) (executed : next.executed = m.executed ++ [node.id]) :
      Acted registry conduct m node verdicts (.succeeded, after)
  | failed {next : Moment} {after : Session W} {failure : Failure}
      (steps : ReflTransGen (Moment.Next registry conduct) m next)
      (disk : next.disk = Mounted.disk after.world)
      (states : next.states = update m.states node.id .failed) :
      Acted registry conduct m node verdicts (.failed failure, after)
  | crashed {next : Moment} {after : Session W}
      (advances : ReflTransGen (Moment.Advances registry conduct) m next)
      (disk : next.disk = Mounted.disk after.world)
      (states : next.states = update m.states node.id .executing) :
      Acted registry conduct m node verdicts (.crashed, after)

omit [Mounted W] in
theorem discard_noteAll (session : Session W) (events : List Event) (world : W) (node : Artifact)
    (before : Option Nat) :
    discard { session.noteAll events with world } node before =
      { session.noteAll (events ++ (discardLeftover node before world).1) with
        world := (discardLeftover node before world).2 } := by
  simp [discard, Session.noteAll]

theorem acted_run (follows : executor.Follows conduct) {m : Moment} {session : Session W}
    {node : Artifact} {verdicts : Verdicts} {commands : List Command}
    (called : Moment.Called registry m node verdicts) (shows : Shows m session)
    (idle : m.tasks = .none) (external : node.action = .run commands) :
    Acted registry conduct m node verdicts
      (act executor node (acting session node.id verdicts)) := by
  obtain ⟨before, timed⟩ := outputTime_disk m.disk node
  have launched : Moment.Advances registry conduct m _ := .launch called external timed
  obtain ⟨left, works, finished⟩ := runCommands_works follows commands session.world
  rw [shows.disk, ← outputTime_mounted] at timed
  have opened : (acting session node.id verdicts).world = session.world := rfl
  unfold act
  rw [external]
  dsimp only
  rw [opened, timed]
  dsimp only [runTask]
  rw [external, commandsOf]
  generalize runCommands executor node commands session.world = ran at works finished ⊢
  obtain ⟨result, events, world⟩ := ran
  dsimp only at works finished ⊢
  rw [← shows.disk] at works
  have worked := (ReflTransGen.single launched).trans (Moment.works_advances works)
  -- A launch and the work of the commands in any case, and behind them what the result asks for.
  cases result with
  | succeeded =>
      rw [finished rfl] at worked
      have done := worked.tail (.succeed (update_self ..) (update_self ..))
      refine .succeeded done rfl ?_ (update_idem ..) rfl rfl
      rw [update_idem, update_idem, idle]
      exact update_eq_self ..
  | failed failure =>
      have steps := (Moment.next_of_advances worked).tail
        (.inr (.fail called.found (update_self ..)))
      rw [discard_noteAll]
      refine .failed steps ?_ (update_idem ..)
      simp [update_self, discardLeftover_mounted]
  | crashed => exact .crashed worked rfl rfl

theorem acted_internal {m : Moment} {session : Session W} {node : Artifact} {verdicts : Verdicts}
    (called : Moment.Called registry m node verdicts) (shows : Shows m session)
    (idle : m.tasks = .none) (mirrors : Mirrors node session.world)
    (internal : ∀ commands, node.action ≠ .run commands) :
    Acted registry conduct m node verdicts
      (act executor node (acting session node.id verdicts)) := by
  have mounted := mirrors
  rw [Mirrors, ← shows.disk, Prod.mk.injEq] at mounted
  have opened : (acting session node.id verdicts).world = session.world := rfl
  rw [act_internal internal, opened]
  generalize performed : runInternal node m.disk = ran at mounted
  obtain ⟨result, events, disk⟩ := ran
  rw [mounted.1]
  cases result with
  | ok =>
      have done : Moment.Advances registry conduct m _ := .perform called internal performed
      exact .succeeded (.single done) mounted.2.symm idle rfl rfl rfl
  | error failure =>
      have spoiled : Moment.Next registry conduct m _ := .inr (.spoil called internal performed)
      exact .failed (.single spoiled) mounted.2.symm rfl

theorem acted (follows : executor.Follows conduct) {m : Moment} {session : Session W}
    {node : Artifact} {verdicts : Verdicts} (called : Moment.Called registry m node verdicts)
    (shows : Shows m session) (idle : m.tasks = .none) (mirrors : Mirrors node session.world) :
    Acted registry conduct m node verdicts
      (act executor node (acting session node.id verdicts)) := by
  cases action : node.action with
  | run commands => exact acted_run follows called shows idle action
  | none | createDir | symlink => exact acted_internal called shows idle mirrors (by simp [action])

section Paused

variable {order done rest : List NodeId} {node : Artifact} {m : Moment} {session next : Session W}

theorem Paused.ready (paused : Paused done (node.id :: rest) m session)
    (ordered : Plan.Ordered registry order) (split : order = done ++ node.id :: rest)
    (found : registry.find? node.id = some node) : Moment.Ready registry m node := by
  refine ⟨found, paused.waiting _ List.mem_cons_self, ?_⟩
  intro dep needed registered
  exact paused.satisfied dep (ordered.earlier split found needed registered)

theorem Paused.quiet (paused : Paused done rest m session) (split : order = done ++ rest) :
    ∀ id ∈ order, m.states id ≠ .executing := by
  intro id member executing
  rw [split, List.mem_append] at member
  rcases member with earlier | later
  · have satisfied := paused.satisfied id earlier
    rw [executing] at satisfied
    cases satisfied
  · have evaluating := paused.waiting id later
    rw [executing] at evaluating
    cases evaluating

theorem Paused.pass (paused : Paused done (node.id :: rest) m session)
    (distinct : node.id ∉ rest) {after : Moment} (shows : Shows after next)
    (idle : after.tasks = .none) {state : NodeState} (satisfied : state.isSatisfied = true)
    (states : after.states = update m.states node.id state) :
    Paused (done ++ [node.id]) rest after next := by
  exact ⟨shows, idle, states ▸ NodeState.satisfied_update paused.satisfied satisfied,
    states ▸ NodeState.waiting_update paused.waiting distinct⟩

theorem Paused.acted (paused : Paused done (node.id :: rest) m session)
    (globFree : registry.GlobFree) (mirrors : Mirrors node session.world)
    (follows : executor.Follows conduct) (resolved : registry.resolve node.id = .ok node)
    (ready : Moment.Ready registry m node) {other : Artifact} {deed : Deed}
    (attempt : Attempt registry executor node.id session other deed next) :
    Acted registry conduct m node next.verdicts (deed, next) := by
  cases resolved.symm.trans attempt.resolved
  have answer := attempt.answer
  rw [paused.toShows.isDirty globFree] at answer
  exact attempt.acted ▸ Run.acted follows ⟨ready, answer⟩ paused.toShows paused.idle mirrors

theorem Paused.continues (paused : Paused done (node.id :: rest) m session)
    (globFree : registry.GlobFree) (mirrors : Mirrors node session.world)
    (follows : executor.Follows conduct) (resolved : registry.resolve node.id = .ok node)
    (ready : Moment.Ready registry m node) (distinct : node.id ∉ rest)
    (continues : Continues registry executor node.id session next) :
    ∃ after, ReflTransGen (Moment.Advances registry conduct) m after ∧
      Paused (done ++ [node.id]) rest after next := by
  cases continues with
  | skipped _ _ answer =>
      rw [paused.toShows.isDirty globFree] at answer
      have skipped : Moment.Advances registry conduct m _ := .skip ready answer
      refine ⟨_, .single skipped, paused.pass distinct ⟨paused.disk, ?_, rfl, paused.executed⟩
        paused.idle (by rfl) rfl⟩
      rw [paused.states]
      exact (NodeStates.get_set_eq_update ..).symm
  | executed attempt =>
      cases paused.acted globFree mirrors follows resolved ready attempt with
      | succeeded advances disk idle states verdicts executed =>
          refine ⟨_, advances, paused.pass distinct ⟨disk, ?_, verdicts, ?_⟩ idle (by rfl) states⟩
          · rw [states, paused.states]
            exact (attempt.closed .succeeded).symm
          · rw [executed, paused.executed, ← attempt.report]
            rfl

theorem Paused.halts (paused : Paused done (node.id :: rest) m session)
    (globFree : registry.GlobFree) (mirrors : Mirrors node session.world)
    (follows : executor.Follows conduct) (resolved : registry.resolve node.id = .ok node)
    (ready : Moment.Ready registry m node) (split : order = done ++ node.id :: rest)
    {outcome : Outcome} {last : Session W}
    (halts : Halts registry executor node.id session outcome last) :
    ∃ final, Reaches registry conduct order m outcome last final := by
  have waiting : session.states.get node.id = .evaluating := by
    rw [← paused.states, ready.waiting]
  have quiet := paused.quiet split
  cases halts with
  | unknown unresolved => cases resolved.symm.trans unresolved
  | astray _ astray => exact absurd waiting astray
  | unanswered =>
      refine ⟨m, .refl, ?_, ?_, fun _ => quiet, nofun⟩
      · split <;> exact paused.disk
      · split <;> exact paused.states
  | unprepared attempt =>
      -- In a mirrored world the time of the output can always be read.
      cases paused.acted globFree mirrors follows resolved ready attempt
  | crashed attempt =>
      cases paused.acted globFree mirrors follows resolved ready attempt with
      | crashed advances disk states =>
          refine ⟨_, Moment.next_of_advances advances, disk, ?_, fun alive => absurd rfl alive,
            nofun⟩
          rw [states, paused.states, attempt.states, NodeStates.get_set_eq_update]
  | failed attempt =>
      cases paused.acted globFree mirrors follows resolved ready attempt with
      | failed steps disk states =>
          refine ⟨_, steps, disk, ?_, ?_, nofun⟩
          · rw [states, paused.states]
            exact (attempt.closed .failed).symm
          · intro _ other member
            rw [states, update_apply]
            split_ifs with same
            · nofun
            · exact quiet other member

end Paused

theorem inSequence_reaches (canonical : registry.Canonical) (globFree : registry.GlobFree)
    (mirrors : ∀ node ∈ registry.nodes, ∀ world : W, Mirrors node world) {order : List NodeId}
    (ordered : Plan.Ordered registry order) (follows : executor.Follows conduct)
    {done rest : List NodeId} (split : order = done ++ rest) {m : Moment} {session : Session W}
    (paused : Paused done rest m session) :
    ∃ last, Reaches registry conduct order m (inSequence registry executor rest session).1
      (inSequence registry executor rest session).2 last := by
  -- Between two nodes the run is paused; each node that is passed advances the moment to the next
  -- pause.
  induction rest generalizing done m session with
  | nil =>
      refine ⟨m, .refl, paused.disk, paused.states, fun _ => paused.quiet split, ?_⟩
      intro report completed
      cases completed
      rw [List.append_nil] at split
      exact ⟨.refl, paused.executed.symm, split ▸ paused.satisfied⟩
  | cons id rest ih =>
      obtain ⟨node, found, rfl⟩ := ordered.registered (by simp [split] : id ∈ order)
      have resolved := Registry.resolve_of_find? (canonical.found found) found
      have mirrored := mirrors node (Registry.mem_of_find? found) session.world
      have ready := paused.ready ordered split found
      have distinct := ordered.nodup
      rw [split, List.nodup_middle, List.nodup_cons, List.mem_append, not_or] at distinct
      rcases inSequence_proceeds registry executor node.id session with
        ⟨next, continues, onward⟩ | ⟨outcome, last, halts, ends⟩
      · obtain ⟨after, advances, behind⟩ :=
          paused.continues globFree mirrored follows resolved ready distinct.1.2 continues
        obtain ⟨last, reaches⟩ := ih (by simp [split]) behind
        rw [onward]
        exact ⟨last, reaches.after advances⟩
      · rw [ends]
        exact paused.halts globFree mirrored follows resolved ready split halts

end Sequence

end Run

namespace Run.Coordinator

open Function Relation

variable {V : Type}

structure Lists (plan : Plan) (c : Coordinator V) (states : NodeId → NodeState) : Prop where
  pending : ∀ id ∈ c.pending, id ∈ plan.order ∧ states id = .evaluating
  single : c.pending.Nodup
  running : ∀ id ∈ c.running, states id = .executing
  distinct : c.running.Nodup
  planned : ∀ id, states id ≠ .unvisited → id ∈ plan.order
  accounted : c.failure = none → ∀ id ∈ plan.order,
    id ∈ c.pending ∨ id ∈ c.running ∨ (states id).isSatisfied = true

namespace Lists

variable {plan : Plan} {c after : Coordinator V} {states : NodeId → NodeState}

theorem start {registry : Registry} (sound : plan.Sound registry) (world : V) :
    Lists plan (Coordinator.start plan world) plan.states.get := by
  refine ⟨?_, sound.nodup, nofun, List.nodup_nil, ?_, fun _ id planned => .inl planned⟩
  · intro id member
    have planned : id ∈ plan.order := member
    refine ⟨planned, ?_⟩
    rw [sound.states_get, if_pos planned]
  · intro id visited
    by_contra unplanned
    exact visited (by rw [sound.states_get, if_neg unplanned])

theorem congr (lists : Lists plan c states) (pending : after.pending = c.pending)
    (running : after.running = c.running) (calm : after.failure = none → c.failure = none) :
    Lists plan after states where
  pending := pending ▸ lists.pending
  single := pending ▸ lists.single
  running := running ▸ lists.running
  distinct := running ▸ lists.distinct
  planned := lists.planned
  accounted := by
    intro untroubled id planned
    rw [pending, running]
    exact lists.accounted (calm untroubled) id planned

theorem not_astray {registry : Registry} {c : Coordinator V}
    (lists : Lists plan c c.session.states.get) (canonical : registry.Canonical)
    (sound : plan.Sound registry) : ¬Astray registry c := by
  have resolves {id : NodeId} (planned : id ∈ plan.order) {failure : Failure} :
      registry.resolve id ≠ .error failure := by
    obtain ⟨node, found, _⟩ := sound.ordered.registered planned
    simp [Registry.resolve_of_find? (canonical.found found) found]
  rintro (⟨id, member, trouble⟩ | ⟨id, member, trouble⟩)
  · have known := lists.pending id (by simp [Coordinator.pending, member])
    rcases trouble with ⟨failure, unknown⟩ | moved
    · exact resolves known.1 unknown
    · exact moved known.2
  · have executing := lists.running id member
    rcases trouble with ⟨failure, unknown⟩ | moved
    · exact resolves (lists.planned id (by simp [executing])) unknown
    · exact moved executing

theorem chosen [Disk V] {registry : Registry} {jobs : Nat} {c : Coordinator V}
    (lists : Lists plan c c.session.states.get) (canonical : registry.Canonical)
    (sound : plan.Sound registry) {node : Artifact} {id : NodeId} {rest : List NodeId}
    (chosen : Chosen registry plan jobs c node id rest) :
    id = node.id ∧ registry.find? node.id = some node ∧
      c.session.states.get node.id = .evaluating ∧
      ∀ dep ∈ node.nodePrerequisites, registry.contains dep = true →
        (c.session.states.get dep).isSatisfied = true := by
  have member : id ∈ c.pending := by simp [Coordinator.pending, chosen.next]
  obtain ⟨planned, waiting⟩ := lists.pending id member
  obtain ⟨known, found, named⟩ := sound.ordered.registered planned
  have resolved := Registry.resolve_of_find? (canonical.found found) found
  rw [chosen.resolved] at resolved
  cases resolved
  subst named
  exact ⟨rfl, found, waiting,
    (sound.readyIn_iff found planned c.session.states).mp chosen.ready⟩

theorem handled (lists : Lists plan c states) {id : NodeId} {rest : List NodeId}
    (next : c.rest = id :: rest) {state : NodeState}
    (pending : after.pending = c.passed ++ rest)
    (running : after.running = c.running ∧
        (state.isSatisfied = true ∨ after.failure ≠ none) ∨
      after.running = c.running ++ [id] ∧ state = .executing)
    (calm : after.failure = none → c.failure = none) :
    Lists plan after (update states id state) := by
  have known : c.pending = c.passed ++ id :: rest := by rw [Coordinator.pending, next]
  have member : id ∈ c.pending := by simp [known]
  have single := lists.single
  rw [known] at single
  -- The head of the list stands in it once and nowhere else, so that no other node is touched.
  have rearranged := List.nodup_cons.mp (List.nodup_middle.mp single)
  have idWaiting := lists.pending id member
  have idle : id ∉ c.running := by
    intro running
    have executing := lists.running id running
    rw [idWaiting.2] at executing
    cases executing
  constructor
  case pending =>
    intro other inside
    rw [pending] at inside
    have apart : other ≠ id := by
      rintro rfl
      exact rearranged.1 inside
    rw [update_of_ne apart]
    refine lists.pending other ?_
    rw [known]
    simp only [List.mem_append, List.mem_cons] at inside ⊢
    tauto
  case single =>
    rw [pending]
    exact rearranged.2
  case running =>
    intro other inside
    rw [update_apply]
    split_ifs with same
    · rcases running with ⟨kept, _⟩ | ⟨_, executing⟩
      · rw [kept, same] at inside
        exact absurd inside idle
      · exact executing
    · rcases running with ⟨kept, _⟩ | ⟨longer, _⟩
      · exact lists.running other (kept ▸ inside)
      · have earlier : other ∈ c.running := by simpa [longer, same] using inside
        exact lists.running other earlier
  case distinct =>
    rcases running with ⟨kept, _⟩ | ⟨longer, _⟩
    · rw [kept]
      exact lists.distinct
    · rw [longer, List.nodup_append]
      refine ⟨lists.distinct, List.nodup_singleton id, ?_⟩
      intro other inside last isLast same
      rw [List.mem_singleton.mp isLast] at same
      exact idle (same ▸ inside)
  case planned =>
    intro other seen
    by_cases same : other = id
    · rw [same]
      exact idWaiting.1
    · rw [update_of_ne same] at seen
      exact lists.planned other seen
  case accounted =>
    intro untroubled other planned
    by_cases same : other = id
    · subst same
      rw [update_self]
      rcases running with ⟨_, satisfied | troubled⟩ | ⟨longer, _⟩
      · exact .inr (.inr satisfied)
      · exact absurd untroubled troubled
      · exact .inr (.inl (by simp [longer]))
    · rw [update_of_ne same]
      rcases lists.accounted (calm untroubled) other planned with waits | runs | satisfied
      · left
        rw [pending]
        rw [known] at waits
        simpa [same] using waits
      · right
        left
        rcases running with ⟨kept, _⟩ | ⟨longer, _⟩
        · rw [kept]
          exact runs
        · rw [longer]
          exact List.mem_append_left _ runs
      · exact .inr (.inr satisfied)

theorem mem_eraseIdx {running : List NodeId} (distinct : running.Nodup) (index : Fin running.length)
    {other : NodeId} :
    other ∈ running.eraseIdx index ↔ other ≠ running.get index ∧ other ∈ running := by
  rw [← distinct.erase_get, distinct.mem_erase_iff]

theorem joined (lists : Lists plan c states) (index : Fin c.running.length)
    {other : NodeId → NodeState} (pending : after.pending = c.pending)
    (running : after.running = c.running.eraseIdx index)
    (others : ∀ id, id ≠ c.running.get index → other id = states id)
    (calm : after.failure = none → c.failure = none ∧
      (other (c.running.get index)).isSatisfied = true) :
    Lists plan after other := by
  have member : c.running.get index ∈ c.running := List.get_mem _ _
  have executing := lists.running _ member
  constructor
  case pending =>
    intro id inside
    rw [pending] at inside
    have waiting := lists.pending id inside
    have apart : id ≠ c.running.get index := by
      intro same
      rw [same, executing] at waiting
      cases waiting.2
    rw [others id apart]
    exact waiting
  case single =>
    rw [pending]
    exact lists.single
  case running =>
    intro id inside
    rw [running, mem_eraseIdx lists.distinct] at inside
    rw [others id inside.1]
    exact lists.running id inside.2
  case distinct =>
    rw [running]
    exact lists.distinct.eraseIdx _
  case planned =>
    intro id seen
    by_cases same : id = c.running.get index
    · rw [same]
      exact lists.planned _ (by rw [executing]; nofun)
    · rw [others id same] at seen
      exact lists.planned id seen
  case accounted =>
    intro untroubled id planned
    obtain ⟨calmBefore, satisfied⟩ := calm untroubled
    by_cases same : id = c.running.get index
    · rw [same]
      exact .inr (.inr satisfied)
    · rw [others id same, pending, running, mem_eraseIdx lists.distinct]
      rcases lists.accounted calmBefore id planned with waits | runs | fine
      · exact .inl waits
      · exact .inr (.inl ⟨same, runs⟩)
      · exact .inr (.inr fine)

end Lists

theorem beforeOf_set (c : Coordinator V) (id : NodeId) (mtime : Option Nat) :
    beforeOf { c with before := Assoc.set id mtime c.before } = update c.beforeOf id mtime := by
  funext other
  rw [beforeOf, Assoc.lookup_set, update_apply]
  split_ifs <;> rfl

theorem beforeOf_erase (c : Coordinator V) (id : NodeId) :
    beforeOf { c with before := Assoc.erase id c.before } = update c.beforeOf id none := by
  funext other
  rw [beforeOf, Assoc.lookup_erase, update_apply]
  split_ifs <;> rfl

variable [Disk V] [Mounted V] {registry : Registry} {conduct : Conduct}
  {stands : V → Assignments → Prop} {plan : Plan} {jobs : Nat} {crew : Crew V}
  {c : Coordinator V} {m : Moment}

/-- The coordinator stands where the moment does, and its crew has the tasks under way. -/
structure Tracks (stands : V → Assignments → Prop) (plan : Plan) (c : Coordinator V) (m : Moment) :
    Prop extends Shows m c.session where
  stands : stands c.session.world m.tasks
  tasks : ∀ id, (m.tasks id).isSome = true ↔ id ∈ c.running
  before : m.before = c.beforeOf
  distinct : c.session.states.Distinct
  lists : Lists plan c m.states

theorem Tracks.ready (tracks : Tracks stands plan c m) (canonical : registry.Canonical)
    (sound : plan.Sound registry) {node : Artifact} {id : NodeId} {rest : List NodeId}
    (chosen : Chosen registry plan jobs c node id rest) :
    node.id = id ∧ Moment.Ready registry m node := by
  have lists := tracks.lists
  rw [tracks.states] at lists
  obtain ⟨rfl, found, waiting, supported⟩ := lists.chosen canonical sound chosen
  rw [← tracks.states] at waiting supported
  exact ⟨rfl, found, waiting, supported⟩

theorem stands_runInternal (follows : crew.Follows conduct stands) {node : Artifact}
    (unlinked : ∀ target, node.action ≠ .symlink target) {world : V} {tasks : Assignments}
    (standing : stands world tasks) : stands (runInternal node world).2.2 tasks := by
  have made := follows.createDirs world tasks node.path standing
  unfold runInternal
  cases action : node.action with
  | none => exact standing
  | run commands => exact standing
  | symlink target => exact absurd action (unlinked target)
  | createDir =>
      dsimp only
      generalize Disk.createDirs world node.path = result at made ⊢
      obtain ⟨answer, after⟩ := result
      cases answer <;> exact made

theorem stands_runInternal_linking (upholds : crew.Upholds conduct stands) (node : Artifact)
    {world : V} {tasks : Assignments} (standing : stands world tasks) :
    stands (runInternal node world).2.2 tasks := by
  cases action : node.action with
  | none | createDir | run =>
      exact stands_runInternal upholds.toFollows (by simp [action]) standing
  | symlink target =>
      have made := upholds.symlink world tasks target node.path standing
      unfold runInternal
      rw [action]
      dsimp only
      split
      · exact standing
      · generalize Disk.symlink world target node.path = result at made ⊢
        obtain ⟨answer, after⟩ := result
        cases answer <;> exact made

theorem stands_discardLeftover (follows : crew.Follows conduct stands) (node : Artifact)
    (before : Option Nat) {world : V} {tasks : Assignments} (standing : stands world tasks) :
    stands (discardLeftover node before world).2 tasks := by
  have removed : stands (removeLeftover node world).2 tasks := by
    have gone := follows.removeFile world tasks node.path standing
    unfold removeLeftover
    generalize Disk.removeFile world node.path = result at gone ⊢
    obtain ⟨answer, after⟩ := result
    cases answer <;> exact gone
  unfold discardLeftover
  cases node.kind with
  | directory => exact standing
  | phony => exact standing
  | file =>
      dsimp only
      split
      · exact standing
      · split
        · exact removed
        · exact standing
      · split
        · exact standing
        · exact removed

def Matched (registry : Registry) (conduct : Conduct) (stands : V → Assignments → Prop)
    (plan : Plan) (c : Coordinator V) (m : Moment) (next : Coordinator V) : Prop :=
  ∃ after, ReflTransGen (Moment.Next registry conduct) m after ∧
    (next.failure = none →
      c.failure = none ∧ ReflTransGen (Moment.Advances registry conduct) m after) ∧
    Tracks stands plan next after

theorem matched_of_advances {next : Coordinator V} {after : Moment}
    (advances : ReflTransGen (Moment.Advances registry conduct) m after)
    (calm : next.failure = none → c.failure = none) (tracks : Tracks stands plan next after) :
    Matched registry conduct stands plan c m next :=
  ⟨after, Moment.next_of_advances advances, fun untroubled => ⟨calm untroubled, advances⟩, tracks⟩

theorem matched_of_trouble {next : Coordinator V} {after : Moment}
    (steps : ReflTransGen (Moment.Next registry conduct) m after) (trouble : next.failure ≠ none)
    (tracks : Tracks stands plan next after) : Matched registry conduct stands plan c m next :=
  ⟨after, steps, fun untroubled => absurd untroubled trouble, tracks⟩

theorem isSome_iff_of_works {tasks after : Assignments} {running : List NodeId}
    (known : ∀ id, (tasks id).isSome = true ↔ id ∈ running) {before disk : VirtualDisk}
    (works : ReflTransGen conduct.Works ⟨before, tasks⟩ ⟨disk, after⟩) (id : NodeId) :
    (after id).isSome = true ↔ id ∈ running := by
  have same := Conduct.works_isSome works id
  dsimp only at same
  rw [same, known]

theorem Tracks.stirred (tracks : Tracks stands plan c m) (follows : crew.Follows conduct stands) :
    ∃ after, ReflTransGen (Moment.Advances registry conduct) m after ∧
      Tracks stands plan (c.stirred crew) after := by
  obtain ⟨tasks, works, standing⟩ := follows.meanwhile c.session.world m.tasks tracks.stands
  rw [← tracks.disk] at works
  exact ⟨_, Moment.works_advances works, ⟨rfl, tracks.states, tracks.verdicts, tracks.executed⟩,
    standing, isSome_iff_of_works tracks.tasks works, tracks.before, tracks.distinct,
    tracks.lists.congr rfl rfl id⟩

theorem Matched.stirred {next : Coordinator V}
    (matched : Matched registry conduct stands plan c m next)
    (follows : crew.Follows conduct stands) :
    Matched registry conduct stands plan c m (next.stirred crew) := by
  obtain ⟨between, steps, calm, tracks⟩ := matched
  obtain ⟨after, works, stirred⟩ := tracks.stirred follows
  exact ⟨after, steps.trans (Moment.next_of_advances works),
    fun untroubled => (calm untroubled).imp_right fun advances => advances.trans works, stirred⟩

omit [Disk V] [Mounted V] in
theorem get_opening_set (c : Coordinator V) (id : NodeId) (verdicts : Verdicts)
    (state : NodeState) :
    ((c.opening id verdicts).states.set id state).get = update c.session.states.get id state :=
  NodeStates.get_set_set ..

omit [Disk V] [Mounted V] in
theorem isSome_iff_started {tasks after : Assignments} {node : Artifact} {commands : List Command}
    (known : ∀ id, (tasks id).isSome = true ↔ id ∈ c.running)
    {before disk : VirtualDisk}
    (works : ReflTransGen conduct.Works ⟨before, update tasks node.id (some ⟨node, commands⟩)⟩
      ⟨disk, after⟩) (id : NodeId) :
    (after id).isSome = true ↔ id ∈ c.running ++ [node.id] := by
  have same := Conduct.works_isSome works id
  dsimp only at same
  rw [same, update_apply, List.mem_append, List.mem_singleton, ← known]
  split_ifs with equal
  · simp [equal]
  · simp [equal]

theorem works_of_ends (follows : crew.Follows conduct stands) {tasks : Assignments}
    (standing : stands c.session.world tasks)
    (known : ∀ id, (tasks id).isSome = true ↔ id ∈ c.running) (distinct : c.running.Nodup)
    {id : NodeId} {joined : Joined V c.running} (ends : Ends jobs crew c id joined) :
    ∃ after,
      ReflTransGen conduct.Works ⟨Mounted.disk c.session.world, tasks⟩
        ⟨Mounted.disk joined.world, after⟩ ∧
      stands joined.world (update after id none) ∧
      (∀ other, (update after id none other).isSome = true ↔
        other ∈ c.running.eraseIdx joined.index) ∧
      (joined.result = .succeeded → ∃ node, after id = some ⟨node, []⟩) := by
  obtain ⟨busy, rfl⟩ := ends.turn
  obtain ⟨after, works, left, finished⟩ :=
    follows.join c.session.world tasks c.running busy standing distinct known
  rw [← ends.ended] at left finished
  refine ⟨after, works, left, ?_, finished⟩
  intro other
  have same := Conduct.works_isSome works other
  dsimp only at same
  rw [Lists.mem_eraseIdx distinct, ← ends.ended, update_apply, ← known]
  split_ifs with equal
  · simp [equal]
  · simp [equal, same]

section Turns

variable {node : Artifact} {id : NodeId} {rest : List NodeId} {verdicts : Verdicts}

theorem Tracks.skip (tracks : Tracks stands plan c m) (ready : Moment.Ready registry m node)
    (chosen : Chosen registry plan jobs c node node.id rest)
    (clean : Freshness.isDirty registry m.disk m.verdicts node.id = (.ok false, verdicts)) :
    Matched registry conduct stands plan c m (rewind { c with
      rest
      session := Session.reportSkipped
        { c.session with
          verdicts, states := c.session.states.set node.id .skipped } node.id }) := by
  have skipped : Moment.Advances registry conduct m _ := .skip ready clean
  refine matched_of_advances (.single skipped) id ⟨⟨tracks.disk, ?_, rfl, tracks.executed⟩,
    tracks.stands, tracks.tasks, tracks.before, tracks.distinct.set _ _, ?_⟩
  · rw [tracks.states]
    exact (NodeStates.get_set_eq_update ..).symm
  · exact tracks.lists.handled chosen.next rfl (.inl ⟨rfl, .inl rfl⟩) id

theorem Tracks.perform (tracks : Tracks stands plan c m)
    (called : Moment.Called registry m node verdicts)
    (chosen : Chosen registry plan jobs c node node.id rest)
    (mirrors : Mirrors node c.session.world)
    (standing : stands (runInternal node c.session.world).2.2 m.tasks)
    (internal : ∀ commands, node.action ≠ .run commands) {events : List Event} {world : V}
    (done : runInternal node c.session.world = (.ok (), events, world)) :
    Matched registry conduct stands plan c m (rewind { c with
      rest
      session := Session.reportExecuted
        { (c.opening node.id verdicts).noteAll events with
          world
          states := (c.opening node.id verdicts).states.set node.id .succeeded } node.id }) := by
  have mounted := mirrors
  rw [Mirrors, done, ← tracks.disk, Prod.mk.injEq] at mounted
  rw [done] at standing
  generalize performed : runInternal node m.disk = ran at mounted
  obtain ⟨result, others, disk⟩ := ran
  dsimp only at mounted
  rw [← mounted.1] at performed
  have advanced : Moment.Advances registry conduct m _ := .perform called internal performed
  refine matched_of_advances (.single advanced) id ⟨⟨mounted.2.symm, ?_, rfl, ?_⟩,
    standing, tracks.tasks, tracks.before, (tracks.distinct.set _ _).set _ _, ?_⟩
  · rw [tracks.states]
    exact (get_opening_set ..).symm
  · rw [tracks.executed]
    rfl
  · exact tracks.lists.handled chosen.next rfl (.inl ⟨rfl, .inl rfl⟩) id

theorem Tracks.spoil (tracks : Tracks stands plan c m)
    (called : Moment.Called registry m node verdicts)
    (chosen : Chosen registry plan jobs c node node.id rest)
    (mirrors : Mirrors node c.session.world)
    (standing : stands (runInternal node c.session.world).2.2 m.tasks)
    (internal : ∀ commands, node.action ≠ .run commands) {events : List Event} {world : V}
    {failure : Failure}
    (failed : runInternal node c.session.world = (.error failure, events, world)) :
    Matched registry conduct stands plan c m (fail { c with
      rest
      session := { (c.opening node.id verdicts).noteAll events with
        world
        states := (c.opening node.id verdicts).states.set node.id .failed } } failure) := by
  have mounted := mirrors
  rw [Mirrors, failed, ← tracks.disk, Prod.mk.injEq] at mounted
  rw [failed] at standing
  generalize performed : runInternal node m.disk = ran at mounted
  obtain ⟨result, others, disk⟩ := ran
  dsimp only at mounted
  rw [← mounted.1] at performed
  have suffered : Moment.Next registry conduct m _ := .inr (.spoil called internal performed)
  refine matched_of_trouble (.single suffered) nofun ⟨⟨mounted.2.symm, ?_, rfl, tracks.executed⟩,
    standing, tracks.tasks, tracks.before, (tracks.distinct.set _ _).set _ _, ?_⟩
  · rw [tracks.states]
    exact (get_opening_set ..).symm
  · exact tracks.lists.handled chosen.next rfl (.inl ⟨rfl, .inr nofun⟩) nofun

theorem Tracks.launch (tracks : Tracks stands plan c m)
    (follows : crew.Follows conduct stands) (called : Moment.Called registry m node verdicts)
    (chosen : Chosen registry plan jobs c node node.id rest) {commands : List Command}
    {before : Option Nat} (external : node.action = .run commands)
    (timed : outputTime c.session.world node = .ok before) :
    Matched registry conduct stands plan c m { c with
      rest
      session := { c.opening node.id verdicts with world := crew.start node c.session.world }
      running := c.running ++ [node.id]
      before := Assoc.set node.id before c.before } := by
  have idle : m.tasks node.id = none := by
    rw [← Option.not_isSome_iff_eq_none, tracks.tasks]
    intro running
    have executing := tracks.lists.running node.id running
    rw [called.waiting] at executing
    cases executing
  rw [outputTime_mounted, ← tracks.disk] at timed
  have launched : Moment.Advances registry conduct m _ := .launch called external timed
  obtain ⟨tasks, works, standing⟩ := follows.start c.session.world m.tasks node tracks.stands idle
  rw [external, commandsOf, ← tracks.disk] at works
  have advances := (ReflTransGen.single launched).trans (Moment.works_advances works)
  refine matched_of_advances advances id ⟨⟨rfl, ?_, rfl, tracks.executed⟩, standing, ?_, ?_,
    tracks.distinct.set _ _, ?_⟩
  · rw [tracks.states]
    exact (NodeStates.get_set_eq_update ..).symm
  · exact isSome_iff_started tracks.tasks works
  · rw [tracks.before]
    exact (beforeOf_set ..).symm
  · exact tracks.lists.handled chosen.next rfl (.inr ⟨rfl, rfl⟩) id

theorem Tracks.join (tracks : Tracks stands plan c m) (follows : crew.Follows conduct stands)
    {joined : Joined V c.running} (ends : Ends jobs crew c id joined) :
    ∃ tasks,
      ReflTransGen (Moment.Advances registry conduct) m
        { m with disk := Mounted.disk joined.world, tasks } ∧
      stands joined.world (update tasks id none) ∧
      (∀ other, (update tasks id none other).isSome = true ↔
        other ∈ c.running.eraseIdx joined.index) ∧
      (joined.result = .succeeded → ∃ node, tasks id = some ⟨node, []⟩) := by
  obtain ⟨tasks, works, standing⟩ :=
    works_of_ends follows tracks.stands tracks.tasks tracks.lists.distinct ends
  rw [← tracks.disk] at works
  exact ⟨tasks, Moment.works_advances works, standing⟩

theorem Tracks.succeed (tracks : Tracks stands plan c m) (follows : crew.Follows conduct stands)
    {joined : Joined V c.running} (ends : Ends jobs crew c id joined)
    (result : joined.result = .succeeded) :
    Matched registry conduct stands plan c m { c.relieved joined with
      session := Session.reportExecuted { c.session with
        world := joined.world, states := c.session.states.set id .succeeded } id
      before := Assoc.erase id c.before } := by
  have executing : m.states id = .executing := by
    rw [tracks.states]
    exact ends.executing (by simp [result])
  obtain ⟨tasks, advances, standing, left, finished⟩ := tracks.join follows ends
  obtain ⟨node, assigned⟩ := finished result
  have succeeded : Moment.Advances registry conduct
      { m with disk := Mounted.disk joined.world, tasks } _ := .succeed assigned executing
  refine matched_of_advances (advances.tail succeeded) (fun calm => calm)
    ⟨⟨rfl, ?_, tracks.verdicts, ?_⟩, standing, left, ?_, tracks.distinct.set _ _, ?_⟩
  · rw [tracks.states]
    exact (NodeStates.get_set_eq_update ..).symm
  · rw [tracks.executed]
    rfl
  · rw [tracks.before]
    exact (beforeOf_erase ..).symm
  · refine tracks.lists.joined joined.index rfl rfl ?_ ?_
    · intro other apart
      rw [← ends.ended] at apart
      exact update_of_ne apart ..
    · intro calm
      have satisfied : (update m.states id NodeState.succeeded id).isSatisfied = true := by
        rw [update_self]
        rfl
      rw [← ends.ended]
      exact ⟨calm, satisfied⟩

theorem Tracks.crash (tracks : Tracks stands plan c m) (follows : crew.Follows conduct stands)
    {joined : Joined V c.running} (ends : Ends jobs crew c id joined) :
    Matched registry conduct stands plan c m (fail { c.relieved joined with
      session := (c.relieved joined).session.note .taskCrashed } .actionCrashed) := by
  have executing : m.states id = .executing :=
    tracks.lists.running id (ends.ended ▸ List.get_mem _ _)
  obtain ⟨tasks, advances, standing, left, _⟩ := tracks.join follows ends
  have crashed : Moment.Next registry conduct
      { m with disk := Mounted.disk joined.world, tasks } _ := .inr (.crash executing)
  refine matched_of_trouble ((Moment.next_of_advances advances).tail crashed) nofun
    ⟨⟨rfl, tracks.states, tracks.verdicts, tracks.executed⟩, standing, left, tracks.before,
      tracks.distinct, ?_⟩
  exact tracks.lists.joined joined.index rfl rfl (fun _ _ => rfl) nofun

theorem Tracks.failure (tracks : Tracks stands plan c m) (follows : crew.Follows conduct stands)
    (found : registry.find? node.id = some node) {joined : Joined V c.running}
    (ends : Ends jobs crew c node.id joined) {failure : Failure} {session : Session V}
    (cleaned : session = (if c.failure.isSome then
        (discard { c.session with
          world := joined.world, states := c.session.states.set node.id .failed } node
          (c.beforeOf node.id)).note (.failedToo node.id)
      else discard { c.session with
        world := joined.world, states := c.session.states.set node.id .failed } node
        (c.beforeOf node.id))) :
    Matched registry conduct stands plan c m
      (fail { c.relieved joined with session, before := Assoc.erase node.id c.before }
        failure) := by
  have executing : m.states node.id = .executing :=
    tracks.lists.running node.id (ends.ended ▸ List.get_mem _ _)
  obtain ⟨tasks, advances, standing, left, _⟩ := tracks.join follows ends
  have failed : Moment.Next registry conduct
      { m with disk := Mounted.disk joined.world, tasks } _ := .inr (.fail found executing)
  have world : session.world = (discardLeftover node (c.beforeOf node.id) joined.world).2 := by
    rw [cleaned]
    split <;> rfl
  have states : session.states = c.session.states.set node.id .failed := by
    rw [cleaned]
    split <;> rfl
  have verdicts : session.verdicts = c.session.verdicts := by
    rw [cleaned]
    split <;> rfl
  have report : session.report = c.session.report := by
    rw [cleaned]
    split <;> rfl
  refine matched_of_trouble ((Moment.next_of_advances advances).tail failed) nofun
    ⟨⟨?_, ?_, ?_, ?_⟩, ?_, left, ?_, ?_, ?_⟩
  · show _ = Mounted.disk session.world
    rw [world, discardLeftover_mounted, tracks.before]
  · show _ = session.states.get
    rw [states, tracks.states]
    exact (NodeStates.get_set_eq_update ..).symm
  · exact tracks.verdicts.trans verdicts.symm
  · show m.executed = session.report.executed
    rw [report, tracks.executed]
  · show stands session.world _
    rw [world]
    exact stands_discardLeftover follows node _ standing
  · rw [tracks.before]
    exact (beforeOf_erase ..).symm
  · show session.states.Distinct
    rw [states]
    exact tracks.distinct.set _ _
  · refine tracks.lists.joined joined.index rfl rfl ?_ nofun
    intro other apart
    rw [← ends.ended] at apart
    exact update_of_ne apart ..

end Turns

theorem failStranded_reaches (canonical : registry.Canonical) (sound : plan.Sound registry)
    {ids : List NodeId} (distinct : ids.Nodup) {session : Session V}
    (disk : m.disk = Mounted.disk session.world) (states : m.states = session.states.get)
    (stranded : ∀ id ∈ ids, id ∈ plan.order ∧ m.states id = .executing)
    (before : ∀ id ∈ ids, m.before id = c.beforeOf id) :
    ∃ after last, c.failStranded registry ids session = .ok after ∧
      ReflTransGen (Moment.Next registry conduct) m last ∧
      last.disk = Mounted.disk after.world ∧ last.states = after.states.get ∧
      ∀ other, last.states other = if other ∈ ids then .failed else m.states other := by
  -- Each node that is still executing fails at a step of its own, and touches none of the others.
  induction ids generalizing m session with
  | nil => exact ⟨session, m, rfl, .refl, disk, states, by simp⟩
  | cons id rest ih =>
      obtain ⟨planned, executing⟩ := stranded id (by simp)
      obtain ⟨node, found, named⟩ := sound.ordered.registered planned
      subst named
      have resolved := Registry.resolve_of_find? (canonical.found found) found
      have fresh := List.nodup_cons.mp distinct
      have apart {other : NodeId} (member : other ∈ rest) : other ≠ node.id := by
        rintro rfl
        exact fresh.1 member
      have allowed : (session.states.get node.id).canBecome .failed = true := by
        rw [← states, executing]
        rfl
      let next : Moment := {
        m with
        disk := (discardLeftover node (m.before node.id) m.disk).2
        tasks := update m.tasks node.id none
        states := update m.states node.id .failed
        before := update m.before node.id none }
      have failed : Moment.Next registry conduct m next := .inr (.fail found executing)
      have nextDisk : next.disk = Mounted.disk (discard
          { session with states := session.states.set node.id .failed } node
          (c.beforeOf node.id)).world := by
        show _ = Mounted.disk (discardLeftover node (c.beforeOf node.id) session.world).2
        rw [discardLeftover_mounted, ← disk, ← before node.id (by simp)]
      have nextStates : next.states = (discard
          { session with states := session.states.set node.id .failed } node
          (c.beforeOf node.id)).states.get := by
        show _ = (session.states.set node.id .failed).get
        rw [NodeStates.get_set_eq_update, ← states]
      have nextStranded : ∀ other ∈ rest,
          other ∈ plan.order ∧ next.states other = .executing := by
        intro other member
        show other ∈ plan.order ∧ update m.states node.id .failed other = .executing
        rw [update_of_ne (apart member)]
        exact stranded other (by simp [member])
      have nextBefore : ∀ other ∈ rest, next.before other = c.beforeOf other := by
        intro other member
        show update m.before node.id none other = c.beforeOf other
        rw [update_of_ne (apart member)]
        exact before other (by simp [member])
      obtain ⟨after, last, done, steps, sameDisk, sameStates, outcome⟩ :=
        ih fresh.2 nextDisk nextStates nextStranded nextBefore
      rw [failStranded, Session.move_eq _ allowed]
      dsimp only
      rw [resolved]
      refine ⟨after, last, done, .head failed steps, sameDisk, sameStates, ?_⟩
      intro other
      rw [outcome other]
      by_cases same : other = node.id
      · subst same
        simp [next]
      · simp [next, same]

theorem Tracks.finish (canonical : registry.Canonical) (sound : plan.Sound registry)
    (tracks : Tracks stands plan c m) (idle : c.running = []) {outcome : Outcome}
    {session : Session V} (finished : c.finish registry = .ended outcome session) :
    ∃ last, Reaches registry conduct plan.order m outcome session last ∧
      ∀ report, outcome = .completed report → c.failure = none := by
  unfold Coordinator.finish at finished
  -- With a failure the stranded nodes fail too. Without one nobody is executing, for nothing runs.
  cases failure : c.failure with
  | some known =>
      rw [failure] at finished
      dsimp only at finished
      have listed (id : NodeId) :
          id ∈ c.session.states.inState .executing ↔ m.states id = .executing := by
        rw [NodeStates.mem_inState tracks.distinct (by decide), tracks.states]
      have stranded : ∀ id ∈ c.session.states.inState .executing,
          id ∈ plan.order ∧ m.states id = .executing := by
        intro id member
        have executing := (listed id).mp member
        exact ⟨tracks.lists.planned id (by rw [executing]; nofun), executing⟩
      obtain ⟨after, last, done, steps, disk, states, failed⟩ :=
        failStranded_reaches canonical sound (NodeStates.nodup_inState tracks.distinct _)
          tracks.disk tracks.states stranded (fun id _ => congrFun tracks.before id)
      rw [done] at finished
      cases finished
      refine ⟨last, ⟨steps, disk, states, ?_, nofun⟩, nofun⟩
      intro _ id _
      rw [failed id]
      split_ifs with member
      · nofun
      · exact fun executing => member ((listed id).mpr executing)
  | none =>
      rw [failure] at finished
      have settled : ∀ id ∈ plan.order, id ∈ c.pending ∨ (m.states id).isSatisfied = true := by
        intro id planned
        have accounted := tracks.lists.accounted failure id planned
        rw [idle] at accounted
        simpa using accounted
      have tidy : ∀ id ∈ plan.order, m.states id ≠ .executing := by
        intro id planned executing
        rcases settled id planned with waits | satisfied
        · have waiting := (tracks.lists.pending id waits).2
          rw [executing] at waiting
          cases waiting
        · rw [executing] at satisfied
          cases satisfied
      dsimp only at finished
      split at finished
      · rename_i empty
        cases finished
        refine ⟨m, ⟨.refl, tracks.disk, tracks.states, fun _ => tidy, ?_⟩, fun _ _ => rfl⟩
        intro report completed
        cases completed
        refine ⟨.refl, tracks.executed.symm, ?_⟩
        intro id planned
        refine (settled id planned).resolve_left ?_
        rw [List.isEmpty_iff.mp empty]
        nofun
      · cases finished
        exact ⟨m, ⟨.refl, tracks.disk, tracks.states, fun _ => tidy, nofun⟩, nofun⟩

def Accounted (registry : Registry) (conduct : Conduct) (stands : V → Assignments → Prop)
    (plan : Plan) (c : Coordinator V) (m : Moment) : Progress V → Prop
  | .going next => Matched registry conduct stands plan c m next
  | .ended outcome session =>
      ∃ last, Reaches registry conduct plan.order m outcome session last ∧
        ∀ report, outcome = .completed report → c.failure = none

theorem Tracks.turn (orderly : registry.Orderly) (sound : plan.Sound registry)
    (follows : crew.Follows conduct stands) (tracks : Tracks stands plan c m)
    (answered : Moment.Answered registry m) {progress : Progress V}
    (turn : Turn registry plan jobs crew c progress) :
    Accounted registry conduct stands plan c m progress := by
  -- Whatever is chosen is ready in the moment as well, and the moment gives the same answer.
  have ask {node : Artifact} {id : NodeId} {rest : List NodeId} {ruling : Freshness.Ruling}
      (chosen : Chosen registry plan jobs c node id rest)
      (answer : Freshness.isDirty registry c.session.world c.session.verdicts id = ruling) :
      id = node.id ∧ Moment.Ready registry m node ∧
        Freshness.isDirty registry m.disk m.verdicts node.id = ruling ∧
        (∀ target, node.action ≠ .symlink target) ∧ ∀ failure, ruling.1 ≠ .error failure := by
    obtain ⟨rfl, ready⟩ := tracks.ready orderly.canonical sound chosen
    rw [tracks.toShows.isDirty orderly.globFree] at answer
    refine ⟨rfl, ready, answer, orderly.unlinked node (Registry.mem_of_find? ready.found), ?_⟩
    obtain ⟨dirty, verdicts, known⟩ := answered node ready
    simp [← answer, known]
  cases turn with
  | @passOver id rest calm next room waits =>
      have same : pending { c with passed := c.passed ++ [id], rest } = c.pending := by
        simp [Coordinator.pending, next]
      exact ⟨m, .refl, fun untroubled => ⟨untroubled, .refl⟩, ⟨tracks.toShows, tracks.stands,
        tracks.tasks, tracks.before, tracks.distinct, tracks.lists.congr same rfl fun calm => calm⟩⟩
  | skip chosen answer waiting =>
      obtain ⟨rfl, ready, clean, _, _⟩ := ask chosen answer
      exact tracks.skip ready chosen clean
  | puzzle chosen answer =>
      obtain ⟨_, _, _, _, impossible⟩ := ask chosen answer
      exact absurd rfl (impossible _)
  | breakDown chosen answer =>
      obtain ⟨_, _, _, _, impossible⟩ := ask chosen answer
      exact absurd rfl (impossible _)
  | launch opened external timed =>
      obtain ⟨rfl, ready, dirty, _, _⟩ := ask opened.toChosen opened.answer
      exact tracks.launch follows ⟨ready, dirty⟩ opened.toChosen external timed
  | @unprepared node id rest verdicts commands failure opened external untimed =>
      rw [outputTime_mounted] at untimed
      obtain ⟨before, timed⟩ := outputTime_disk (Mounted.disk c.session.world) node
      rw [untimed] at timed
      cases timed
  | perform opened internal done =>
      obtain ⟨rfl, ready, dirty, unlinked, _⟩ := ask opened.toChosen opened.answer
      exact tracks.perform ⟨ready, dirty⟩ opened.toChosen (runInternal_mounted unlinked _)
        (stands_runInternal follows unlinked tracks.stands) internal done
  | spoil opened internal failed =>
      obtain ⟨rfl, ready, dirty, unlinked, _⟩ := ask opened.toChosen opened.answer
      exact tracks.spoil ⟨ready, dirty⟩ opened.toChosen (runInternal_mounted unlinked _)
        (stands_runInternal follows unlinked tracks.stands) internal failed
  | succeed ends result => exact tracks.succeed follows ends result
  | @failure node id joined failure ends resolved result session cleaned =>
      have executing : m.states id = .executing :=
        tracks.lists.running id (ends.ended ▸ List.get_mem _ _)
      have planned : id ∈ plan.order := tracks.lists.planned id (by simp [executing])
      obtain ⟨known, found, named⟩ := sound.ordered.registered planned
      subst named
      rw [Registry.resolve_of_find? (orderly.canonical.found found) found] at resolved
      cases resolved
      exact tracks.failure follows found ends cleaned
  | crash ends => exact tracks.crash follows ends
  | finish idle waits =>
      generalize finished : c.finish registry = progress
      cases progress with
      | going next => exact absurd finished finish_ne_going
      | ended outcome session => exact tracks.finish orderly.canonical sound idle finished
  | stray astray =>
      have lists := tracks.lists
      rw [tracks.states] at lists
      exact absurd astray (lists.not_astray orderly.canonical sound)

theorem drive_reaches (orderly : registry.Orderly) (sound : plan.Sound registry)
    (follows : crew.Follows conduct stands) {Inv : Moment → Prop}
    (kept : ∀ m next, Inv m → Moment.Next registry conduct m next → Inv next)
    (answered : ∀ m, Inv m → Moment.Answered registry m) (tracks : Tracks stands plan c m)
    (inv : Inv m) :
    ∃ last, Reaches registry conduct plan.order m (c.drive registry plan jobs crew).1
        (c.drive registry plan jobs crew).2 last ∧
      ∀ report, (c.drive registry plan jobs crew).1 = .completed report → c.failure = none := by
  induction c using drive.induct registry plan jobs crew generalizing m with
  | case1 c next stepped ih =>
      have matched : Matched registry conduct stands plan c m next :=
        tracks.turn orderly sound follows (answered m inv) (turn_of_step stepped)
      obtain ⟨after, steps, calm, tracksNext⟩ := matched.stirred follows
      obtain ⟨last, reaches, untroubled⟩ := ih tracksNext (Moment.kept_of_next kept inv steps)
      rw [drive_of_going stepped]
      refine ⟨last, { reaches with steps := steps.trans reaches.steps, completed := ?_ }, ?_⟩
      · intro report completed
        obtain ⟨advances, listed⟩ := reaches.completed report completed
        exact ⟨(calm (untroubled report completed)).2.trans advances, listed⟩
      · exact fun report completed => (calm (untroubled report completed)).1
  | case2 c outcome session stepped =>
      rw [drive_of_ended stepped]
      exact tracks.turn orderly sound follows (answered m inv) (turn_of_step stepped)

def Untroubled : Progress V → Prop
  | .going next => next.failure = none
  | .ended outcome _ => ∃ report, outcome = .completed report

omit [Mounted V] in
theorem calm_of_turn {progress : Progress V} (turn : Turn registry plan jobs crew c progress)
    (untroubled : Untroubled progress) : c.failure = none := by
  cases turn with
  | passOver calm => exact calm
  | skip chosen => exact chosen.calm
  | puzzle chosen => exact chosen.calm
  | breakDown chosen => exact chosen.calm
  | launch opened => exact opened.calm
  | unprepared opened => exact opened.calm
  | perform opened => exact opened.calm
  | spoil opened => exact opened.calm
  | succeed => exact untroubled
  | failure => cases untroubled
  | crash => cases untroubled
  | finish =>
      cases failure : c.failure with
      | none => rfl
      | some known =>
          unfold Coordinator.finish at untroubled
          rw [failure] at untroubled
          dsimp only at untroubled
          split at untroubled <;> obtain ⟨report, impossible⟩ := untroubled <;> cases impossible
  | stray =>
      obtain ⟨report, impossible⟩ := untroubled
      cases impossible

omit [Mounted V] in
theorem calm_of_drive {report : Report}
    (completed : (c.drive registry plan jobs crew).1 = .completed report) : c.failure = none := by
  induction c using drive.induct registry plan jobs crew with
  | case1 c next stepped ih =>
      rw [drive_of_going stepped] at completed
      exact calm_of_turn (turn_of_step stepped) (ih completed)
  | case2 c outcome session stepped =>
      rw [drive_of_ended stepped] at completed
      exact calm_of_turn (turn_of_step stepped) ⟨report, completed⟩

section Linking

variable [Linking V]

theorem Tracks.calm (canonical : registry.Canonical) (globFree : registry.GlobFree)
    (sound : plan.Sound registry) (upholds : crew.Upholds conduct stands)
    (tracks : Tracks stands plan c m) {progress : Progress V}
    (turn : Turn registry plan jobs crew c progress) (untroubled : Untroubled progress) :
    Accounted registry conduct stands plan c m progress := by
  have ask {node : Artifact} {id : NodeId} {rest : List NodeId} {ruling : Freshness.Ruling}
      (chosen : Chosen registry plan jobs c node id rest)
      (answer : Freshness.isDirty registry c.session.world c.session.verdicts id = ruling) :
      id = node.id ∧ Moment.Ready registry m node ∧
        Freshness.isDirty registry m.disk m.verdicts node.id = ruling := by
    obtain ⟨rfl, ready⟩ := tracks.ready canonical sound chosen
    rw [tracks.toShows.isDirty globFree] at answer
    exact ⟨rfl, ready, answer⟩
  cases turn with
  | @passOver id rest calm next room waits =>
      have same : pending { c with passed := c.passed ++ [id], rest } = c.pending := by
        simp [Coordinator.pending, next]
      exact matched_of_advances .refl (fun calm => calm) ⟨tracks.toShows, tracks.stands,
        tracks.tasks, tracks.before, tracks.distinct, tracks.lists.congr same rfl fun calm => calm⟩
  | skip chosen answer =>
      obtain ⟨rfl, ready, clean⟩ := ask chosen answer
      exact tracks.skip ready chosen clean
  | launch opened external timed =>
      obtain ⟨rfl, ready, dirty⟩ := ask opened.toChosen opened.answer
      exact tracks.launch upholds.toFollows ⟨ready, dirty⟩ opened.toChosen external timed
  | @perform node _ _ _ _ _ opened internal done =>
      obtain ⟨rfl, ready, dirty⟩ := ask opened.toChosen opened.answer
      exact tracks.perform ⟨ready, dirty⟩ opened.toChosen (runInternal_linking node _)
        (stands_runInternal_linking upholds node tracks.stands) internal done
  | succeed ends result => exact tracks.succeed upholds.toFollows ends result
  | finish idle waits =>
      generalize finished : c.finish registry = progress
      cases progress with
      | going next => exact absurd finished finish_ne_going
      | ended outcome session => exact tracks.finish canonical sound idle finished
  | puzzle | spoil | failure | crash => cases untroubled
  | breakDown | unprepared | stray =>
      obtain ⟨report, impossible⟩ := untroubled
      cases impossible

/-- A parallel run that is completed goes through moments, whatever the oracle was asked. -/
theorem drive_completes (canonical : registry.Canonical) (globFree : registry.GlobFree)
    (sound : plan.Sound registry) (upholds : crew.Upholds conduct stands)
    (tracks : Tracks stands plan c m) {report : Report}
    (completed : (c.drive registry plan jobs crew).1 = .completed report) :
    ∃ last, Reaches registry conduct plan.order m (c.drive registry plan jobs crew).1
      (c.drive registry plan jobs crew).2 last := by
  induction c using drive.induct registry plan jobs crew generalizing m with
  | case1 c next stepped ih =>
      rw [drive_of_going stepped] at completed ⊢
      have calm := calm_of_drive completed
      have matched : Matched registry conduct stands plan c m next :=
        tracks.calm canonical globFree sound upholds (turn_of_step stepped) calm
      obtain ⟨after, _, calmly, tracksNext⟩ := matched.stirred upholds.toFollows
      obtain ⟨last, reaches⟩ := ih tracksNext completed
      exact ⟨last, reaches.after (calmly calm).2⟩
  | case2 c outcome session stepped =>
      rw [drive_of_ended stepped] at completed ⊢
      obtain ⟨last, reaches, _⟩ :=
        tracks.calm canonical globFree sound upholds (turn_of_step stepped) ⟨report, completed⟩
      exact ⟨last, reaches⟩

end Linking

theorem tracks_start (sound : plan.Sound registry) {world : V}
    (standing : stands world .none) :
    Tracks stands plan (Coordinator.start plan world) (.start plan (Mounted.disk world)) := by
  exact ⟨⟨rfl, rfl, rfl, rfl⟩, standing, by simp [Moment.start, Assignments.none,
    Coordinator.start], rfl, sound.distinct, .start sound world⟩

end Run.Coordinator

end ArtifactPipeline

namespace ArtifactPipeline.Run

open Function Relation

section Running

variable {W V : Type} [Disk W] [Mounted W] [Disk V] [Mounted V]

/-- A run that is not dry goes through moments, with any number of tasks at a time, as long as the
oracle has answers. -/
theorem run_reaches {registry : Registry} (orderly : registry.Orderly) {conduct : Conduct}
    {staff : Staff W V} (follows : staff.Follows conduct) {settings : RunSettings}
    (wet : settings.dryRun = false) {targets : List NodeId} {plan : Plan}
    (made : Plan.make registry targets = .ok plan) (world : W) {Inv : Moment → Prop}
    (kept : ∀ m next, Inv m → Moment.Next registry conduct m next → Inv next)
    (answered : ∀ m, Inv m → Moment.Answered registry m)
    (inv : Inv (.start plan (Mounted.disk world))) :
    ∃ last, Reaches registry conduct plan.order (.start plan (Mounted.disk world))
      (run staff registry settings targets world).outcome
      (run staff registry settings targets world).session last := by
  have sound := Plan.make_sound orderly.canonical made
  have carried : ∃ last, Reaches registry conduct plan.order (.start plan (Mounted.disk world))
      (carryOut staff registry settings plan world).outcome
      (carryOut staff registry settings plan world).session last := by
    unfold carryOut
    rw [wet]
    simp only [Bool.false_eq_true, if_false]
    -- One job is the sequential run; several are the coordinator with his crew.
    split
    · exact inSequence_reaches orderly.canonical orderly.globFree
        (fun node member => runInternal_mounted (orderly.unlinked node member)) sound.ordered
        follows.executor rfl (paused_start sound world)
    · obtain ⟨stands, crew, standing⟩ := follows.crew
      have tracks := Coordinator.tracks_start sound (standing world)
      rw [follows.gather] at tracks
      obtain ⟨last, reaches, _⟩ :=
        Coordinator.drive_reaches orderly sound crew kept answered tracks inv
      refine ⟨last, reaches.steps, ?_, reaches.states, reaches.tidy, reaches.completed⟩
      rw [reaches.disk]
      exact (follows.dismiss _).symm
  obtain ⟨last, reaches⟩ := carried
  unfold run
  rw [made]
  exact ⟨last, reaches.steps, reaches.disk, reaches.states, reaches.tidy, reaches.completed⟩

end Running

end ArtifactPipeline.Run
