import ArtifactPipeline.Run.Action

set_option autoImplicit false

namespace ArtifactPipeline

structure Joined (W : Type) (running : List NodeId) where
  index : Fin running.length
  result : TaskResult
  world : W

def oldestTask (running : List NodeId) (busy : running ≠ []) : Fin running.length :=
  ⟨0, List.length_pos_iff.2 busy⟩

/-- Carries out tasks side by side. They may change the world in any way, between any two steps of
the coordinator and while it waits, and end in any order. -/
structure Crew (W : Type) where
  start : Artifact → W → W
  meanwhile : W → W
  join : (running : List NodeId) → running ≠ [] → W → Joined W running

namespace Run

/-- A parallel run up to some moment. Nodes that have not been handled are either passed over since
the last change or still to be looked at. -/
structure Coordinator (W : Type) where
  session : Session W
  passed : List NodeId
  rest : List NodeId
  running : List NodeId
  before : List (NodeId × Option Nat)
  failure : Option Failure

inductive Progress (W : Type) where
  | going (coordinator : Coordinator W)
  | ended (outcome : Outcome) (session : Session W)

namespace Coordinator

variable {W : Type}

def start (plan : Plan) (world : W) : Coordinator W where
  session := .start world plan.states
  passed := []
  rest := plan.order
  running := []
  before := []
  failure := none

def pending (c : Coordinator W) : List NodeId :=
  c.passed ++ c.rest

def rewind (c : Coordinator W) : Coordinator W :=
  { c with passed := [], rest := c.passed ++ c.rest }

def fail (c : Coordinator W) (failure : Failure) : Coordinator W :=
  { c with failure := some (c.failure.getD failure) }

def beforeOf (c : Coordinator W) (id : NodeId) : Option Nat :=
  (c.before.lookup id).getD none

def stirred (crew : Crew W) (c : Coordinator W) : Coordinator W :=
  { c with session := { c.session with world := crew.meanwhile c.session.world } }

variable [Disk W]

def failStranded (registry : Registry) (c : Coordinator W) :
    List NodeId → Session W → Except Failure (Session W)
  | [], session => .ok session
  | id :: rest, session =>
      match session.move id .failed with
      | .error failure => .error failure
      | .ok session =>
          match registry.resolve id with
          | .error failure => .error failure
          | .ok node => failStranded registry c rest (discard session node (c.beforeOf id))

def finish (registry : Registry) (c : Coordinator W) : Progress W :=
  match c.failure with
  | some failure =>
      match c.failStranded registry (c.session.states.inState .executing) c.session with
      | .ok session => .ended (.failed failure) session.abort
      | .error failure => .ended (.failed failure) c.session
  | none =>
      if c.pending.isEmpty then
        .ended (.completed c.session.report) (c.session.note (.finished true))
      else .ended (.failed (.stalled c.pending.length)) c.session

def settle (registry : Registry) (c : Coordinator W) (id : NodeId) : TaskResult → Progress W
  | .succeeded =>
      match c.session.move id .succeeded with
      | .error failure => .ended (.failed failure) c.session
      | .ok session =>
          .going { c with session := session.reportExecuted id, before := Assoc.erase id c.before }
  | .failed failure =>
      match c.session.move id .failed with
      | .error failure => .ended (.failed failure) c.session
      | .ok session =>
          match registry.resolve id with
          | .error failure => .ended (.failed failure) session
          | .ok node =>
              let session := discard session node (c.beforeOf id)
              let session := if c.failure.isSome then session.note (.failedToo id) else session
              .going ({ c with session, before := Assoc.erase id c.before }.fail failure)
  | .crashed => .going ({ c with session := c.session.note .taskCrashed }.fail .actionCrashed)

def join (registry : Registry) (crew : Crew W) (c : Coordinator W) : Progress W :=
  if h : c.running = [] then c.finish registry
  else
    let joined := crew.join c.running h c.session.world
    let c' := {
      c with
      session := { c.session with world := joined.world }
      running := c.running.eraseIdx joined.index
    }
    settle registry c'.rewind (c.running.get joined.index) joined.result

def launch (crew : Crew W) (c : Coordinator W) (node : Artifact) (id : NodeId) : Progress W :=
  match c.session.move id .executing with
  | .error failure => .ended (.failed failure) c.session
  | .ok session =>
      match node.action with
      | .run _ =>
          match outputTime session.world node with
          | .error failure => .ended (.failed failure) session
          | .ok before =>
              .going { c with
                session := { session with world := crew.start node session.world }
                running := c.running ++ [id]
                before := Assoc.set id before c.before }
      | _ =>
          let (result, events, world) := runInternal node session.world
          let session := { session.noteAll events with world }
          match result with
          | .ok () =>
              match session.move id .succeeded with
              | .error failure => .ended (.failed failure) session
              | .ok session => .going { c with session := session.reportExecuted id }.rewind
          | .error failure =>
              match session.move id .failed with
              | .error failure => .ended (.failed failure) session
              | .ok session => .going ({ c with session }.fail failure)

def handle (registry : Registry) (crew : Crew W) (c : Coordinator W) (id : NodeId) : Progress W :=
  match registry.resolve id with
  | .error failure => .ended (.failed failure) c.session
  | .ok node =>
      match c.session.ask registry id with
      | (.error failure, session) =>
          if failure.isBreakdown then .ended (.failed failure) session
          else .going ({ c with session }.fail failure)
      | (.ok false, session) =>
          match session.move id .skipped with
          | .error failure => .ended (.failed failure) session
          | .ok session => .going { c with session := session.reportSkipped id }.rewind
      | (.ok true, session) => launch crew { c with session } node id

def step (registry : Registry) (plan : Plan) (jobs : Nat) (crew : Crew W) (c : Coordinator W) :
    Progress W :=
  match c.failure, c.rest with
  | none, id :: rest =>
      if c.running.length < jobs then
        if plan.readyIn c.session.states id then handle registry crew { c with rest } id
        else .going { c with passed := c.passed ++ [id], rest }
      else join registry crew c
  | _, _ => join registry crew c

/-- A pending node counts twice, a task under way once. -/
def weight (c : Coordinator W) : Nat :=
  2 * (c.passed.length + c.rest.length) + c.running.length

omit [Disk W] in
theorem weight_rewind (c : Coordinator W) : c.rewind.weight = c.weight := by
  simp [weight, rewind]

omit [Disk W] in
theorem weight_fail (c : Coordinator W) (failure : Failure) :
    (c.fail failure).weight = c.weight := rfl

omit [Disk W] in
theorem weight_stirred (crew : Crew W) (c : Coordinator W) :
    (c.stirred crew).weight = c.weight := rfl

theorem weight_settle {registry : Registry} {c next : Coordinator W} {id : NodeId}
    {result : TaskResult} (h : c.settle registry id result = .going next) :
    next.weight = c.weight := by
  cases result with
  | succeeded =>
      simp only [settle] at h
      split at h
      · simp at h
      · cases h; rfl
  | failed failure =>
      simp only [settle] at h
      split at h
      · simp at h
      · split at h
        · simp at h
        · cases h; rfl
  | crashed => cases h; rfl

theorem finish_ne_going {registry : Registry} {c next : Coordinator W} :
    c.finish registry ≠ .going next := by
  unfold finish
  split
  · split <;> simp
  · split <;> simp

theorem weight_join {registry : Registry} {crew : Crew W} {c next : Coordinator W}
    (h : c.join registry crew = .going next) : next.weight < c.weight := by
  unfold join at h
  split at h
  · exact absurd h finish_ne_going
  · rename_i busy
    rw [weight_settle h, weight_rewind]
    have positive : 0 < c.running.length := List.length_pos_iff.2 busy
    have shorter := (crew.join c.running busy c.session.world).index.isLt
    simp only [weight, List.length_eraseIdx, if_pos shorter]
    omega

theorem weight_launch {crew : Crew W} {c next : Coordinator W} {node : Artifact} {id : NodeId}
    (h : c.launch crew node id = .going next) : next.weight ≤ c.weight + 1 := by
  unfold launch at h
  split at h
  · simp at h
  · split at h
    · split at h
      · simp at h
      · cases h
        simp only [weight, List.length_append, List.length_singleton]
        omega
    · dsimp only at h
      split at h
      · split at h
        · simp at h
        · cases h
          rw [weight_rewind]
          simp [weight]
      · split at h
        · simp at h
        · cases h
          rw [weight_fail]
          simp [weight]

theorem weight_handle {registry : Registry} {crew : Crew W} {c next : Coordinator W}
    {id : NodeId} (h : c.handle registry crew id = .going next) :
    next.weight ≤ c.weight + 1 := by
  unfold handle at h
  split at h
  · simp at h
  · split at h
    · split at h
      · simp at h
      · cases h
        rw [weight_fail]
        simp [weight]
    · split at h
      · simp at h
      · cases h
        rw [weight_rewind]
        simp [weight]
    · simpa [weight] using weight_launch h

theorem step_decreases {registry : Registry} {plan : Plan} {jobs : Nat} {crew : Crew W}
    {c next : Coordinator W} (h : c.step registry plan jobs crew = .going next) :
    Prod.Lex (· < ·) (· < ·) (next.weight, next.rest.length) (c.weight, c.rest.length) := by
  unfold step at h
  split at h
  · rename_i id rest _ more
    split at h
    · split at h
      · have bound := weight_handle h
        apply Prod.Lex.left
        simp only [weight, more, List.length_cons] at bound ⊢
        omega
      · cases h
        have same : ({ c with passed := c.passed ++ [id], rest := rest } : Coordinator W).weight =
            c.weight := by
          simp only [weight, more, List.length_append, List.length_cons, List.length_nil]
          omega
        rw [same]
        apply Prod.Lex.right
        simp [more]
    · exact Prod.Lex.left _ _ (weight_join h)
  · exact Prod.Lex.left _ _ (weight_join h)

def drive (registry : Registry) (plan : Plan) (jobs : Nat) (crew : Crew W) (c : Coordinator W) :
    Outcome × Session W :=
  match _stepped : c.step registry plan jobs crew with
  | .going next => drive registry plan jobs crew (next.stirred crew)
  | .ended outcome session => (outcome, session)
termination_by (c.weight, c.rest.length)
decreasing_by
  rw [weight_stirred]
  exact step_decreases _stepped

end Coordinator

def inParallel {W : Type} [Disk W] (registry : Registry) (crew : Crew W) (jobs : Nat) (plan : Plan)
    (world : W) : Outcome × Session W :=
  (Coordinator.start plan world).drive registry plan jobs crew

end Run

end ArtifactPipeline
