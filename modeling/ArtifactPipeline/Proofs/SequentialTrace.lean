import ArtifactPipeline.Proofs.MissingPrerequisites
import ArtifactPipeline.Proofs.Progress

set_option autoImplicit false

/-!
What a run in sequence does from its first node to its last: which commands it calls, what it
reports, and in which state it leaves the nodes when it stops early.
-/

namespace ArtifactPipeline

open Function

/-- A world with a note of the calls that were made in it, and of the replies. -/
structure Notebook (W : Type) where
  world : W
  calls : List (Invocation × Reply)

namespace Notebook

variable {W : Type} [Disk W]

instance : Disk (Notebook W) where
  present notebook := Disk.present notebook.world
  isFile notebook := Disk.isFile notebook.world
  isDir notebook := Disk.isDir notebook.world
  isLink notebook := Disk.isLink notebook.world
  modified notebook := Disk.modified notebook.world
  removeFile notebook path :=
    let (result, world) := Disk.removeFile notebook.world path
    (result, { notebook with world })
  createDirs notebook path :=
    let (result, world) := Disk.createDirs notebook.world path
    (result, { notebook with world })
  symlink notebook target link :=
    let (result, world) := Disk.symlink notebook.world target link
    (result, { notebook with world })
  readDir notebook := Disk.readDir notebook.world
  extent notebook := Disk.extent notebook.world

instance [Mounted W] : Mounted (Notebook W) where
  disk notebook := Mounted.disk notebook.world
  modified_eq notebook := Mounted.modified_eq notebook.world
  isDir_eq notebook := Mounted.isDir_eq notebook.world
  isLink_eq notebook := Mounted.isLink_eq notebook.world
  removeFile_eq notebook := Mounted.removeFile_eq notebook.world
  disk_removeFile notebook := Mounted.disk_removeFile notebook.world
  createDirs_eq notebook := Mounted.createDirs_eq notebook.world
  disk_createDirs notebook := Mounted.disk_createDirs notebook.world

instance [Mounted W] [Listing W] : Listing (Notebook W) where
  isFile_eq notebook := Listing.isFile_eq notebook.world
  readDir_eq notebook := Listing.readDir_eq notebook.world
  extent_eq notebook := Listing.extent_eq notebook.world

end Notebook

def Executor.noted {W : Type} (executor : Executor W) : Executor (Notebook W) where
  execute invocation notebook :=
    let (reply, world) := executor.execute invocation notebook.world
    (reply, ⟨world, notebook.calls ++ [(invocation, reply)]⟩)

theorem Executor.noted_execute {W : Type} {executor : Executor W} {invocation : Invocation}
    {notebook : Notebook W} {reply : Reply} {world : W}
    (replied : executor.execute invocation notebook.world = (reply, world)) :
    executor.noted.execute invocation notebook =
      (reply, ⟨world, notebook.calls ++ [(invocation, reply)]⟩) := by
  simp only [noted, replied]

def Session.forget {W : Type} (session : Session (Notebook W)) : Session W :=
  { session with world := session.world.world }

def Artifact.invocations (node : Artifact) : List Invocation :=
  (Run.commandsOf node.action).map fun command => ⟨node.id, node.kind, command⟩

def Registry.invocations (registry : Registry) (id : NodeId) : List Invocation :=
  match registry.find? id with
  | some node => node.invocations
  | none => []

theorem Registry.invocations_of_find? {registry : Registry} {id : NodeId} {node : Artifact}
    (found : registry.find? id = some node) : registry.invocations id = node.invocations := by
  rw [invocations, found]

def Report.add (report : Report) (id : NodeId) (dirty : Bool) : Report :=
  if dirty then { report with executed := report.executed ++ [id] }
  else { report with skipped := report.skipped ++ [id] }

theorem Artifact.invocations_internal {node : Artifact}
    (internal : ∀ commands, node.action ≠ .run commands) : node.invocations = [] := by
  unfold invocations Run.commandsOf
  split
  · rename_i commands external
    exact absurd external (internal commands)
  · rfl

namespace Run

section Noted

variable {W : Type} [Disk W] (executor : Executor W) (node : Artifact)

omit [Disk W] in
theorem runCommands_noted (commands : List Command) (notebook : Notebook W) :
    runCommands executor node commands notebook.world =
      ((runCommands executor.noted node commands notebook).1,
        (runCommands executor.noted node commands notebook).2.1,
        (runCommands executor.noted node commands notebook).2.2.world) := by
  induction commands generalizing notebook with
  | nil => rfl
  | cons command rest ih =>
      rcases replied : executor.execute ⟨node.id, node.kind, command⟩ notebook.world with
        ⟨reply, world⟩
      rw [runCommands, runCommands, Executor.noted_execute replied, replied]
      cases reply with
      | success =>
          have later := ih ⟨world, notebook.calls ++ [(⟨node.id, node.kind, command⟩, .success)]⟩
          dsimp only at later ⊢
          rw [later]
      | exited | refused | crashed => rfl

theorem runInternal_noted (notebook : Notebook W) :
    runInternal node notebook =
      ((runInternal node notebook.world).1, (runInternal node notebook.world).2.1,
        { notebook with world := (runInternal node notebook.world).2.2 }) := by
  unfold runInternal
  cases node.action with
  | none | run => rfl
  | createDir =>
      simp only [Disk.createDirs]
      generalize Disk.createDirs notebook.world node.path = made
      obtain ⟨result, world⟩ := made
      cases result <;> rfl
  | symlink target =>
      simp only [Disk.present, Disk.symlink]
      generalize Disk.symlink notebook.world target node.path = made
      obtain ⟨result, world⟩ := made
      split_ifs
      · rfl
      · cases result <;> rfl

theorem discardLeftover_noted (before : Option Nat) (notebook : Notebook W) :
    discardLeftover node before notebook =
      ((discardLeftover node before notebook.world).1,
        { notebook with world := (discardLeftover node before notebook.world).2 }) := by
  have removed : removeLeftover node notebook =
      ((removeLeftover node notebook.world).1,
        { notebook with world := (removeLeftover node notebook.world).2 }) := by
    simp only [removeLeftover, Disk.removeFile]
    generalize Disk.removeFile notebook.world node.path = made
    obtain ⟨result, world⟩ := made
    cases result <;> rfl
  simp only [discardLeftover, removed, Disk.modified, Disk.isLink]
  cases node.kind with
  | directory | phony => rfl
  | file =>
      dsimp only
      generalize Disk.modified notebook.world node.path = dated
      rcases dated with fault | _ | mtime
      · rfl
      · dsimp only
        split_ifs <;> rfl
      · dsimp only
        split_ifs <;> rfl

theorem discard_calls (before : Option Nat) (session : Session (Notebook W)) :
    (discard session node before).world.calls = session.world.calls := by
  rw [discard, discardLeftover_noted]

theorem act_noted (session : Session (Notebook W)) :
    act executor node session.forget =
      ((act executor.noted node session).1, (act executor.noted node session).2.forget) := by
  by_cases internal : ∀ commands, node.action ≠ .run commands
  · rw [act_internal internal, act_internal internal, runInternal_noted]
    rfl
  · obtain ⟨commands, action⟩ : ∃ commands, node.action = .run commands := by simpa using internal
    have dated : outputTime session.world node = outputTime session.world.world node := rfl
    have ran := runCommands_noted executor node commands session.world
    simp only [act, action, runTask, commandsOf, Session.forget, dated, ran]
    cases outputTime session.world.world node with
    | error failure => rfl
    | ok before =>
        generalize runCommands executor.noted node commands session.world = ran
        obtain ⟨result, events, notebook⟩ := ran
        cases result with
        | succeeded | crashed => rfl
        | failed failure =>
            simp only [discard, discardLeftover_noted node before notebook]
            rfl

theorem forget_ask (registry : Registry) [Mounted W] [Listing W] (session : Session (Notebook W))
    (id : NodeId) :
    session.forget.ask registry id =
      ((session.ask registry id).1, (session.ask registry id).2.forget) := by
  have asked : Freshness.isDirty registry session.world.world session.verdicts id =
      Freshness.isDirty registry session.world session.verdicts id := by
    rw [Freshness.isDirty_listing, Freshness.isDirty_listing registry session.world]
    rfl
  simp only [Session.ask_eq, Session.forget, asked]

omit [Disk W] in
theorem forget_move (session : Session (Notebook W)) (id : NodeId) (state : NodeState) :
    session.forget.move id state = (session.move id state).map Session.forget := by
  simp only [Session.move, Session.forget]
  cases session.states.transition id state <;> rfl

theorem inSequence_noted (registry : Registry) [Mounted W] [Listing W] (ids : List NodeId)
    (session : Session (Notebook W)) :
    inSequence registry executor ids session.forget =
      ((inSequence registry executor.noted ids session).1,
        (inSequence registry executor.noted ids session).2.forget) := by
  -- Whatever the loop looks at is the same without the notes.
  induction ids generalizing session with
  | nil => rfl
  | cons id rest ih =>
      rw [inSequence, inSequence, forget_ask]
      cases registry.resolve id with
      | error failure => rfl
      | ok node =>
          rcases session.ask registry id with ⟨failure | _ | _, session⟩
          case error =>
              dsimp only
              split_ifs <;> rfl
          case ok.false =>
              dsimp only
              rw [forget_move]
              cases session.move id .skipped with
              | error failure => rfl
              | ok next => exact ih (next.reportSkipped id)
          case ok.true =>
              dsimp only
              rw [forget_move]
              cases session.move id .executing with
              | error failure => rfl
              | ok next =>
                  dsimp only [Except.map]
                  rw [act_noted]
                  rcases act executor.noted node next with ⟨deed, session⟩
                  cases deed with
                  | unprepared | crashed => rfl
                  | failed failure =>
                      dsimp only
                      rw [forget_move]
                      cases session.move id .failed <;> rfl
                  | succeeded =>
                      dsimp only
                      rw [forget_move]
                      cases session.move id .succeeded with
                      | error failure => rfl
                      | ok next => exact ih (next.reportExecuted id)

end Noted

/-- The calls that are made of those that were planned: one after the other, up to the first that
does not go well. -/
inductive Cut : List Invocation → List (Invocation × Reply) → Prop where
  | done : Cut [] []
  | onward {invocation : Invocation} {planned : List Invocation}
      {calls : List (Invocation × Reply)} (later : Cut planned calls) :
      Cut (invocation :: planned) ((invocation, .success) :: calls)
  | stop {invocation : Invocation} {planned : List Invocation} {reply : Reply}
      (bad : reply ≠ .success) : Cut (invocation :: planned) [(invocation, reply)]

def Smooth (calls : List (Invocation × Reply)) : Prop :=
  ∀ call ∈ calls, call.2 = .success

theorem smooth_map (planned : List Invocation) :
    Smooth (planned.map fun invocation => (invocation, .success)) := by
  simp [Smooth]

namespace Cut

variable {planned : List Invocation} {calls : List (Invocation × Reply)}

theorem after (cut : Cut planned calls) (front : List Invocation) :
    Cut (front ++ planned) (front.map (fun invocation => (invocation, .success)) ++ calls) := by
  induction front with
  | nil => exact cut
  | cons invocation front ih => exact .onward ih

theorem all (planned : List Invocation) :
    Cut planned (planned.map fun invocation => (invocation, .success)) := by
  simpa using Cut.done.after planned

theorem mem (cut : Cut planned calls) {call : Invocation × Reply} (member : call ∈ calls) :
    call.1 ∈ planned := by
  induction cut with
  | done => cases member
  | onward later ih =>
      rcases List.mem_cons.mp member with rfl | member
      · exact List.mem_cons_self
      · exact List.mem_cons_of_mem _ (ih member)
  | stop bad => simp [List.mem_singleton.mp member]

theorem smooth_front {front : List (Invocation × Reply)} {last : Invocation × Reply}
    (cut : Cut planned (front ++ [last])) : Smooth front := by
  induction front generalizing planned with
  | nil => simp [Smooth]
  | cons call front ih =>
      generalize shape : call :: front ++ [last] = calls at cut
      cases cut with
      | done => cases shape
      | onward later =>
          obtain ⟨rfl, rfl⟩ := List.cons.inj shape
          simpa [Smooth] using ih later
      | stop bad => simp at shape

end Cut

inductive Spoils : Invocation × Reply → Failure → Prop where
  | exited {invocation : Invocation} {status : Int} :
      Spoils (invocation, .exited status) (.actionFailed invocation.node status)
  | refused {invocation : Invocation} {failure : Failure} :
      Spoils (invocation, .refused failure) failure

section Calls

variable {W : Type} [Disk W] {executor : Executor W}

omit [Disk W] in
theorem runCommands_calls
    (steady : ∀ invocation world, (executor.execute invocation world).1 ≠ .crashed)
    (node : Artifact) (commands : List Command) (notebook : Notebook W) :
    let ran := runCommands executor.noted node commands notebook
    let planned : List Invocation := commands.map fun command => ⟨node.id, node.kind, command⟩
    (ran.1 = .succeeded ∧
      ran.2.2.calls = notebook.calls ++ planned.map fun invocation => (invocation, .success)) ∨
    ∃ failure front call, ran.1 = .failed failure ∧ Spoils call failure ∧
      Cut planned (front ++ [call]) ∧ ran.2.2.calls = notebook.calls ++ (front ++ [call]) := by
  dsimp only
  -- On the commands: the notes grow by one call each, up to the one that spoils the rest.
  induction commands generalizing notebook with
  | nil => simp [runCommands]
  | cons command rest ih =>
      let invocation : Invocation := ⟨node.id, node.kind, command⟩
      rcases replied : executor.execute invocation notebook.world with ⟨reply, world⟩
      have noCrash := steady invocation notebook.world
      rw [replied] at noCrash
      rw [runCommands, Executor.noted_execute replied, List.map_cons]
      cases reply with
      | success =>
          dsimp only
          rcases ih ⟨world, notebook.calls ++ [(invocation, .success)]⟩ with
            ⟨succeeded, calls⟩ | ⟨failure, front, call, failed, spoils, cut, calls⟩
          · exact .inl ⟨succeeded, by simpa using calls⟩
          · exact .inr ⟨failure, (invocation, .success) :: front, call, failed, spoils,
              .onward cut, by simpa using calls⟩
      | exited status =>
          exact .inr ⟨_, [], (invocation, .exited status), rfl, .exited, .stop (by simp), rfl⟩
      | refused failure =>
          exact .inr ⟨_, [], (invocation, .refused failure), rfl, .refused, .stop (by simp), rfl⟩
      | crashed => exact absurd rfl noCrash

/-- Why the action of a node failed, with these calls made up to then: it needs no commands and
could not be carried out, or the last call went wrong. -/
inductive Mishap (node : Artifact) (world : W) (calls : List (Invocation × Reply)) :
    Failure → Prop where
  | internal {failure : Failure} (internal : ∀ commands, node.action ≠ .run commands)
      (failed : (runInternal node world).1 = .error failure) (smooth : Smooth calls) :
      Mishap node world calls failure
  | call {front : List (Invocation × Reply)} {call : Invocation × Reply} {failure : Failure}
      (last : calls = front ++ [call]) (own : call.1.node = node.id)
      (spoils : Spoils call failure) : Mishap node world calls failure

inductive Performed (node : Artifact) (session : Session (Notebook W)) :
    Deed × Session (Notebook W) → Prop where
  | succeeded {after : Session (Notebook W)}
      (calls : after.world.calls = session.world.calls ++
        node.invocations.map fun invocation => (invocation, .success)) :
      Performed node session (.succeeded, after)
  | failed {after : Session (Notebook W)} {failure : Failure} {calls : List (Invocation × Reply)}
      (made : after.world.calls = session.world.calls ++ calls) (cut : Cut node.invocations calls)
      (mishap : Mishap node session.world.world after.world.calls failure) :
      Performed node session (.failed failure, after)

theorem performed [Mounted W]
    (steady : ∀ invocation world, (executor.execute invocation world).1 ≠ .crashed)
    (node : Artifact) {session : Session (Notebook W)} (smooth : Smooth session.world.calls) :
    Performed node session (act executor.noted node session) := by
  by_cases internal : ∀ commands, node.action ≠ .run commands
  · have silent := node.invocations_internal internal
    rw [act_internal internal, runInternal_noted]
    cases result : (runInternal node session.world.world).1 with
    | ok => exact .succeeded (by simp [silent])
    | error failure =>
        exact .failed (List.append_nil _).symm (silent ▸ .done) (.internal internal result smooth)
  · obtain ⟨commands, action⟩ : ∃ commands, node.action = .run commands := by simpa using internal
    obtain ⟨before, timed⟩ := outputTime_disk (Mounted.disk session.world) node
    rw [← outputTime_mounted] at timed
    have planned : node.invocations =
        commands.map fun command => ⟨node.id, node.kind, command⟩ := by
      rw [Artifact.invocations, action, commandsOf]
    -- Looking up the time of the output and putting the output away after a failure are no calls.
    have ran := runCommands_calls steady node commands session.world
    simp only [act, action, timed, runTask, commandsOf]
    dsimp only at ran
    rw [← planned] at ran
    generalize runCommands executor.noted node commands session.world = made at ran ⊢
    obtain ⟨result, events, notebook⟩ := made
    rcases ran with ⟨succeeded, calls⟩ | ⟨failure, front, call, failed, spoils, cut, calls⟩
    · cases succeeded
      exact .succeeded calls
    · cases failed
      have own : call.1.node = node.id := by
        have member := cut.mem (List.mem_append_right front (List.mem_singleton_self call))
        rw [planned, List.mem_map] at member
        obtain ⟨command, -, called⟩ := member
        rw [← called]
      dsimp only at calls ⊢
      rw [← discard_calls node before { session.noteAll (.building node.id :: events) with
        world := notebook }] at calls
      exact .failed calls cut (.call (calls.trans (List.append_assoc ..).symm) own spoils)

end Calls

section Handled

variable {W : Type} [Disk W] [Mounted W] {registry : Registry} {executor : Executor W}
  {node : Artifact} {session : Session (Notebook W)}

inductive Handled (registry : Registry) (executor : Executor W) (node : Artifact)
    (session : Session (Notebook W)) : Prop where
  | passed (dirty : Bool) (next : Session (Notebook W))
      (answer : Freshness.isDirty registry session.world session.verdicts node.id =
        (.ok dirty, next.verdicts))
      (states : next.states.get =
        update session.states.get node.id (if dirty then .succeeded else .skipped))
      (report : next.report = session.report.add node.id dirty)
      (calls : next.world.calls = session.world.calls ++
        (if dirty then node.invocations else []).map fun invocation => (invocation, .success))
      (onward : ∀ rest, inSequence registry executor.noted (node.id :: rest) session =
        inSequence registry executor.noted rest next)
  | unanswered (failure : Failure) (last : Session (Notebook W))
      (answer : Freshness.isDirty registry session.world session.verdicts node.id =
        (.error failure, last.verdicts))
      (states : last.states = session.states) (calls : last.world.calls = session.world.calls)
      (ends : ∀ rest, inSequence registry executor.noted (node.id :: rest) session =
        (.failed failure, last))
  | failed (failure : Failure) (last : Session (Notebook W)) (calls : List (Invocation × Reply))
      (answer : Freshness.isDirty registry session.world session.verdicts node.id =
        (.ok true, last.verdicts))
      (states : last.states.get = update session.states.get node.id .failed)
      (made : last.world.calls = session.world.calls ++ calls) (cut : Cut node.invocations calls)
      (mishap : Mishap node session.world.world last.world.calls failure)
      (ends : ∀ rest, inSequence registry executor.noted (node.id :: rest) session =
        (.failed failure, last))

theorem handled
    (steady : ∀ invocation world, (executor.execute invocation world).1 ≠ .crashed)
    (resolved : registry.resolve node.id = .ok node)
    (waiting : session.states.get node.id = .evaluating) (smooth : Smooth session.world.calls) :
    Handled registry executor node session := by
  have done {other : Artifact} {deed : Deed} {after : Session (Notebook W)}
      (attempt : Attempt registry executor.noted node.id session other deed after) :
      Performed node (acting session node.id after.verdicts) (deed, after) := by
    cases resolved.symm.trans attempt.resolved
    exact attempt.acted ▸ performed steady node smooth
  rcases inSequence_proceeds registry executor.noted node.id session with
    ⟨next, continues, onward⟩ | ⟨outcome, last, halts, ends⟩
  · cases continues with
    | skipped _ _ answer =>
        refine .passed false _ answer ?_ ?_ ?_ onward
        · exact NodeStates.get_set_eq_update ..
        · rfl
        · exact (List.append_nil _).symm
    | executed attempt =>
        cases done attempt with
        | succeeded calls =>
            refine .passed true _ ?_ ?_ ?_ ?_ onward
            · exact attempt.answer
            · exact attempt.closed .succeeded
            · rw [Session.reportExecuted, attempt.report]
              rfl
            · exact calls
  · cases halts with
    | unknown unresolved => cases resolved.symm.trans unresolved
    | astray _ astray => exact absurd waiting astray
    | unanswered _ answer =>
        refine .unanswered _ _ ?answer ?states ?calls ends
        case answer | states | calls => split_ifs <;> first | rfl | exact answer
    | unprepared attempt | crashed attempt => cases done attempt
    | failed attempt =>
        cases done attempt with
        | failed made cut mishap =>
            refine .failed _ _ _ ?_ ?_ ?_ cut ?_ ends
            · exact attempt.answer
            · exact attempt.closed .failed
            · exact made
            · exact mishap

end Handled

section Trace

variable {W : Type} [Disk W]

/-- The run comes to a node, with those before it behind it. -/
def Comes (registry : Registry) (executor : Executor W) (plan : Plan) (world : W) (id : NodeId)
    (session : Session W) : Prop :=
  ∃ done rest report, plan.order = done ++ id :: rest ∧
    inSequence registry executor done (.start world plan.states) = (.completed report, session)

def Hears (registry : Registry) (executor : Executor W) (plan : Plan) (world : W) (id : NodeId)
    (answer : Except Failure Bool) : Prop :=
  ∃ session, Comes registry executor plan world id session ∧ (session.ask registry id).1 = answer

inductive Stops (registry : Registry) (executor : Executor W) (plan : Plan) (world : W)
    (id : NodeId) (calls : List (Invocation × Reply)) : Failure → NodeState → Prop where
  | unanswered {failure : Failure}
      (heard : Hears registry executor plan world id (.error failure)) (smooth : Smooth calls) :
      Stops registry executor plan world id calls failure .evaluating
  | failed {node : Artifact} {session : Session W} {failure : Failure}
      (found : registry.find? id = some node)
      (comes : Comes registry executor plan world id session)
      (dirty : (session.ask registry id).1 = .ok true)
      (mishap : Mishap node session.world calls failure) :
      Stops registry executor plan world id calls failure .failed

inductive Ends (registry : Registry) (executor : Executor W) (plan : Plan) (world : W)
    (dirty : List NodeId) (last : Session (Notebook W)) : Outcome → Prop where
  | completed (states : ∀ id ∈ plan.order,
        last.states.get id = if id ∈ dirty then .succeeded else .skipped)
      (smooth : Smooth last.world.calls) :
      Ends registry executor plan world dirty last
        (.completed ⟨dirty, plan.order.filter (· ∉ dirty)⟩)
  | stopped {done rest : List NodeId} {id : NodeId} {failure : Failure} {state : NodeState}
      (split : plan.order = done ++ id :: rest)
      (stops : Stops registry executor plan world id last.world.calls failure state)
      (failing : last.states.get id = state)
      (earlier : ∀ other ∈ done,
        last.states.get other = if other ∈ dirty then .succeeded else .skipped)
      (later : ∀ other ∈ rest, last.states.get other = .evaluating)
      (unasked : ∀ other ∈ rest, last.verdicts.get? other = none ∧
        ∀ session, ¬Comes registry executor plan world other session) :
      Ends registry executor plan world dirty last (.failed failure)

/-- What a run in sequence does that finds these nodes dirty. -/
structure Trace (registry : Registry) (executor : Executor W) (plan : Plan) (world : W)
    (dirty : List NodeId) (result : Outcome × Session (Notebook W)) : Prop where
  inOrder : dirty.Sublist plan.order
  found : ∀ id, id ∈ dirty ↔ Hears registry executor plan world id (.ok true)
  calls : Cut (dirty.flatMap registry.invocations) result.2.world.calls
  ends : Ends registry executor plan world dirty result.2 result.1

variable {registry : Registry} {executor : Executor W} {plan : Plan} {world : W}
  {done rest dirty : List NodeId} {id : NodeId} {session : Session (Notebook W)}

structure Traced (registry : Registry) (executor : Executor W) (plan : Plan) (world : W)
    (done rest dirty : List NodeId) (session : Session (Notebook W)) : Prop where
  turns : Turns done rest session
  split : plan.order = done ++ rest
  reached : ∀ more, inSequence registry executor.noted (done ++ more)
    (.start ⟨world, []⟩ plan.states) = inSequence registry executor.noted more session
  inOrder : dirty.Sublist done
  found : ∀ id ∈ done, (id ∈ dirty ↔ Hears registry executor plan world id (.ok true))
  states : ∀ id ∈ done,
    session.states.get id = if id ∈ dirty then .succeeded else .skipped
  report : session.report = ⟨dirty, done.filter (· ∉ dirty)⟩
  calls : session.world.calls =
    (dirty.flatMap registry.invocations).map fun invocation => (invocation, .success)

theorem traced_start (sound : plan.Sound registry) (world : W) :
    Traced registry executor plan world [] plan.order [] (.start ⟨world, []⟩ plan.states) where
  turns := turns_start sound _
  split := rfl
  reached _ := rfl
  inOrder := .refl _
  found := nofun
  states := nofun
  report := rfl
  calls := rfl

theorem Comes.planned {arrived : Session W}
    (comes : Comes registry executor plan world id arrived) : id ∈ plan.order := by
  obtain ⟨done, rest, report, split, -⟩ := comes
  simp [split]

theorem apart_of_split (sound : plan.Sound registry) (split : plan.order = done ++ id :: rest) :
    id ∉ done ∧ id ∉ rest := by
  have distinct := sound.nodup
  rw [split, List.nodup_middle, List.nodup_cons, List.mem_append, not_or] at distinct
  exact distinct.1

theorem comes_split (sound : plan.Sound registry) (split : plan.order = done ++ id :: rest)
    {arrived : Session W} (comes : Comes registry executor plan world id arrived) :
    ∃ report, inSequence registry executor done (.start world plan.states) =
      (.completed report, arrived) := by
  obtain ⟨front, back, report, shape, arrives⟩ := comes
  obtain ⟨before, behind⟩ := apart_of_split sound split
  rw [split] at shape
  obtain ⟨rfl, -, -⟩ := (List.append_cons_inj_of_notMem before behind).mp shape
  exact ⟨report, arrives⟩

def mark (dirty : List NodeId) (id : NodeId) (now : Bool) : List NodeId :=
  if now then dirty ++ [id] else dirty

theorem mem_mark {other : NodeId} {now : Bool} :
    other ∈ mark dirty id now ↔ other ∈ dirty ∨ other = id ∧ now = true := by
  cases now <;> simp [mark]

namespace Traced

theorem mem_mark_of_done
    (traced : Traced registry executor plan world done (id :: rest) dirty session)
    (sound : plan.Sound registry) (now : Bool) {other : NodeId} (member : other ∈ done) :
    other ∈ mark dirty id now ↔ other ∈ dirty := by
  have distinct : other ≠ id := fun same => (apart_of_split sound traced.split).1 (same ▸ member)
  simp [mem_mark, distinct]

theorem mem_mark_self
    (traced : Traced registry executor plan world done (id :: rest) dirty session)
    (sound : plan.Sound registry) (now : Bool) : id ∈ mark dirty id now ↔ now = true := by
  have fresh : id ∉ dirty := fun member =>
    (apart_of_split sound traced.split).1 (traced.inOrder.subset member)
  simp [mem_mark, fresh]

theorem found_mark (traced : Traced registry executor plan world done (id :: rest) dirty session)
    (sound : plan.Sound registry) {now : Bool}
    (heard : Hears registry executor plan world id (.ok true) ↔ now = true) :
    ∀ other ∈ done ++ [id],
      (other ∈ mark dirty id now ↔ Hears registry executor plan world other (.ok true)) := by
  intro other member
  rcases List.mem_append.mp member with member | member
  · rw [traced.mem_mark_of_done sound now member, traced.found other member]
  · rw [List.mem_singleton.mp member, traced.mem_mark_self sound, heard]

theorem states_mark (traced : Traced registry executor plan world done (id :: rest) dirty session)
    (sound : plan.Sound registry) (now : Bool) {states : NodeId → NodeState} {state : NodeState}
    (moved : states = update session.states.get id state) :
    ∀ other ∈ done,
      states other = if other ∈ mark dirty id now then .succeeded else .skipped := by
  intro other member
  have distinct : other ≠ id := fun same => (apart_of_split sound traced.split).1 (same ▸ member)
  rw [moved, update_of_ne distinct, traced.states other member]
  simp only [traced.mem_mark_of_done sound now member]

theorem complete (traced : Traced registry executor plan world done [] dirty session) :
    Trace registry executor plan world dirty
      (inSequence registry executor.noted [] session) := by
  have order : plan.order = done := by rw [traced.split, List.append_nil]
  constructor
  case inOrder => exact order ▸ traced.inOrder
  case found =>
    intro id
    by_cases member : id ∈ done
    · exact traced.found id member
    · refine iff_of_false (fun inDirty => member (traced.inOrder.subset inDirty)) ?_
      rintro ⟨arrived, comes, -⟩
      exact member (order ▸ comes.planned)
  case calls =>
    exact traced.calls ▸ .all _
  case ends =>
    have report : session.report = ⟨dirty, plan.order.filter (· ∉ dirty)⟩ := by
      rw [traced.report, order]
    rw [inSequence, report]
    exact .completed (order ▸ traced.states) (traced.calls ▸ smooth_map _)

end Traced

theorem Trace.exited {result : Outcome × Session (Notebook W)}
    (trace : Trace registry executor plan world dirty result) {invocation : Invocation}
    {status : Int} (called : (invocation, .exited status) ∈ result.2.world.calls) :
    result.1 = .failed (.actionFailed invocation.node status) := by
  have cut := trace.calls
  obtain ⟨outcome, last⟩ := result
  dsimp only at called cut ⊢
  have bad (smooth : Smooth last.world.calls) : False := by
    have fine := smooth _ called
    cases fine
  -- An exit is no success, and all calls but the one that ended the run are successes.
  cases trace.ends with
  | completed _ smooth => exact (bad smooth).elim
  | stopped _ stops =>
      cases stops with
      | unanswered _ smooth => exact (bad smooth).elim
      | failed _ _ _ mishap =>
          cases mishap with
          | internal _ _ smooth => exact (bad smooth).elim
          | @call front call _ shape own spoils =>
              rw [shape] at called cut
              rcases List.mem_append.mp called with before | same
              · have fine := cut.smooth_front _ before
                cases fine
              · cases List.mem_singleton.mp same
                cases spoils
                rfl

theorem Trace.lapsed {result : Outcome × Session (Notebook W)}
    (trace : Trace registry executor plan world dirty result) {failure : Failure}
    (failed : result.1 = .failed failure) (lapse : failure.isLapse = true) :
    ∃ invocation, (invocation, .refused failure) ∈ result.2.world.calls := by
  obtain ⟨outcome, last⟩ := result
  have ends := trace.ends
  dsimp only at failed ends ⊢
  subst failed
  -- Neither the oracle nor an action without commands can lapse, so that a command was refused.
  cases ends with
  | stopped _ stops =>
      cases stops with
      | unanswered heard =>
          obtain ⟨arrived, -, answer⟩ := heard
          have sane := Freshness.sane_isDirty arrived.verdicts _ failure answer
          rw [lapse] at sane
          cases sane
      | failed _ _ _ mishap =>
          cases mishap with
          | internal internal broken =>
              rw [sane_runInternal internal _ failure broken] at lapse
              cases lapse
          | call shape own spoils =>
              cases spoils with
              | exited => cases lapse
              | @refused invocation => exact ⟨invocation, by simp [shape]⟩

section Listing

variable [Mounted W] [Listing W]

namespace Traced

theorem reached_plain (traced : Traced registry executor plan world done rest dirty session)
    (more : List NodeId) :
    inSequence registry executor (done ++ more) (.start world plan.states) =
      ((inSequence registry executor.noted more session).1,
        (inSequence registry executor.noted more session).2.forget) := by
  rw [← traced.reached]
  exact inSequence_noted executor registry (done ++ more) (.start ⟨world, []⟩ plan.states)

theorem comes_iff (traced : Traced registry executor plan world done (id :: rest) dirty session)
    (sound : plan.Sound registry) {arrived : Session W} :
    Comes registry executor plan world id arrived ↔
      arrived = (session.note (.finished false)).forget := by
  have before := traced.reached_plain []
  rw [List.append_nil] at before
  constructor
  · intro comes
    obtain ⟨report, arrives⟩ := comes_split sound traced.split comes
    rw [before] at arrives
    exact (Prod.mk.inj arrives).2.symm
  · rintro rfl
    exact ⟨done, rest, session.report, traced.split, before⟩

theorem hears_iff (traced : Traced registry executor plan world done (id :: rest) dirty session)
    (sound : plan.Sound registry) {answer : Except Failure Bool} :
    Hears registry executor plan world id answer ↔
      (Freshness.isDirty registry session.world session.verdicts id).1 = answer := by
  simp only [Hears, traced.comes_iff sound, exists_eq_left, forget_ask]
  rfl

theorem not_comes (traced : Traced registry executor plan world done (id :: rest) dirty session)
    (sound : plan.Sound registry) {failure : Failure} {last : Session (Notebook W)}
    (ends : ∀ more, inSequence registry executor.noted (id :: more) session =
      (.failed failure, last)) :
    ∀ other ∈ rest, ∀ arrived, ¬Comes registry executor plan world other arrived := by
  intro other member arrived comes
  obtain ⟨front, back, rfl⟩ := List.append_of_mem member
  have split : plan.order = (done ++ id :: front) ++ other :: back := by simp [traced.split]
  obtain ⟨report, arrives⟩ := comes_split sound split comes
  rw [traced.reached_plain, ends] at arrives
  cases arrives

theorem pass (traced : Traced registry executor plan world done (id :: rest) dirty session)
    (canonical : registry.Canonical) (sound : plan.Sound registry) {node : Artifact}
    (named : node.id = id) (found : registry.find? node.id = some node) {now : Bool}
    {next : Session (Notebook W)}
    (answer : Freshness.isDirty registry session.world session.verdicts node.id =
      (.ok now, next.verdicts))
    (states : next.states.get =
      update session.states.get node.id (if now then .succeeded else .skipped))
    (report : next.report = session.report.add node.id now)
    (calls : next.world.calls = session.world.calls ++
      (if now then node.invocations else []).map fun invocation => (invocation, .success))
    (onward : ∀ rest, inSequence registry executor.noted (node.id :: rest) session =
      inSequence registry executor.noted rest next) :
    Traced registry executor plan world (done ++ [id]) rest (mark dirty id now) next := by
  subst named
  have heard : Hears registry executor plan world node.id (.ok true) ↔ now = true := by
    rw [traced.hears_iff sound, answer, Except.ok.injEq]
  constructor
  case turns =>
    refine traced.turns.pass canonical sound traced.split ⟨⟨now, answer⟩, _, ?_, states⟩
    cases now <;> rfl
  case split => rw [traced.split, List.append_assoc, List.singleton_append]
  case reached =>
    intro more
    rw [List.append_assoc, List.singleton_append, traced.reached, onward]
  case inOrder =>
    cases now with
    | true => exact traced.inOrder.append_right _
    | false => exact traced.inOrder.trans (List.sublist_append_left ..)
  case found => exact traced.found_mark sound heard
  case states =>
    intro other member
    rcases List.mem_append.mp member with member | member
    · exact traced.states_mark sound now states other member
    · rw [List.mem_singleton.mp member, states, update_self]
      simp only [traced.mem_mark_self sound]
  case report =>
    have others : done.filter (· ∉ mark dirty node.id now) = done.filter (· ∉ dirty) :=
      List.filter_congr fun other member => by simp only [traced.mem_mark_of_done sound now member]
    have last : [node.id].filter (· ∉ mark dirty node.id now) = if now then [] else [node.id] := by
      cases now <;> simp [traced.mem_mark_self sound]
    rw [report, traced.report, List.filter_append, others, last]
    cases now <;> simp [Report.add, mark]
  case calls =>
    rw [calls, traced.calls, ← List.map_append]
    cases now <;> simp [mark, Registry.invocations_of_find? found]

theorem stop (traced : Traced registry executor plan world done (id :: rest) dirty session)
    (sound : plan.Sound registry) {now : Bool} {failure : Failure} {state : NodeState}
    {last : Session (Notebook W)}
    (heard : Hears registry executor plan world id (.ok true) ↔ now = true)
    (states : last.states.get = update session.states.get id state)
    (undecided : Heard last.states.get last.verdicts)
    (calls : Cut ((mark dirty id now).flatMap registry.invocations) last.world.calls)
    (stops : Stops registry executor plan world id last.world.calls failure state)
    (ends : ∀ more, inSequence registry executor.noted (id :: more) session =
      (.failed failure, last)) :
    Trace registry executor plan world (mark dirty id now)
      (inSequence registry executor.noted (id :: rest) session) := by
  have beyond := traced.not_comes sound ends
  have waiting : ∀ other ∈ rest, last.states.get other = .evaluating := by
    intro other member
    have apart : other ≠ id := fun same =>
      (apart_of_split sound traced.split).2 (same ▸ member)
    rw [states, update_of_ne apart]
    exact traced.turns.waiting other (List.mem_cons_of_mem _ member)
  rw [ends]
  constructor
  case inOrder =>
    rw [traced.split]
    cases now with
    | true => exact traced.inOrder.append (List.singleton_sublist.mpr List.mem_cons_self)
    | false => exact traced.inOrder.trans (List.sublist_append_left ..)
  case found =>
    intro other
    by_cases member : other ∈ done ++ [id]
    · exact traced.found_mark sound heard other member
    -- Neither behind the run nor where it stops: the run never comes there.
    · rw [List.mem_append, List.mem_singleton, not_or] at member
      refine iff_of_false ?_ ?_
      · rw [mem_mark]
        rintro (inDirty | ⟨same, -⟩)
        · exact member.1 (traced.inOrder.subset inDirty)
        · exact member.2 same
      · rintro ⟨arrived, comes, -⟩
        have planned := comes.planned
        rw [traced.split, List.mem_append, List.mem_cons] at planned
        rcases planned with behind | same | ahead
        · exact member.1 behind
        · exact member.2 same
        · exact beyond other ahead arrived comes
  case calls => exact calls
  case ends =>
    refine .stopped traced.split stops ?_ (traced.states_mark sound now states) waiting ?_
    · rw [states, update_self]
    · intro other member
      exact ⟨undecided.waiting other (waiting other member), beyond other member⟩

theorem trace (traced : Traced registry executor plan world done rest dirty session)
    (canonical : registry.Canonical) (sound : plan.Sound registry)
    (steady : ∀ invocation world, (executor.execute invocation world).1 ≠ .crashed) :
    ∃ dirty, Trace registry executor plan world dirty
      (inSequence registry executor.noted rest session) := by
  -- The nodes that are left are handled one by one; what is traced of those before them carries on.
  induction rest generalizing done dirty session with
  | nil => exact ⟨dirty, traced.complete⟩
  | cons id rest ih =>
      obtain ⟨node, rfl, due⟩ := traced.turns.due sound traced.split
      have resolved := Registry.resolve_of_find? (canonical.found due.found) due.found
      have comes := (traced.comes_iff sound).mpr rfl
      rcases handled steady resolved due.waiting (traced.calls ▸ smooth_map _) with
        ⟨now, next, answer, states, report, calls, onward⟩ |
        ⟨failure, last, answer, states, calls, ends⟩ |
        ⟨failure, last, calls, answer, states, made, cut, mishap, ends⟩
      case passed =>
          rw [onward]
          exact ih (traced.pass canonical sound rfl due.found answer states report calls onward)
      case unanswered =>
          have unanswered : Hears registry executor plan world node.id (.error failure) := by
            rw [traced.hears_iff sound, answer]
          have heard : Hears registry executor plan world node.id (.ok true) ↔ false = true := by
            simp [traced.hears_iff sound, answer]
          have smooth : Smooth last.world.calls := calls ▸ traced.calls ▸ smooth_map _
          have still : last.states.get = update session.states.get node.id .evaluating := by
            rw [states, update_eq_self_iff.mpr due.waiting.symm]
          have undecided : Heard last.states.get last.verdicts :=
            states ▸ traced.turns.heard.unanswered canonical due answer
          refine ⟨_, traced.stop sound heard still undecided ?_
            (.unanswered unanswered smooth) ends⟩
          rw [calls, traced.calls]
          exact .all _
      case failed =>
          have heard : Hears registry executor plan world node.id (.ok true) ↔ true = true := by
            simp [traced.hears_iff sound, answer]
          have dirty : ((session.note (.finished false)).forget.ask registry node.id).1 =
              .ok true := by
            rw [forget_ask]
            exact congrArg Prod.fst answer
          have undecided : Heard last.states.get last.verdicts :=
            states ▸ traced.turns.heard.answered canonical due answer .failed rfl
          refine ⟨_, traced.stop sound heard states undecided ?_
            (.failed due.found comes dirty mishap) ends⟩
          rw [made, traced.calls, mark, if_pos rfl, List.flatMap_append, List.flatMap_singleton,
            Registry.invocations_of_find? due.found]
          exact cut.after _

end Traced

/-- What a run in sequence does, from its first node to its last. -/
theorem inSequence_trace (canonical : registry.Canonical) {targets : List NodeId}
    (planned : Plan.make registry targets = .ok plan)
    (steady : ∀ invocation world, (executor.execute invocation world).1 ≠ .crashed) (world : W) :
    let noted := inSequence registry executor.noted plan.order (.start ⟨world, []⟩ plan.states)
    inSequence registry executor plan.order (.start world plan.states) =
      (noted.1, noted.2.forget) ∧
    (∃ dirty, Trace registry executor plan world dirty noted) ∧
    (∀ invocation status, (invocation, .exited status) ∈ noted.2.world.calls →
      noted.1 = .failed (.actionFailed invocation.node status)) ∧
    ∀ id current next, noted.1 = .failed (.illegalTransition id current next) →
      ∃ invocation, (invocation, .refused (.illegalTransition id current next)) ∈
        noted.2.world.calls := by
  have sound := Plan.make_sound canonical planned
  obtain ⟨dirty, trace⟩ := (traced_start sound world).trace canonical sound steady
  refine ⟨inSequence_noted executor registry plan.order (.start ⟨world, []⟩ plan.states),
    ⟨dirty, trace⟩, fun _ _ called => trace.exited called, fun _ _ _ failed => ?_⟩
  exact trace.lapsed failed rfl

section Bench

def bench : Registry where
  nodes := [
    .file "lib" (.run [⟨"fetch", [], ⟨[]⟩, none, none⟩]),
    (Artifact.file "tool" (.run [
      ⟨"build", [], ⟨[]⟩, none, none⟩, ⟨"strip", [], ⟨[]⟩, none, none⟩])).dependsOn "lib",
    (Artifact.file "report" (.run [⟨"measure", [], ⟨[]⟩, none, none⟩,
      ⟨"refuse", [], ⟨[]⟩, none, none⟩, ⟨"print", [], ⟨[]⟩, none, none⟩])).dependsOn "tool",
    (Artifact.phony "all" .none).dependsOn "report"]

def joiner : Executor VirtualDisk where
  execute invocation disk :=
    if invocation.command.program = "refuse" then (.exited 3, disk)
    else (.success, disk.write ⟨invocation.node⟩ [])

theorem joiner_steady (invocation : Invocation) (disk : VirtualDisk) :
    (joiner.execute invocation disk).1 ≠ .crashed := by
  dsimp only [joiner]
  split_ifs <;> simp

theorem inSequence_trace_bench :
    let stocked := VirtualDisk.new.write ⟨"lib"⟩ []
    ∃ plan : Plan, bench.Canonical ∧ Plan.make bench ["all"] = .ok plan ∧
      (∀ invocation disk, (joiner.execute invocation disk).1 ≠ .crashed) ∧
      plan.order = ["lib", "tool", "report", "all"] ∧
      let noted := inSequence bench joiner.noted plan.order (.start ⟨stocked, []⟩ plan.states)
      (∃ dirty, Trace bench joiner plan stocked dirty noted) ∧
      noted.1 = .failed (.actionFailed "report" 3) ∧
      noted.2.world.calls.map (fun call => (call.1.command.program, call.2)) =
        [("build", .success), ("strip", .success), ("measure", .success), ("refuse", .exited 3)] ∧
      plan.order.map noted.2.states.get = [.skipped, .succeeded, .failed, .evaluating] := by
  intro stocked
  have canonical : bench.Canonical := ⟨by decide, by decide⟩
  have planned : Plan.make bench ["all"] = .ok _ := rfl
  obtain ⟨-, trace, -, -⟩ := inSequence_trace canonical planned joiner_steady stocked
  exact ⟨_, canonical, planned, joiner_steady, rfl, trace, by decide +kernel, by decide +kernel,
    by decide +kernel⟩

end Bench

end Listing

end Trace

end Run

end ArtifactPipeline
