import ArtifactPipeline.Proofs.AbortSafety
import ArtifactPipeline.Proofs.Progress

set_option autoImplicit false

namespace ArtifactPipeline

open Function Relation VirtualDisk

namespace Registry

/-- Rules whose files can be told apart on disk: ids and prerequisites are plain, and no file is a
directory above another node. -/
structure Spaced (registry : Registry) : Prop where
  ids : ∀ node ∈ registry.nodes, NodeId.Plain node.id
  prerequisites : ∀ node ∈ registry.nodes, ∀ dep ∈ node.nodePrerequisites, NodeId.Plain dep
  apart : ∀ node ∈ registry.nodes, node.kind = .file → ∀ other ∈ registry.nodes,
    ¬(NodeId.location node.id).Above (NodeId.location other.id)

variable {registry : Registry}

theorem Spaced.canonical (spaced : registry.Spaced) : registry.Canonical where
  ids node member := (spaced.ids node member).spelled
  prerequisites node member dep needed := (spaced.prerequisites node member dep needed).spelled

theorem Spaced.aside (spaced : registry.Spaced) {node other : Artifact}
    (found : registry.find? node.id = some node) (kind : node.kind = .file)
    (otherFound : registry.find? other.id = some other) (apart : node.id ≠ other.id) :
    ¬node.location.Holds other.location := by
  have member := mem_of_find? found
  have otherMember := mem_of_find? otherFound
  intro holds
  refine spaced.apart node member kind other otherMember ⟨holds, fun same => apart ?_⟩
  exact (spaced.ids node member).location_inj (spaced.ids other otherMember) same

end Registry

structure Artifact.Alters (node : Artifact) (before after : VirtualDisk) : Prop where
  aside : ∀ loc : Location, ¬loc.Holds node.location → after.get? loc = before.get? loc
  clock : before.clock ≤ after.clock
  timed : before.Timed → after.Timed

namespace Artifact

variable (node : Artifact)

theorem alters_refl (disk : VirtualDisk) : node.Alters disk disk :=
  ⟨fun _ _ => rfl, Nat.le_refl _, fun timed => timed⟩

theorem alters_write (disk : VirtualDisk) (content : List UInt8) :
    node.Alters disk (disk.write node.path content) where
  aside _ aside := get?_write aside disk content
  clock := (grows_write disk node.path content).clock
  timed timed := timed_write timed node.path content

theorem alters_remove (disk : VirtualDisk) : node.Alters disk (disk.remove node.path) where
  aside _ aside := get?_remove aside disk
  clock := Nat.le_of_eq (clock_remove disk node.path).symm
  timed timed := timed_remove timed node.path

theorem alters_createDirs (disk : VirtualDisk) :
    node.Alters disk (disk.createDirs node.path).2 where
  aside _ aside := get?_createDirs aside disk
  clock := by
    rcases createDirs_cases disk node.path with ⟨_, kept⟩ | ⟨_, _, made, grows, _⟩
    · rw [kept]
    · rw [made]
      exact grows.clock
  timed timed := timed_createDirs timed node.path

theorem alters_symlink (disk : VirtualDisk) (target : Path) :
    node.Alters disk (disk.symlink target node.path).2 where
  aside _ aside := get?_symlink aside disk target
  clock := by
    unfold symlink
    dsimp only
    split
    · exact Nat.le_refl _
    · exact (grows_insertEntry disk _ _).clock
  timed timed := timed_symlink timed target node.path

theorem alters_runInternal (disk : VirtualDisk) :
    node.Alters disk (Run.runInternal node disk).2.2 := by
  unfold Run.runInternal
  cases node.action with
  | none => exact node.alters_refl disk
  | run commands => exact node.alters_refl disk
  | createDir =>
      have alters := node.alters_createDirs disk
      have made : Disk.createDirs disk node.path = disk.createDirs node.path := rfl
      dsimp only
      rw [made]
      generalize disk.createDirs node.path = result at alters ⊢
      obtain ⟨answer, after⟩ := result
      cases answer <;> exact alters
  | symlink target =>
      have alters := node.alters_symlink disk target
      have made : Disk.symlink disk target node.path = disk.symlink target node.path := rfl
      dsimp only
      rw [made]
      split
      · exact node.alters_refl disk
      · generalize disk.symlink target node.path = result at alters ⊢
        obtain ⟨answer, after⟩ := result
        cases answer <;> exact alters

theorem alters_discardLeftover (before : Option Nat) (disk : VirtualDisk) :
    node.Alters disk (Run.discardLeftover node before disk).2 := by
  rcases Run.discardLeftover_cases node before disk with kept | ⟨_, removed⟩
  · rw [kept]
    exact node.alters_refl disk
  · rw [removed]
    exact node.alters_remove disk

end Artifact

namespace Run

/-- What has become of a file of a node in this state since the run found it on the disk `origin`.
`before` is what was noted as its modification time when the action started. -/
inductive Aftermath (origin : VirtualDisk) (loc : Location) (state : NodeState)
    (before : Option Nat) (disk : VirtualDisk) : Prop where
  | untouched (same : disk.get? loc = origin.get? loc)
  | rewritten {content : List UInt8} {mtime : Nat} (executing : state = .executing)
      (written : disk.get? loc = some (.file content mtime)) (newer : before ≠ some mtime)
  | made (succeeded : state = .succeeded)
  | removed (failed : state = .failed) (gone : disk.get? loc = none)

theorem Aftermath.discard {origin disk : VirtualDisk} {node : Artifact} (kind : node.kind = .file)
    {before next : Option Nat}
    (aftermath : Aftermath origin node.location .executing before disk) :
    Aftermath origin node.location .failed next (discardLeftover node before disk).2 := by
  cases aftermath with
  | untouched same =>
      rcases discardLeftover_cases node before disk with kept | ⟨_, removed⟩
      · rw [kept]
        exact .untouched same
      · rw [removed]
        exact .removed rfl (get?_remove_self disk node.path)
  | @rewritten content mtime _ written newer =>
      have left : disk.bare? node.location = some (.file content mtime) := by
        rw [bare?, written]
        rfl
      rw [discardLeftover_removed kind left newer]
      exact .removed rfl (get?_remove_self disk node.path)
  | made succeeded => cases succeeded
  | removed failed => cases failed

def Staffed (registry : Registry) (tasks : Assignments) : Prop :=
  ∀ id assignment, tasks id = some assignment →
    assignment.node.id = id ∧ registry.find? id = some assignment.node

/-- What a run knows about all files, with nodes in these states and the modification times noted
when their actions started. -/
structure Watched (registry : Registry) (origin : VirtualDisk) (states : NodeId → NodeState)
    (before : NodeId → Option Nat) (disk : VirtualDisk) : Prop where
  timed : disk.Timed
  dated : ∀ id mtime, before id = some mtime → mtime < disk.clock
  files : ∀ node, registry.find? node.id = some node → node.kind = .file →
    Aftermath origin node.location (states node.id) (before node.id) disk

namespace Watched

variable {registry : Registry} {origin disk after : VirtualDisk} {states later : NodeId → NodeState}
  {before next : NodeId → Option Nat} {node : Artifact}

theorem start {plan : Plan} (timed : origin.Timed) :
    Watched registry origin plan.states.get (fun _ => none) origin where
  timed := timed
  dated := nofun
  files := fun _ _ _ => .untouched rfl

theorem untouched (watched : Watched registry origin states before disk)
    (found : registry.find? node.id = some node) (kind : node.kind = .file)
    (waiting : states node.id = .evaluating) :
    disk.get? node.location = origin.get? node.location := by
  cases watched.files node found kind with
  | untouched same => exact same
  | rewritten executing => cases waiting.symm.trans executing
  | made succeeded => cases waiting.symm.trans succeeded
  | removed failed => cases waiting.symm.trans failed

theorem moved (watched : Watched registry origin states before disk) (spaced : registry.Spaced)
    (found : registry.find? node.id = some node) {state : NodeState}
    (states_ : later = update states node.id state) (alters : node.Alters disk after)
    (others : ∀ id, id ≠ node.id → next id = before id)
    (dated : ∀ mtime, next node.id = some mtime → mtime < after.clock)
    (own : node.kind = .file → Aftermath origin node.location state (next node.id) after) :
    Watched registry origin later next after where
  timed := alters.timed watched.timed
  dated := by
    intro id mtime known
    by_cases same : id = node.id
    · exact dated mtime (same ▸ known)
    · rw [others id same] at known
      exact Nat.lt_of_lt_of_le (watched.dated id mtime known) alters.clock
  files := by
    intro other otherFound kind
    rw [states_]
    by_cases same : other.id = node.id
    · rw [same, found] at otherFound
      cases otherFound
      rw [update_self]
      exact own kind
    · -- No file is above another node, so that a change there is none for the other file.
      have kept := alters.aside _ (spaced.aside otherFound kind found same)
      rw [update_of_ne same, others other.id same]
      cases watched.files other otherFound kind with
      | untouched old => exact .untouched (kept.trans old)
      | rewritten executing written newer => exact .rewritten executing (kept.trans written) newer
      | made succeeded => exact .made succeeded
      | removed failed gone => exact .removed failed (kept.trans gone)

theorem fail (watched : Watched registry origin states before disk) (spaced : registry.Spaced)
    (found : registry.find? node.id = some node) (executing : states node.id = .executing)
    (states_ : later = update states node.id .failed)
    (others : ∀ id, id ≠ node.id → next id = before id)
    (dated : ∀ mtime, next node.id = some mtime → before node.id = some mtime) :
    Watched registry origin later next (discardLeftover node (before node.id) disk).2 := by
  have alters := node.alters_discardLeftover (before node.id) disk
  refine watched.moved spaced found states_ alters others ?_ ?_
  · intro mtime known
    exact Nat.lt_of_lt_of_le (watched.dated node.id mtime (dated mtime known)) alters.clock
  · intro kind
    have aftermath := watched.files node found kind
    rw [executing] at aftermath
    exact aftermath.discard kind

theorem works {place last : Workplace} (watched : Watched registry origin states before place.disk)
    (spaced : registry.Spaced) (staffed : Staffed registry place.tasks)
    (busy : ∀ id, (place.tasks id).isSome = true → states id = .executing)
    (works : ReflTransGen Conduct.ownFile.Works place last) :
    Watched registry origin states before last.disk ∧ Staffed registry last.tasks := by
  induction works with
  | refl => exact ⟨watched, staffed⟩
  | @tail between last earlier step ih =>
      obtain ⟨watched, staffed⟩ := ih
      cases step with
      | @complete id node command left disk assigned same =>
          cases same
          refine ⟨watched, fun other assignment known => ?_⟩
          dsimp only at known
          rw [update_apply] at known
          split_ifs at known with here
          · cases known
            have listed := staffed id _ assigned
            rw [here]
            exact listed
          · exact staffed other assignment known
      | @meddle id node command left disk assigned meddles =>
          obtain ⟨-, content, rfl⟩ := meddles
          obtain ⟨named, found⟩ := staffed id _ assigned
          subst named
          have executing : states node.id = .executing := by
            refine busy node.id ?_
            rw [← Conduct.works_isSome earlier, assigned]
            rfl
          have unmoved : states = update states node.id .executing := by
            rw [← executing, update_eq_self]
          refine ⟨?_, staffed⟩
          refine watched.moved spaced found unmoved (node.alters_write _ content)
            (fun _ _ => rfl) ?_ ?_
          · intro mtime known
            exact Nat.lt_of_lt_of_le (watched.dated node.id mtime known)
              (node.alters_write _ content).clock
          · intro _
            -- Whatever was noted is older than what is written now.
            refine .rewritten rfl (get?_write_self between.disk node.path content) fun known => ?_
            exact Nat.lt_irrefl _ (watched.dated node.id _ known)

end Watched

theorem outputTime_lt {disk : VirtualDisk} (timed : disk.Timed) {node : Artifact} {mtime : Nat}
    (noted : outputTime disk node = .ok (some mtime)) : mtime < disk.clock := by
  unfold outputTime at noted
  split at noted
  · exact timed.mtimeOf_lt (Except.ok.inj noted)
  · cases noted

namespace Coordinator

variable {V : Type} [Disk V] [Mounted V] {stands : V → Assignments → Prop} {registry : Registry}
  {plan : Plan} {jobs : Nat} {crew : Crew V} {origin : VirtualDisk} {c next : Coordinator V}
  {tasks : Assignments}

structure Watches (stands : V → Assignments → Prop) (registry : Registry) (origin : VirtualDisk)
    (c : Coordinator V) (tasks : Assignments) : Prop where
  stands : stands c.session.world tasks
  known : ∀ id, (tasks id).isSome = true ↔ id ∈ c.running
  staffed : Staffed registry tasks
  watched : Watched registry origin c.session.states.get c.beforeOf (Mounted.disk c.session.world)

namespace Watches

theorem of_parts {states : NodeId → NodeState} {before : NodeId → Option Nat} {disk : VirtualDisk}
    (standing : stands c.session.world tasks)
    (known : ∀ id, (tasks id).isSome = true ↔ id ∈ c.running) (staffed : Staffed registry tasks)
    (watched : Watched registry origin states before disk)
    (states_ : c.session.states.get = states) (before_ : c.beforeOf = before)
    (disk_ : Mounted.disk c.session.world = disk) : Watches stands registry origin c tasks :=
  ⟨standing, known, staffed, states_ ▸ before_ ▸ disk_ ▸ watched⟩

section Turns

variable {node : Artifact} {id : NodeId} {rest : List NodeId} {verdicts : Verdicts}

theorem skip (watches : Watches stands registry origin c tasks) (spaced : registry.Spaced)
    (found : registry.find? node.id = some node)
    (waiting : c.session.states.get node.id = .evaluating) :
    Watches stands registry origin (rewind { c with
      rest
      session := Session.reportSkipped
        { c.session with verdicts, states := c.session.states.set node.id .skipped } node.id })
      tasks where
  stands := watches.stands
  known := watches.known
  staffed := watches.staffed
  watched := watches.watched.moved spaced found (NodeStates.get_set_eq_update ..)
    (node.alters_refl _) (fun _ _ => rfl) (watches.watched.dated node.id)
    fun kind => .untouched (watches.watched.untouched found kind waiting)

theorem launch (watches : Watches stands registry origin c tasks)
    (lists : Lists plan c c.session.states.get) (spaced : registry.Spaced)
    (follows : crew.Follows .ownFile stands) (found : registry.find? node.id = some node)
    (waiting : c.session.states.get node.id = .evaluating) {before : Option Nat}
    (noted : outputTime c.session.world node = .ok before) :
    ∃ tasks, Watches stands registry origin { c with
      rest
      session := { c.opening node.id verdicts with world := crew.start node c.session.world }
      running := c.running ++ [node.id]
      before := Assoc.set node.id before c.before } tasks := by
  have idle : tasks node.id = none := by
    rw [← Option.not_isSome_iff_eq_none, watches.known]
    intro running
    cases waiting.symm.trans (lists.running node.id running)
  obtain ⟨after, works, standing⟩ :=
    follows.start c.session.world tasks node watches.stands idle
  -- The time is noted before the crew begins, and the crew may write at once.
  have begun : Watched registry origin (update c.session.states.get node.id .executing)
      (update c.beforeOf node.id before) (Mounted.disk c.session.world) := by
    refine watches.watched.moved spaced found rfl (node.alters_refl _)
      (fun _ apart => update_of_ne apart ..) ?_
      fun kind => .untouched (watches.watched.untouched found kind waiting)
    intro mtime known
    rw [update_self] at known
    rw [outputTime_mounted, known] at noted
    exact outputTime_lt watches.watched.timed noted
  have staffed : Staffed registry (update tasks node.id (some ⟨node, commandsOf node.action⟩)) := by
    intro other assignment known
    rw [update_apply] at known
    split_ifs at known with here
    · cases known
      exact ⟨here.symm, here ▸ found⟩
    · exact watches.staffed other assignment known
  have busy : ∀ other, (update tasks node.id (some ⟨node, commandsOf node.action⟩) other).isSome →
      update c.session.states.get node.id .executing other = .executing := by
    intro other assigned
    rw [update_apply] at assigned ⊢
    split_ifs at assigned ⊢
    · rfl
    · exact lists.running other ((watches.known other).mp assigned)
  obtain ⟨worked, stillStaffed⟩ := begun.works spaced staffed busy works
  exact ⟨after, .of_parts standing (isSome_iff_started watches.known works) stillStaffed worked
    (NodeStates.get_set_eq_update ..) (beforeOf_set c node.id before) rfl⟩

theorem join (watches : Watches stands registry origin c tasks)
    (lists : Lists plan c c.session.states.get) (spaced : registry.Spaced)
    (follows : crew.Follows .ownFile stands) {joined : Joined V c.running}
    (ends : Ends jobs crew c id joined) :
    ∃ after,
      stands joined.world (update after id none) ∧
      (∀ other, (update after id none other).isSome = true ↔
        other ∈ c.running.eraseIdx joined.index) ∧
      Staffed registry (update after id none) ∧
      Watched registry origin c.session.states.get c.beforeOf (Mounted.disk joined.world) ∧
      ∃ node : Artifact, node.id = id ∧ registry.find? node.id = some node := by
  obtain ⟨after, works, standing, known, -⟩ :=
    works_of_ends follows watches.stands watches.known lists.distinct ends
  obtain ⟨worked, staffed⟩ := watches.watched.works spaced watches.staffed
    (fun other assigned => lists.running other ((watches.known other).mp assigned)) works
  refine ⟨after, standing, known, ?_, worked, ?_⟩
  · exact fun other assignment left => staffed other assignment (Assignments.of_update_none left)
  · have running : id ∈ c.running := ends.ended ▸ List.get_mem _ _
    obtain ⟨assignment, assigned⟩ := Option.isSome_iff_exists.mp ((watches.known id).mpr running)
    obtain ⟨named, found⟩ := watches.staffed id assignment assigned
    exact ⟨assignment.node, named, named ▸ found⟩

theorem succeed (watches : Watches stands registry origin c tasks)
    (lists : Lists plan c c.session.states.get) (spaced : registry.Spaced)
    (follows : crew.Follows .ownFile stands) {joined : Joined V c.running}
    (ends : Ends jobs crew c id joined) :
    ∃ tasks, Watches stands registry origin { c.relieved joined with
      session := Session.reportExecuted { c.session with
        world := joined.world, states := c.session.states.set id .succeeded } id
      before := Assoc.erase id c.before } tasks := by
  obtain ⟨after, standing, known, staffed, worked, node, rfl, found⟩ :=
    watches.join lists spaced follows ends
  have done : Watched registry origin (update c.session.states.get node.id .succeeded)
      (update c.beforeOf node.id none) (Mounted.disk joined.world) := by
    refine worked.moved spaced found rfl (node.alters_refl _)
      (fun _ apart => update_of_ne apart ..) ?_ fun _ => .made rfl
    intro mtime noted
    rw [update_self] at noted
    cases noted
  exact ⟨_, .of_parts standing known staffed done (NodeStates.get_set_eq_update ..)
    (beforeOf_erase c node.id) rfl⟩

theorem failure (watches : Watches stands registry origin c tasks)
    (lists : Lists plan c c.session.states.get) (spaced : registry.Spaced)
    (follows : crew.Follows .ownFile stands) {joined : Joined V c.running}
    (ends : Ends jobs crew c id joined) (resolved : registry.resolve id = .ok node)
    (executing : c.session.states.get id = .executing) {failure : Failure} {session : Session V}
    (states : session.states = c.session.states.set id .failed)
    (world : session.world = (discardLeftover node (c.beforeOf id) joined.world).2) :
    ∃ tasks, Watches stands registry origin
      (fail { c.relieved joined with session, before := Assoc.erase id c.before } failure)
      tasks := by
  obtain ⟨after, standing, known, staffed, worked, other, rfl, found⟩ :=
    watches.join lists spaced follows ends
  rw [Registry.resolve_of_find? (spaced.canonical.found found) found] at resolved
  cases resolved
  have failed : Watched registry origin (update c.session.states.get node.id .failed)
      (update c.beforeOf node.id none)
      (discardLeftover node (c.beforeOf node.id) (Mounted.disk joined.world)).2 := by
    refine worked.fail spaced found executing rfl (fun _ apart => update_of_ne apart ..) ?_
    intro mtime noted
    rw [update_self] at noted
    cases noted
  refine ⟨_, .of_parts ?_ known staffed failed ?_ (beforeOf_erase c node.id) ?_⟩
  · show stands session.world _
    rw [world]
    exact stands_discardLeftover follows node _ standing
  · show session.states.get = _
    rw [states, NodeStates.get_set_eq_update]
  · show Mounted.disk session.world = _
    rw [world, discardLeftover_mounted]

theorem crash (watches : Watches stands registry origin c tasks)
    (lists : Lists plan c c.session.states.get) (spaced : registry.Spaced)
    (follows : crew.Follows .ownFile stands) {joined : Joined V c.running}
    (ends : Ends jobs crew c id joined) :
    ∃ tasks, Watches stands registry origin (Coordinator.fail { c.relieved joined with
      session := (c.relieved joined).session.note .taskCrashed } .actionCrashed) tasks := by
  -- The node is left executing until the run ends, with whatever its task has written.
  obtain ⟨after, standing, known, staffed, worked, -⟩ := watches.join lists spaced follows ends
  exact ⟨_, standing, known, staffed, worked⟩

theorem stirred (watches : Watches stands registry origin c tasks) (spaced : registry.Spaced)
    (follows : crew.Follows .ownFile stands)
    (executing : ∀ id ∈ c.running, c.session.states.get id = .executing) :
    ∃ tasks, Watches stands registry origin (c.stirred crew) tasks := by
  obtain ⟨after, works, standing⟩ := follows.meanwhile c.session.world tasks watches.stands
  obtain ⟨worked, staffed⟩ := watches.watched.works spaced watches.staffed
    (fun id assigned => executing id ((watches.known id).mp assigned)) works
  exact ⟨after, standing, isSome_iff_of_works watches.known works, staffed, worked⟩

variable [Linking V]

theorem perform (watches : Watches stands registry origin c tasks) (spaced : registry.Spaced)
    (upholds : crew.Upholds .ownFile stands) (found : registry.find? node.id = some node)
    {events : List Event} {world : V}
    (done : runInternal node c.session.world = (.ok (), events, world)) :
    Watches stands registry origin (rewind { c with
      rest
      session := Session.reportExecuted
        { (c.opening node.id verdicts).noteAll events with
          world
          states := (c.opening node.id verdicts).states.set node.id .succeeded } node.id })
      tasks := by
  have mirrors : Mirrors node c.session.world := runInternal_linking node c.session.world
  have standing := stands_runInternal_linking upholds node watches.stands
  have alters := node.alters_runInternal (Mounted.disk c.session.world)
  rw [Mirrors, done, Prod.mk.injEq] at mirrors
  rw [done] at standing
  rw [← mirrors.2] at alters
  refine ⟨standing, watches.known, watches.staffed, ?_⟩
  refine watches.watched.moved spaced found (get_opening_set ..) alters (fun _ _ => rfl) ?_
    fun _ => .made rfl
  intro mtime noted
  exact Nat.lt_of_lt_of_le (watches.watched.dated node.id mtime noted) alters.clock

theorem spoil (watches : Watches stands registry origin c tasks) (spaced : registry.Spaced)
    (upholds : crew.Upholds .ownFile stands) (found : registry.find? node.id = some node)
    (waiting : c.session.states.get node.id = .evaluating) {events : List Event} {world : V}
    {failure : Failure}
    (failed : runInternal node c.session.world = (.error failure, events, world)) :
    Watches stands registry origin (Coordinator.fail { c with
      rest
      session := { (c.opening node.id verdicts).noteAll events with
        world
        states := (c.opening node.id verdicts).states.set node.id .failed } } failure) tasks := by
  have mirrors : Mirrors node c.session.world := runInternal_linking node c.session.world
  have standing := stands_runInternal_linking upholds node watches.stands
  rw [Mirrors, failed, Prod.mk.injEq] at mirrors
  rw [failed] at standing
  generalize performed : runInternal node (Mounted.disk c.session.world) = ran at mirrors
  obtain ⟨answer, others, disk⟩ := ran
  obtain ⟨rfl, same⟩ := mirrors
  -- What the coordinator does itself is done as a whole or not at all.
  have kept : Mounted.disk world = Mounted.disk c.session.world :=
    same.trans (runInternal_failed performed)
  refine ⟨standing, watches.known, watches.staffed, ?_⟩
  show Watched registry origin _ _ (Mounted.disk world)
  rw [kept]
  exact watches.watched.moved spaced found (get_opening_set ..) (node.alters_refl _)
    (fun _ _ => rfl) (watches.watched.dated node.id)
    fun kind => .untouched (watches.watched.untouched found kind waiting)

end Turns

theorem turn [Linking V] (watches : Watches stands registry origin c tasks)
    (lists : Lists plan c c.session.states.get) (spaced : registry.Spaced)
    (sound : plan.Sound registry) (upholds : crew.Upholds .ownFile stands)
    (turn : Turn registry plan jobs crew c (.going next)) :
    ∃ tasks, Watches stands registry origin next tasks := by
  have follows := upholds.toFollows
  generalize going : Progress.going next = progress at turn
  cases turn with
  | passOver =>
      cases going
      exact ⟨tasks, watches.stands, watches.known, watches.staffed, watches.watched⟩
  | skip chosen =>
      cases going
      obtain ⟨rfl, found, waiting, -⟩ := lists.chosen spaced.canonical sound chosen
      exact ⟨tasks, watches.skip spaced found waiting⟩
  | puzzle =>
      cases going
      exact ⟨tasks, watches.stands, watches.known, watches.staffed, watches.watched⟩
  | launch opened _ noted =>
      cases going
      obtain ⟨rfl, found, waiting, -⟩ := lists.chosen spaced.canonical sound opened.toChosen
      exact watches.launch lists spaced follows found waiting noted
  | perform opened _ done =>
      cases going
      obtain ⟨rfl, found, -⟩ := lists.chosen spaced.canonical sound opened.toChosen
      exact ⟨tasks, watches.perform spaced upholds found done⟩
  | spoil opened _ failed =>
      cases going
      obtain ⟨rfl, found, waiting, -⟩ := lists.chosen spaced.canonical sound opened.toChosen
      exact ⟨tasks, watches.spoil spaced upholds found waiting failed⟩
  | succeed ends =>
      cases going
      exact watches.succeed lists spaced follows ends
  | failure ends resolved result cleaned =>
      cases going
      refine watches.failure lists spaced follows ends resolved
        (ends.executing (by simp [result])) ?_ ?_
      · rw [cleaned]
        split <;> rfl
      · rw [cleaned]
        split <;> rfl
  | crash ends =>
      cases going
      exact watches.crash lists spaced follows ends
  | finish => exact absurd going.symm finish_ne_going
  | breakDown => cases going
  | unprepared => cases going
  | stray => cases going

end Watches

theorem watches_start {world : V} (standing : stands world .none)
    (timed : (Mounted.disk world).Timed) :
    Watches stands registry (Mounted.disk world) (Coordinator.start plan world) .none where
  stands := standing
  known id := by simp [Assignments.none, Coordinator.start]
  staffed := nofun
  watched := .start timed

theorem Leads.watches [Linking V] (spaced : registry.Spaced) (sound : plan.Sound registry)
    (room : 0 < jobs) (upholds : crew.Upholds .ownFile stands)
    {world : V} (standing : stands world .none) (timed : (Mounted.disk world).Timed)
    {launched : List NodeId}
    (leads : Leads registry plan jobs crew (Coordinator.start plan world) launched c) :
    ∃ tasks, Watches stands registry (Mounted.disk world) c tasks := by
  generalize origin : Coordinator.start plan world = a at leads
  induction leads with
  | refl =>
      subst origin
      exact ⟨_, watches_start standing timed⟩
  | step leads stepped ih =>
      obtain ⟨tasks, watches⟩ := ih
      subst origin
      have lists := (leads.tended spaced.canonical sound room).1.lists
      obtain ⟨after, reached⟩ := watches.turn lists spaced sound upholds (turn_of_step stepped)
      have running := ((leads.step stepped).tended spaced.canonical sound room).1.lists.running
      exact reached.stirred spaced upholds.toFollows running

omit [Disk V] [Mounted V] in
theorem not_chosen_of_failed {failure : Failure} (failed : c.failure = some failure)
    {node : Artifact} {id : NodeId} {rest : List NodeId} :
    ¬Chosen registry plan jobs c node id rest := by
  intro chosen
  have calm := chosen.calm
  rw [failed] at calm
  cases calm

omit [Mounted V] in
theorem launching?_of_failed {failure : Failure} (failed : c.failure = some failure) :
    c.launching? registry plan jobs = none :=
  launching?_eq_none fun _ _ _ _ chosen _ => not_chosen_of_failed failed chosen

/-- The task of the node has ended, as the crew has it, and is not under way any more. The world is
as the crew left it, but for what the task may have left. -/
def Takes (registry : Registry) (crew : Crew V) (c : Coordinator V) (id : NodeId)
    (next : Coordinator V) : Prop :=
  ∃ busy,
    let joined := crew.join c.running busy c.session.world
    id = c.running.get joined.index ∧ next.running = c.running.eraseIdx joined.index ∧
      ReflGen (c.Discards registry id) joined.world next.session.world

omit [Mounted V] in
theorem failure_kept {failure : Failure} (failed : c.failure = some failure)
    (stepped : c.step registry plan jobs crew = .going next) :
    next.failure = some failure ∧ ∃ id, Takes registry crew c id next := by
  generalize going : Progress.going next = progress at stepped
  -- Whatever begins something is ruled out by the failure: only what runs already can end.
  cases turn_of_step stepped with
  | passOver calm =>
      rw [failed] at calm
      cases calm
  | skip chosen | puzzle chosen => exact absurd chosen (not_chosen_of_failed failed)
  | launch opened | perform opened | spoil opened =>
      exact absurd opened.toChosen (not_chosen_of_failed failed)
  | @succeed id _ ends =>
      cases going
      obtain ⟨busy, rfl⟩ := ends.turn
      exact ⟨failed, id, busy, ends.ended, rfl, .refl⟩
  | @failure node id _ _ ends resolved result _ cleaned =>
      cases going
      have executing := ends.executing (by simp [result])
      obtain ⟨busy, rfl⟩ := ends.turn
      refine ⟨by simp [fail, relieved, rewind, failed], id, busy, ends.ended, rfl, ?_⟩
      rw [cleaned]
      exact .single ⟨executing, node, resolved, by split <;> rfl⟩
  | @crash id _ ends =>
      cases going
      obtain ⟨busy, rfl⟩ := ends.turn
      exact ⟨by simp [fail, relieved, rewind, failed], id, busy, ends.ended, rfl, .refl⟩
  | finish => exact absurd going.symm finish_ne_going
  | breakDown => cases going
  | unprepared => cases going
  | stray => cases going

omit [Mounted V] in
theorem Leads.failure_kept {failure : Failure} (failed : c.failure = some failure)
    {more : List NodeId} {later : Coordinator V}
    (leads : Leads registry plan jobs crew c more later) :
    more = [] ∧ later.failure = some failure ∧ later.running.Sublist c.running := by
  induction leads with
  | refl => exact ⟨rfl, failed, .refl _⟩
  | step _ stepped ih =>
      obtain ⟨rfl, still, fewer⟩ := ih
      obtain ⟨kept, id, busy, -, left, -⟩ := Coordinator.failure_kept still stepped
      refine ⟨?_, kept, ?_⟩
      · rw [launches_of_launching?_eq_none (launching?_of_failed still), List.append_nil]
      · rw [stirred_running, left]
        exact (List.eraseIdx_sublist ..).trans fewer

/-- `Collects a taken b`: steps lead from `a` to `b` each of which takes a task that has ended,
those of `taken` in this order. -/
inductive Collects (registry : Registry) (plan : Plan) (jobs : Nat) (crew : Crew V) :
    Coordinator V → List NodeId → Coordinator V → Prop where
  | refl (c : Coordinator V) : Collects registry plan jobs crew c [] c
  | step {a c next : Coordinator V} {taken : List NodeId} {id : NodeId}
      (collects : Collects registry plan jobs crew a taken c)
      (stepped : c.step registry plan jobs crew = .going next)
      (takes : Takes registry crew c id next) :
      Collects registry plan jobs crew a (taken ++ [id]) (next.stirred crew)

omit [Mounted V] in
theorem Takes.perm {id : NodeId} (takes : Takes registry crew c id next) :
    (id :: next.running).Perm c.running := by
  obtain ⟨busy, rfl, left, -⟩ := takes
  rw [left]
  exact List.getElem_cons_eraseIdx_perm _

omit [Mounted V] in
theorem Collects.perm {taken : List NodeId} {later : Coordinator V}
    (collects : Collects registry plan jobs crew c taken later) :
    (taken ++ later.running).Perm c.running := by
  induction collects with
  | refl => exact .refl _
  | @step _ next taken id _ _ takes ih =>
      rw [List.append_assoc, List.singleton_append, stirred_running]
      exact (takes.perm.append_left taken).trans ih

omit [Mounted V] in
theorem Leads.collects {failure : Failure} (failed : c.failure = some failure)
    {more : List NodeId} {later : Coordinator V}
    (leads : Leads registry plan jobs crew c more later) :
    ∃ taken, Collects registry plan jobs crew c taken later := by
  induction leads with
  | refl => exact ⟨[], .refl c⟩
  | step leads stepped ih =>
      obtain ⟨taken, collects⟩ := ih
      obtain ⟨-, still, -⟩ := leads.failure_kept failed
      obtain ⟨-, id, takes⟩ := Coordinator.failure_kept still stepped
      exact ⟨taken ++ [id], collects.step stepped takes⟩

/-- At some point `met` nothing had failed, and the next step met the failure and recorded it. No
action has been started since. -/
def MetFirst (registry : Registry) (plan : Plan) (jobs : Nat) (crew : Crew V) (world : V)
    (failure : Failure) (c : Coordinator V) : Prop :=
  ∃ launched met next, Leads registry plan jobs crew (Coordinator.start plan world) launched met ∧
    met.failure = none ∧ Trouble registry plan jobs crew met failure ∧
    met.step registry plan jobs crew = .going next ∧ next.failure = some failure ∧
      Leads registry plan jobs crew (next.stirred crew) [] c

theorem Leads.metFirst (canonical : registry.Canonical) (sound : plan.Sound registry)
    (room : 0 < jobs) {world : V} {launched : List NodeId}
    (leads : Leads registry plan jobs crew (Coordinator.start plan world) launched c)
    {failure : Failure} (failed : c.failure = some failure) :
    MetFirst registry plan jobs crew world failure c := by
  generalize origin : Coordinator.start plan world = a at leads
  induction leads with
  | refl =>
      subst origin
      cases failed
  | @step between next launched leads stepped ih =>
      subst origin
      have tended := (leads.tended canonical sound room).1
      cases known : between.failure with
      | some first =>
          -- The failure is an old one: it stays the one that is known, and nothing is started.
          obtain ⟨kept, -⟩ := Coordinator.failure_kept known stepped
          obtain rfl : first = failure := Option.some.inj (kept.symm.trans failed)
          obtain ⟨front, met, after, before, calm, trouble, meets, named, since⟩ := ih known
          refine ⟨front, met, after, before, calm, trouble, meets, named, ?_⟩
          have onward := since.step stepped
          rw [launches_of_launching?_eq_none (launching?_of_failed known)] at onward
          exact onward
      | none =>
          obtain ⟨-, same | ⟨first, trouble, named⟩⟩ :=
            tended.turn canonical sound room (turn_of_step stepped)
          · cases (same.trans known).symm.trans failed
          · obtain rfl : first = failure := Option.some.inj (named.symm.trans failed)
            exact ⟨launched, between, next, leads, known, trouble, stepped, failed, .refl _⟩

omit [Mounted V] in
theorem begun_of_step (stepped : c.step registry plan jobs crew = .going next) {id : NodeId}
    (started : (next.session.states.get id).isStarted = true) :
    (c.session.states.get id).isStarted = true ∨ id ∈ c.launches registry plan jobs := by
  have moved {other : NodeId} {state : NodeState}
      (started : (update c.session.states.get other state id).isStarted = true)
      (own : (c.session.states.get other).isStarted = true ∨
        other ∈ c.launches registry plan jobs) :
      (c.session.states.get id).isStarted = true ∨ id ∈ c.launches registry plan jobs := by
    rw [update_apply] at started
    split_ifs at started with same
    · exact same ▸ own
    · exact .inl started
  have launched {node : Artifact} {other : NodeId} {rest : List NodeId} {verdicts : Verdicts}
      (opened : Opened registry plan jobs c node other rest verdicts) :
      other ∈ c.launches registry plan jobs := by
    rw [launches_of_opened opened]
    exact List.mem_singleton_self other
  have moves := moves_of_step stepped
  generalize next.session.states.get = states at moves started
  -- A node that starts is launched in this very step; one that ends had been executing before.
  cases moves with
  | still => exact .inl started
  | skip =>
      rw [update_apply] at started
      split_ifs at started
      · cases started
      · exact .inl started
  | launch opened | perform opened | spoil opened => exact moved started (.inr (launched opened))
  | succeed ends result =>
      exact moved started (.inl (by rw [ends.executing (by simp [result])]; rfl))
  | fail executing => exact moved started (.inl (by rw [executing]; rfl))

/-- In the next step the action of the node goes well: the coordinator carries it out itself, or its
task is the one that ends. -/
inductive Success (registry : Registry) (plan : Plan) (jobs : Nat) (crew : Crew V)
    (c : Coordinator V) : NodeId → Prop where
  | action {node : Artifact} {id : NodeId} {rest : List NodeId} {verdicts : Verdicts}
      {events : List Event} {world : V}
      (opened : Opened registry plan jobs c node id rest verdicts)
      (internal : ∀ commands, node.action ≠ .run commands)
      (done : runInternal node c.session.world = (.ok (), events, world)) :
      Success registry plan jobs crew c id
  | task {id : NodeId} {joined : Joined V c.running} (ends : Ends jobs crew c id joined)
      (result : joined.result = .succeeded) : Success registry plan jobs crew c id

omit [Mounted V] in
theorem succeeded_of_step (stepped : c.step registry plan jobs crew = .going next) {id : NodeId}
    (done : next.session.states.get id = .succeeded) :
    c.session.states.get id = .succeeded ∨ Success registry plan jobs crew c id := by
  have moves := moves_of_step stepped
  generalize next.session.states.get = states at moves done
  have moved {other : NodeId} {state : NodeState}
      (done : update c.session.states.get other state id = .succeeded)
      (own : state = .succeeded → Success registry plan jobs crew c other) :
      c.session.states.get id = .succeeded ∨ Success registry plan jobs crew c id := by
    rw [update_apply] at done
    split_ifs at done with same
    · exact .inr (same ▸ own done)
    · exact .inl done
  cases moves with
  | still => exact .inl done
  | skip | launch | spoil | fail => exact moved done nofun
  | perform opened internal performed =>
      exact moved done fun _ => .action opened internal performed
  | succeed ends result => exact moved done fun _ => .task ends result

omit [Mounted V] in
theorem Leads.succeeded (sound : plan.Sound registry) {world : V} {launched : List NodeId}
    (leads : Leads registry plan jobs crew (Coordinator.start plan world) launched c)
    {id : NodeId} (done : c.session.states.get id = .succeeded) :
    ∃ front point, Leads registry plan jobs crew (Coordinator.start plan world) front point ∧
      Success registry plan jobs crew point id := by
  generalize origin : Coordinator.start plan world = a at leads
  induction leads with
  | refl =>
      subst origin
      change plan.states.get id = .succeeded at done
      rw [sound.states_get] at done
      split_ifs at done
  | @step between next front leads stepped ih =>
      rcases succeeded_of_step stepped done with earlier | now
      · exact ih earlier
      · exact ⟨front, between, leads, now⟩

def Starts (registry : Registry) (plan : Plan) (jobs : Nat) (c : Coordinator V) (node : Artifact) :
    Prop :=
  ∃ ready, c.launching? registry plan jobs = some (ready, node, node.id)

omit [Mounted V] in
theorem Leads.starts (canonical : registry.Canonical) (sound : plan.Sound registry) {world : V}
    {launched : List NodeId}
    (leads : Leads registry plan jobs crew (Coordinator.start plan world) launched c)
    {node : Artifact} (found : registry.find? node.id = some node)
    (started : (c.session.states.get node.id).isStarted = true) :
    node.id ∈ launched ∧ ∃ front point,
      Leads registry plan jobs crew (Coordinator.start plan world) front point ∧
        Starts registry plan jobs point node := by
  generalize origin : Coordinator.start plan world = a at leads
  -- On the steps so far: the point of the start is the last before the node counts as started.
  induction leads with
  | refl =>
      subst origin
      have waiting : plan.states.get node.id = .evaluating ∨
          plan.states.get node.id = .unvisited := by
        rw [sound.states_get]
        split
        · exact .inl rfl
        · exact .inr rfl
      have begun : (plan.states.get node.id).isStarted = true := started
      rcases waiting with waiting | waiting <;>
        · rw [waiting] at begun
          cases begun
  | @step between next front leads stepped ih =>
      rcases begun_of_step stepped started with earlier | now
      · obtain ⟨member, exists_⟩ := ih earlier
        exact ⟨List.mem_append_left _ member, exists_⟩
      · refine ⟨List.mem_append_right _ now, front, between, leads, ?_⟩
        unfold launches at now
        rw [Option.mem_toList, Option.map_eq_some_iff] at now
        obtain ⟨⟨ready, other, id⟩, launching, same⟩ := now
        dsimp only at same
        subst same
        obtain ⟨_, _, chosen, -, -⟩ := launching?_eq_some.mp launching
        have resolved := Registry.resolve_of_find? (canonical.found found) found
        rw [chosen.resolved] at resolved
        cases resolved
        exact ⟨ready, launching⟩

/-- The file of a node is the one from before the run as long as its action is not started. -/
theorem Leads.untouched_of_starts [Linking V] (spaced : registry.Spaced)
    (sound : plan.Sound registry) (room : 0 < jobs) (upholds : crew.Upholds .ownFile stands)
    {world : V} (standing : stands world .none) (timed : (Mounted.disk world).Timed)
    {launched : List NodeId}
    (leads : Leads registry plan jobs crew (Coordinator.start plan world) launched c)
    {node : Artifact} (found : registry.find? node.id = some node) (kind : node.kind = .file)
    (starts : Starts registry plan jobs c node) :
    (Mounted.disk c.session.world).get? node.location =
      (Mounted.disk world).get? node.location := by
  obtain ⟨ready, launching⟩ := starts
  obtain ⟨_, _, chosen, -, -⟩ := launching?_eq_some.mp launching
  have lists := (leads.tended spaced.canonical sound room).1.lists
  obtain ⟨-, -, waiting, -⟩ := lists.chosen spaced.canonical sound chosen
  obtain ⟨_, watches⟩ := leads.watches spaced sound room upholds standing timed
  exact watches.watched.untouched found kind waiting

theorem failStranded_watched (spaced : registry.Spaced) {ids : List NodeId} (distinct : ids.Nodup)
    {session : Session V}
    (stranded : ∀ id ∈ ids, (∃ node, registry.find? id = some node) ∧
      session.states.get id = .executing)
    (watched : Watched registry origin session.states.get c.beforeOf
      (Mounted.disk session.world)) :
    ∃ after, c.failStranded registry ids session = .ok after ∧
      Watched registry origin after.states.get c.beforeOf (Mounted.disk after.world) ∧
      ∀ id, after.states.get id = if id ∈ ids then .failed else session.states.get id := by
  induction ids generalizing session with
  | nil => exact ⟨session, rfl, watched, by simp⟩
  | cons id rest ih =>
      obtain ⟨⟨node, found⟩, executing⟩ := stranded id (by simp)
      obtain rfl := Registry.id_of_find? found
      rw [List.nodup_cons] at distinct
      -- The node is failed first and its file discarded then; the others are still executing.
      let next : Session V := discard
        { session with states := session.states.set node.id .failed } node (c.beforeOf node.id)
      have nextWatched : Watched registry origin next.states.get c.beforeOf
          (Mounted.disk next.world) := by
        have failed := watched.fail spaced found executing
          (NodeStates.get_set_eq_update session.states node.id .failed) (fun _ _ => rfl)
          (fun _ noted => noted)
        rw [← discardLeftover_mounted] at failed
        exact failed
      have others : ∀ other ∈ rest, (∃ node, registry.find? other = some node) ∧
          next.states.get other = .executing := by
        intro other member
        have apart : other ≠ node.id := fun same => distinct.1 (same ▸ member)
        simpa [next, NodeStates.get_set, apart] using stranded other (List.mem_cons_of_mem _ member)
      obtain ⟨after, done, stillWatched, states⟩ := ih distinct.2 others nextWatched
      rw [failStranded, Session.move_eq session (by rw [executing]; rfl)]
      dsimp only
      rw [Registry.resolve_of_find? (spaced.canonical.found found) found]
      refine ⟨after, done, stillWatched, fun other => ?_⟩
      rw [states]
      by_cases same : other = node.id
      · simp [next, same, NodeStates.get_set]
      · simp [next, same, NodeStates.get_set]

omit [Mounted V] in
theorem finish_of_ended (lists : Lists plan c c.session.states.get) (canonical : registry.Canonical)
    (sound : plan.Sound registry) {failure : Failure} (failed : c.failure = some failure)
    {outcome : Outcome} {session : Session V}
    (ended : c.step registry plan jobs crew = .ended outcome session) :
    c.running = [] ∧ c.finish registry = .ended outcome session := by
  generalize closing : Progress.ended outcome session = progress at ended
  cases turn_of_step ended with
  | finish idle => exact ⟨idle, rfl⟩
  | stray astray => exact absurd astray (lists.not_astray canonical sound)
  | breakDown chosen => exact absurd chosen (not_chosen_of_failed failed)
  | unprepared opened => exact absurd opened.toChosen (not_chosen_of_failed failed)
  | passOver | skip | puzzle | launch | perform | spoil | succeed | failure | crash => cases closing

theorem Watches.finish (watches : Watches stands registry origin c tasks)
    (tended : Tended registry plan c) (spaced : registry.Spaced) (sound : plan.Sound registry)
    {failure : Failure} (failed : c.failure = some failure) :
    ∃ session, c.finish registry = .ended (.failed failure) session ∧
      Watched registry origin session.states.get c.beforeOf (Mounted.disk session.world) ∧
      ∀ id, session.states.get id =
        if c.session.states.get id = .executing then .failed else c.session.states.get id := by
  -- The stranded nodes are the executing ones, each listed once.
  have listed (id : NodeId) :
      id ∈ c.session.states.inState .executing ↔ c.session.states.get id = .executing :=
    NodeStates.mem_inState tended.distinct (by decide)
  have stranded : ∀ id ∈ c.session.states.inState .executing,
      (∃ node, registry.find? id = some node) ∧ c.session.states.get id = .executing := by
    intro id member
    have executing := (listed id).mp member
    obtain ⟨node, found, -⟩ :=
      sound.ordered.registered (tended.lists.planned id (by rw [executing]; nofun))
    exact ⟨⟨node, found⟩, executing⟩
  obtain ⟨after, done, watched, states⟩ := failStranded_watched spaced
    (NodeStates.nodup_inState tended.distinct _) stranded watches.watched
  refine ⟨after.abort, ?_, watched, ?_⟩
  · rw [Coordinator.finish, failed]
    dsimp only
    rw [done]
  · intro id
    show after.states.get id = _
    simp only [states id, listed id]

/-- How a run goes on after a failure has been recorded. The actions of `launched` were started
before. -/
structure Drains (registry : Registry) (plan : Plan) (jobs : Nat) (crew : Crew V) (world : V)
    (launched : List NodeId) (c : Coordinator V) (failure : Failure) (run : Outcome × Session V) :
    Prop where
  first : MetFirst registry plan jobs crew world failure c
  /-- No action is started any more, by a task or by the coordinator, and tasks only leave. -/
  quiet : ∀ more later, Leads registry plan jobs crew c more later →
    more = [] ∧ later.failure = some failure ∧ later.running.Sublist c.running ∧
      later.launching? registry plan jobs = none ∧
      ∃ running, Effect registry crew later [] running
        (worldAfter (later.step registry plan jobs crew))
  /-- Each task that is under way is waited for, and the run ends after the last of them. -/
  joined : ∃ taken last, Leads registry plan jobs crew c [] last ∧
    Collects registry plan jobs crew c taken last ∧ taken.Perm c.running ∧ last.running = [] ∧
    last.step registry plan jobs crew = .ended run.1 run.2
  returned : run.1 = .failed failure
  settled : ∀ id, run.2.states.get id ≠ .executing
  finished : ∀ id, run.2.states.get id = .succeeded ∨ run.2.states.get id = .failed ∨ id ∉ launched
  succeeded : ∀ id, run.2.states.get id = .succeeded →
    ∃ front point, Leads registry plan jobs crew (Coordinator.start plan world) front point ∧
      Success registry plan jobs crew point id
  files : ∀ node, registry.find? node.id = some node → node.kind = .file →
    run.2.states.get node.id = .failed →
      (∃ front point, Leads registry plan jobs crew (Coordinator.start plan world) front point ∧
        Starts registry plan jobs point node) ∧
      ∀ front point, Leads registry plan jobs crew (Coordinator.start plan world) front point →
        Starts registry plan jobs point node →
          (Mounted.disk run.2.world).get? node.location = none ∨
            (Mounted.disk run.2.world).get? node.location =
              (Mounted.disk point.session.world).get? node.location

omit [Mounted V] in
theorem Leads.trans {a b : Coordinator V} {front back : List NodeId}
    (leads : Leads registry plan jobs crew a front b)
    (onward : Leads registry plan jobs crew b back c) :
    Leads registry plan jobs crew a (front ++ back) c := by
  induction onward with
  | refl => simpa using leads
  | step _ stepped ih =>
      rw [← List.append_assoc]
      exact ih.step stepped

/-- Once a parallel run has recorded a failure, no matter of which kind, it waits for the tasks that
are under way, fails with the first failure and leaves nothing half done: no node is executing, and
the file of a failed node is the old one, untouched, or gone. -/
theorem failure_drains [Linking V] (spaced : registry.Spaced) {targets : List String}
    (planned : Plan.make registry targets = .ok plan) (room : 0 < jobs)
    (upholds : crew.Upholds .ownFile stands) {world : V} (standing : stands world .none)
    (made : (Mounted.disk world).Made) {launched : List NodeId}
    (leads : Leads registry plan jobs crew (Coordinator.start plan world) launched c)
    {failure : Failure} (recorded : c.failure = some failure) :
    Drains registry plan jobs crew world launched c failure
      (inParallel registry crew jobs plan world) := by
  have sound := Plan.make_sound spaced.canonical planned
  -- The run is followed from the recorded failure to its last step, in which it is closed.
  obtain ⟨more, last, onward, ended⟩ := drive_ends (Leads.refl c)
  obtain ⟨rfl, failed, -⟩ := onward.failure_kept recorded
  rw [← leads.drive_eq] at ended
  change last.step registry plan jobs crew =
    .ended (inParallel registry crew jobs plan world).1
      (inParallel registry crew jobs plan world).2 at ended
  generalize inParallel registry crew jobs plan world = run at ended
  have whole := leads.trans onward
  rw [List.append_nil] at whole
  have tended := (whole.tended spaced.canonical sound room).1
  obtain ⟨tasks, watches⟩ := whole.watches spaced sound room upholds standing made.timed
  obtain ⟨session, finished, watched, states⟩ := watches.finish tended spaced sound failed
  obtain ⟨idle, closing⟩ := finish_of_ended tended.lists spaced.canonical sound failed ended
  obtain ⟨outcome, final⟩ := run
  rw [finished] at closing
  obtain ⟨rfl, rfl⟩ := Progress.ended.inj closing
  have settled : ∀ id, session.states.get id ≠ .executing := by
    intro id
    rw [states]
    split_ifs with executing
    · nofun
    · exact executing
  have begun : ∀ id, (session.states.get id).isStarted =
      (last.session.states.get id).isStarted := by
    intro id
    rw [states]
    split_ifs with executing
    · rw [executing]
      rfl
    · rfl
  obtain ⟨taken, collects⟩ := onward.collects recorded
  have all : taken.Perm c.running := by simpa [idle] using collects.perm
  refine ⟨leads.metFirst spaced.canonical sound room recorded, ?_,
    ⟨taken, last, onward, collects, all, idle, ended⟩, rfl, settled, ?_, ?_, ?_⟩
  · intro more later towards
    obtain ⟨nothing, still, fewer⟩ := towards.failure_kept recorded
    have quiet : later.launching? registry plan jobs = none := launching?_of_failed still
    exact ⟨nothing, still, fewer, quiet, effect_of_launching?_eq_none quiet⟩
  · intro id
    by_cases member : id ∈ launched
    · have started := (begun id).trans ((whole.safe sound).started id member)
      rcases NodeState.ended_of_isStarted started (settled id) with done | lost
      · exact .inl done
      · exact .inr (.inl lost)
    · exact .inr (.inr member)
  · intro id done
    refine whole.succeeded sound ?_
    have shown : _ = NodeState.succeeded := (states id).symm.trans done
    split_ifs at shown
    exact shown
  · intro node found kind lost
    have started : (last.session.states.get node.id).isStarted = true := by
      rw [← begun, lost]
      rfl
    refine ⟨(whole.starts spaced.canonical sound found started).2, ?_⟩
    intro front point towards starts
    have then_ := towards.untouched_of_starts spaced sound room upholds standing made.timed found kind
      starts
    cases watched.files node found kind with
    | untouched same => exact .inr (same.trans then_.symm)
    | rewritten executing => exact absurd executing (settled node.id)
    | made succeeded => cases lost.symm.trans succeeded
    | removed _ gone => exact .inl gone

def desk : Registry where
  nodes := [
    (Artifact.file "notes" (.run [⟨"scribble", [], ⟨[]⟩, none, none⟩])).dependsOn "in",
    (Artifact.file "report" (.run [⟨"refuse", [], ⟨[]⟩, none, none⟩])).dependsOn "in",
    (Artifact.phony "all" .none).dependsOnAll ["notes", "report"]]

def deskPlan : Plan where
  order := ["notes", "report", "all"]
  deps := [("all", ["notes", "report"]), ("report", []), ("notes", [])]
  states := ⟨[("all", .evaluating), ("notes", .evaluating), ("report", .evaluating)]⟩

def littered : VirtualDisk :=
  ((VirtualDisk.new.write ⟨"notes"⟩ []).write ⟨"report"⟩ []).write ⟨"in"⟩ []

def clerk : Worker VirtualDisk Invocation where
  begin invocation disk := (invocation, disk)
  finish? invocation disk :=
    if invocation.kind = .file ∧ invocation.command.program = "scribble" then
      some (.crashed, disk.write ⟨invocation.node⟩ [])
    else some (.exited 1, disk)

theorem clerk_prompt : clerk.Prompt := by
  intro invocation disk
  show ∃ reply after, clerk.finish? invocation disk = some (reply, after)
  unfold clerk
  dsimp only
  split
  · exact ⟨_, _, rfl⟩
  · exact ⟨_, _, rfl⟩

theorem clerk_follows : clerk.executor.Follows .ownFile := by
  have executes (invocation : Invocation) (disk : VirtualDisk) :
      clerk.executor.execute invocation disk =
        if invocation.kind = .file ∧ invocation.command.program = "scribble" then
          (.crashed, disk.write ⟨invocation.node⟩ [])
        else (.exited 1, disk) := by
    simp only [Worker.executor, clerk]
    split_ifs <;> rfl
  refine ⟨?_, ?_⟩
  · intro invocation disk success
    rw [executes] at success
    split_ifs at success
  · intro invocation disk _
    rw [executes]
    split_ifs with scribbles
    · exact .single ⟨scribbles.1, [], rfl⟩
    · exact .refl

theorem failure_drains_desk :
    let crew := Pool.crew clerk
    let reached := advance desk deskPlan 2 crew 3 (Coordinator.start deskPlan { world := littered })
    reached.2.running = ["report"] ∧
      Drains desk deskPlan 2 crew { world := littered } reached.1 reached.2 .actionCrashed
        (inParallel desk crew 2 deskPlan { world := littered }) := by
  intro crew reached
  have spaced : desk.Spaced := ⟨by decide, by decide, by decide⟩
  have planned : Plan.make desk ["all"] = .ok deskPlan := by rfl
  obtain ⟨stands, upholds, standing⟩ := (Worker.staff_upholds clerk_follows clerk_prompt).crew
  have made : (Mounted.disk ({ world := littered } : Pool VirtualDisk Invocation)).Made :=
    ⟨[.add ⟨"notes"⟩ [], .add ⟨"report"⟩ [], .add ⟨"in"⟩ []], rfl⟩
  have recorded : reached.2.failure = some .actionCrashed := by decide +kernel
  exact ⟨by decide +kernel, failure_drains spaced planned (by decide) upholds (standing littered)
    made (leads_advance 3 _) recorded⟩

end Coordinator

end Run

end ArtifactPipeline
