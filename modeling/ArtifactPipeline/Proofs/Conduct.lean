import ArtifactPipeline.Proofs.DiskChange
import ArtifactPipeline.Proofs.Staleness
import ArtifactPipeline.Rehearsal
import ArtifactPipeline.Run.Pool
import Mathlib.Logic.Function.Basic
import Mathlib.Logic.Relation

set_option autoImplicit false

namespace ArtifactPipeline

/-- A world around a disk in memory: what it is asked and told about files goes to that disk. -/
class Mounted (W : Type) [Disk W] where
  disk : W → VirtualDisk
  modified_eq : ∀ world path, Disk.modified world path = Disk.modified (disk world) path
  isDir_eq : ∀ world path, Disk.isDir world path = Disk.isDir (disk world) path
  isLink_eq : ∀ world path, Disk.isLink world path = Disk.isLink (disk world) path
  removeFile_eq : ∀ world path,
    (Disk.removeFile world path).1 = (Disk.removeFile (disk world) path).1
  disk_removeFile : ∀ world path,
    disk (Disk.removeFile world path).2 = (Disk.removeFile (disk world) path).2
  createDirs_eq : ∀ world path,
    (Disk.createDirs world path).1 = (Disk.createDirs (disk world) path).1
  disk_createDirs : ∀ world path,
    disk (Disk.createDirs world path).2 = (Disk.createDirs (disk world) path).2

namespace Mounted

instance : Mounted VirtualDisk where
  disk := id
  modified_eq _ _ := rfl
  isDir_eq _ _ := rfl
  isLink_eq _ _ := rfl
  removeFile_eq _ _ := rfl
  disk_removeFile _ _ := rfl
  createDirs_eq _ _ := rfl
  disk_createDirs _ _ := rfl

instance : Mounted Rehearsal.Stage where
  disk := Rehearsal.Stage.disk
  modified_eq _ _ := rfl
  isDir_eq _ _ := rfl
  isLink_eq _ _ := rfl
  removeFile_eq _ _ := rfl
  disk_removeFile _ _ := rfl
  createDirs_eq _ _ := rfl
  disk_createDirs _ _ := rfl

instance {W κ : Type} [Disk W] [Mounted W] : Mounted (Pool W κ) where
  disk pool := disk pool.world
  modified_eq pool path := modified_eq pool.world path
  isDir_eq pool path := isDir_eq pool.world path
  isLink_eq pool path := isLink_eq pool.world path
  removeFile_eq pool path := removeFile_eq pool.world path
  disk_removeFile pool path := disk_removeFile pool.world path
  createDirs_eq pool path := createDirs_eq pool.world path
  disk_createDirs pool path := disk_createDirs pool.world path

end Mounted

class Linking (W : Type) [Disk W] [Mounted W] : Prop where
  present_eq : ∀ (world : W) path, Disk.present world path = Disk.present (Mounted.disk world) path
  symlink_eq : ∀ (world : W) target link,
    (Disk.symlink world target link).1 = (Disk.symlink (Mounted.disk world) target link).1
  disk_symlink : ∀ (world : W) target link,
    Mounted.disk (Disk.symlink world target link).2 =
      (Disk.symlink (Mounted.disk world) target link).2

namespace Linking

instance : Linking VirtualDisk where
  present_eq _ _ := rfl
  symlink_eq _ _ _ := rfl
  disk_symlink _ _ _ := rfl

instance : Linking Rehearsal.Stage where
  present_eq _ _ := rfl
  symlink_eq _ _ _ := rfl
  disk_symlink _ _ _ := rfl

instance {W κ : Type} [Disk W] [Mounted W] [Linking W] : Linking (Pool W κ) where
  present_eq pool path := present_eq pool.world path
  symlink_eq pool target link := symlink_eq pool.world target link
  disk_symlink pool target link := disk_symlink pool.world target link

end Linking

namespace Freshness

variable {W : Type} [Disk W] [Mounted W]

theorem modified_mounted (world : W) (path : Path) :
    modified world path = modified (Mounted.disk world) path := by
  rw [modified, modified, Mounted.modified_eq]

theorem prerequisitesRuling_mounted {registry : Registry} (world : W)
    {ask other : Verdicts → Artifact → Ruling} (node : Artifact) (own : Option Nat)
    (same : ∀ id prerequisite, registry.get? id = some prerequisite → ∀ verdicts,
      ask verdicts prerequisite = other verdicts prerequisite)
    {prerequisites : List Prerequisite}
    (globFree : ∀ pattern, Prerequisite.glob pattern ∉ prerequisites) (verdicts : Verdicts)
    (dirty : Bool) :
    prerequisitesRuling registry world ask node own verdicts dirty prerequisites =
      prerequisitesRuling registry (Mounted.disk world) other node own verdicts dirty
        prerequisites := by
  induction prerequisites generalizing verdicts dirty with
  | nil => rfl
  | cons prerequisite rest ih =>
      have tail := ih fun pattern member => globFree pattern (by simp [member])
      cases prerequisite with
      | glob pattern => exact absurd List.mem_cons_self (globFree pattern)
      | node dep =>
          have head : prerequisiteRuling registry world ask node own verdicts dep =
              prerequisiteRuling registry (Mounted.disk world) other node own verdicts dep := by
            unfold prerequisiteRuling
            cases registered : registry.get? dep with
            | none =>
                simp only [sourceIsNewer, modified_mounted world, Mounted.isDir_eq world]
            | some prerequisite =>
                simp only [same dep prerequisite registered, modified_mounted world]
          simp only [prerequisitesRuling, head, tail]

theorem ruling_mounted {registry : Registry} (globFree : registry.GlobFree) (world : W)
    (depth : Nat) (underway : List NodeId) (verdicts : Verdicts) {node : Artifact}
    (registered : node ∈ registry.nodes) :
    ruling registry world depth underway verdicts node =
      ruling registry (Mounted.disk world) depth underway verdicts node := by
  induction depth generalizing underway verdicts node with
  | zero => simp only [ruling]
  | succ depth ih =>
      have evaluated : evaluate registry world
            (ruling registry world depth (node.id :: underway)) verdicts node =
          evaluate registry (Mounted.disk world)
            (ruling registry (Mounted.disk world) depth (node.id :: underway)) verdicts node := by
        unfold evaluate
        cases node.kind with
        | phony => rfl
        | directory => simp only [Mounted.isDir_eq world]
        | file =>
            dsimp only
            rw [modified_mounted world]
            split
            · rfl
            · refine prerequisitesRuling_mounted world node _ ?_ (globFree node registered) _ _
              intro id prerequisite known between
              exact ih _ _ (Registry.mem_of_find? known)
      simp only [ruling, evaluated]

theorem isDirty_mounted {registry : Registry} (globFree : registry.GlobFree) (world : W)
    (verdicts : Verdicts) (id : NodeId) :
    isDirty registry world verdicts id = isDirty registry (Mounted.disk world) verdicts id := by
  unfold isDirty
  split
  · rfl
  · rename_i node resolved
    have registered := Registry.mem_of_find? (Registry.find?_of_resolve resolved).2
    exact ruling_mounted globFree world _ _ _ registered

end Freshness

def Action.linkTarget? : Action → Option Path
  | .symlink target => some target
  | _ => Option.none

theorem Action.linkTarget?_eq_none {action : Action} :
    action.linkTarget? = Option.none ↔ ∀ target, action ≠ .symlink target := by
  cases action <;> simp [linkTarget?]

namespace Registry

def Unlinked (registry : Registry) : Prop :=
  ∀ node ∈ registry.nodes, ∀ target, node.action ≠ .symlink target

instance (action : Action) : Decidable (∀ target, action ≠ .symlink target) :=
  decidable_of_iff (action.linkTarget? = none) Action.linkTarget?_eq_none

instance (registry : Registry) : Decidable registry.Unlinked :=
  inferInstanceAs (Decidable (∀ node ∈ registry.nodes, _))

/-- Rules that can be told apart on disk: ids and prerequisites are plain, there are neither globs
nor links, and no file is a directory above another node. -/
structure Orderly (registry : Registry) : Prop where
  ids : ∀ node ∈ registry.nodes, NodeId.Plain node.id
  prerequisites : ∀ node ∈ registry.nodes, ∀ dep ∈ node.nodePrerequisites, NodeId.Plain dep
  globFree : registry.GlobFree
  unlinked : registry.Unlinked
  apart : ∀ node ∈ registry.nodes, node.kind = .file → ∀ other ∈ registry.nodes,
    ¬(NodeId.location node.id).Above (NodeId.location other.id)

theorem Orderly.canonical {registry : Registry} (orderly : registry.Orderly) :
    registry.Canonical where
  ids node member := (orderly.ids node member).spelled
  prerequisites node member dep needed := (orderly.prerequisites node member dep needed).spelled

end Registry

namespace Run

section Mounted

variable {W : Type} [Disk W] [Mounted W]

theorem outputTime_mounted (world : W) (node : Artifact) :
    outputTime world node = outputTime (Mounted.disk world) node := by
  unfold outputTime
  rw [Mounted.modified_eq world]

/-- The node's action, when it needs no command, does to the disk what it would do to the disk
alone. -/
def Mirrors (node : Artifact) (world : W) : Prop :=
  ((runInternal node world).1, Mounted.disk (runInternal node world).2.2) =
    ((runInternal node (Mounted.disk world)).1, (runInternal node (Mounted.disk world)).2.2)

theorem runInternal_mounted {node : Artifact} (unlinked : ∀ target, node.action ≠ .symlink target)
    (world : W) : Mirrors node world := by
  unfold Mirrors runInternal
  cases action : node.action with
  | none => rfl
  | symlink target => exact absurd action (unlinked target)
  | run commands => rfl
  | createDir =>
      have result := Mounted.createDirs_eq world node.path
      have disk := Mounted.disk_createDirs world node.path
      generalize Disk.createDirs world node.path = there at result disk ⊢
      generalize Disk.createDirs (Mounted.disk world) node.path = here at result disk ⊢
      obtain ⟨thereResult, there⟩ := there
      obtain ⟨hereResult, here⟩ := here
      dsimp only at result disk ⊢
      subst result
      cases thereResult <;> simp [disk]

theorem runInternal_linking [Linking W] (node : Artifact) (world : W) : Mirrors node world := by
  cases action : node.action with
  | none | createDir | run => exact runInternal_mounted (by simp [action]) world
  | symlink target =>
      unfold Mirrors runInternal
      rw [action]
      dsimp only
      rw [Linking.present_eq world]
      split
      · rfl
      · have result := Linking.symlink_eq world target node.path
        have disk := Linking.disk_symlink world target node.path
        generalize Disk.symlink world target node.path = there at result disk ⊢
        generalize Disk.symlink (Mounted.disk world) target node.path = here at result disk ⊢
        obtain ⟨thereResult, there⟩ := there
        obtain ⟨hereResult, here⟩ := here
        dsimp only at result disk ⊢
        subst result
        cases thereResult <;> simp [disk]

theorem discardLeftover_mounted (node : Artifact) (before : Option Nat) (world : W) :
    Mounted.disk (discardLeftover node before world).2 =
      (discardLeftover node before (Mounted.disk world)).2 := by
  have removed : Mounted.disk (removeLeftover node world).2 =
      (removeLeftover node (Mounted.disk world)).2 := by
    unfold removeLeftover
    have result := Mounted.removeFile_eq world node.path
    have disk := Mounted.disk_removeFile world node.path
    generalize Disk.removeFile world node.path = there at result disk ⊢
    generalize Disk.removeFile (Mounted.disk world) node.path = here at result disk ⊢
    obtain ⟨thereResult, there⟩ := there
    obtain ⟨hereResult, here⟩ := here
    dsimp only at result disk ⊢
    subst result
    cases thereResult <;> exact disk
  unfold discardLeftover
  cases node.kind with
  | directory => rfl
  | phony => rfl
  | file =>
      dsimp only
      rw [Mounted.modified_eq world, Mounted.isLink_eq world]
      split
      · rfl
      · split
        · exact removed
        · rfl
      · split
        · rfl
        · exact removed

end Mounted

end Run

structure Assignment where
  node : Artifact
  left : List Command

abbrev Assignments := NodeId → Option Assignment

def Assignments.none : Assignments := fun _ => Option.none

open Function in
theorem Assignments.of_update_none {tasks : Assignments} {id other : NodeId}
    {assignment : Assignment} (assigned : update tasks id Option.none other = some assignment) :
    tasks other = some assignment := by
  rw [update_apply] at assigned
  split_ifs at assigned
  exact assigned

structure Workplace where
  disk : VirtualDisk
  tasks : Assignments

/-- What commands do to the disk: `meddles` any number of times while they are carried out, and
`completes` when they end well. -/
structure Conduct where
  meddles : Invocation → VirtualDisk → VirtualDisk → Prop
  completes : Invocation → VirtualDisk → VirtualDisk → Prop

namespace Conduct

open Function Relation

inductive Works (conduct : Conduct) : Workplace → Workplace → Prop where
  | meddle {place : Workplace} {id : NodeId} {node : Artifact} {command : Command}
      {left : List Command} {disk : VirtualDisk}
      (assigned : place.tasks id = some ⟨node, command :: left⟩)
      (meddles : conduct.meddles ⟨node.id, node.kind, command⟩ place.disk disk) :
      Works conduct place { place with disk }
  | complete {place : Workplace} {id : NodeId} {node : Artifact} {command : Command}
      {left : List Command} {disk : VirtualDisk}
      (assigned : place.tasks id = some ⟨node, command :: left⟩)
      (completes : conduct.completes ⟨node.id, node.kind, command⟩ place.disk disk) :
      Works conduct place ⟨disk, update place.tasks id (some ⟨node, left⟩)⟩

theorem works_of_meddles {conduct : Conduct} {tasks : Assignments} {id : NodeId} {node : Artifact}
    {command : Command} {left : List Command} {disk after : VirtualDisk}
    (assigned : tasks id = some ⟨node, command :: left⟩)
    (meddles : ReflTransGen (conduct.meddles ⟨node.id, node.kind, command⟩) disk after) :
    ReflTransGen conduct.Works ⟨disk, tasks⟩ ⟨after, tasks⟩ := by
  induction meddles with
  | refl => exact .refl
  | @tail between next _ step ih =>
      have works : conduct.Works ⟨between, tasks⟩ ⟨next, tasks⟩ := .meddle assigned step
      exact ih.tail works

theorem works_isSome {conduct : Conduct} {place after : Workplace}
    (works : ReflTransGen conduct.Works place after) (id : NodeId) :
    (after.tasks id).isSome = (place.tasks id).isSome := by
  induction works with
  | refl => rfl
  | tail _ step ih =>
      rw [← ih]
      cases step with
      | meddle => rfl
      | complete assigned _ =>
          dsimp only
          rw [update_apply]
          split_ifs with same
          · rw [same, assigned]
            rfl
          · rfl

end Conduct

open Relation in
structure Executor.Follows {W : Type} [Disk W] [Mounted W] (conduct : Conduct)
    (executor : Executor W) : Prop where
  success : ∀ invocation world, (executor.execute invocation world).1 = .success →
    ∃ between, ReflTransGen (conduct.meddles invocation) (Mounted.disk world) between ∧
      conduct.completes invocation between (Mounted.disk (executor.execute invocation world).2)
  trouble : ∀ invocation world, (executor.execute invocation world).1 ≠ .success →
    ReflTransGen (conduct.meddles invocation) (Mounted.disk world)
      (Mounted.disk (executor.execute invocation world).2)

open Function Relation in
/-- A crew that carries out the tasks it was given, and nothing else. `stands` says what is left of
them. -/
structure Crew.Follows {V : Type} [Disk V] [Mounted V] (conduct : Conduct)
    (stands : V → Assignments → Prop) (crew : Crew V) : Prop where
  start : ∀ world tasks node, stands world tasks → tasks node.id = none →
    ∃ after,
      ReflTransGen conduct.Works
        ⟨Mounted.disk world, update tasks node.id (some ⟨node, Run.commandsOf node.action⟩)⟩
        ⟨Mounted.disk (crew.start node world), after⟩ ∧
      stands (crew.start node world) after
  meanwhile : ∀ world tasks, stands world tasks →
    ∃ after,
      ReflTransGen conduct.Works ⟨Mounted.disk world, tasks⟩
        ⟨Mounted.disk (crew.meanwhile world), after⟩ ∧
      stands (crew.meanwhile world) after
  join : ∀ world tasks running busy, stands world tasks → running.Nodup →
    (∀ id, (tasks id).isSome ↔ id ∈ running) →
      let joined := crew.join running busy world
      ∃ after,
        ReflTransGen conduct.Works ⟨Mounted.disk world, tasks⟩
          ⟨Mounted.disk joined.world, after⟩ ∧
        stands joined.world (update after (running.get joined.index) none) ∧
        (joined.result = .succeeded → ∃ node, after (running.get joined.index) = some ⟨node, []⟩)
  removeFile : ∀ world tasks path, stands world tasks →
    stands (Disk.removeFile world path).2 tasks
  createDirs : ∀ world tasks path, stands world tasks →
    stands (Disk.createDirs world path).2 tasks

structure Crew.Upholds {V : Type} [Disk V] [Mounted V] (conduct : Conduct)
    (stands : V → Assignments → Prop) (crew : Crew V) : Prop
    extends crew.Follows conduct stands where
  symlink : ∀ world tasks target link, stands world tasks →
    stands (Disk.symlink world target link).2 tasks

structure Staff.Follows {W V : Type} [Disk W] [Mounted W] [Disk V] [Mounted V] (conduct : Conduct)
    (staff : Staff W V) : Prop where
  executor : staff.executor.Follows conduct
  crew : ∃ stands, staff.crew.Follows conduct stands ∧
    ∀ world, stands (staff.gather world) Assignments.none
  gather : ∀ world, Mounted.disk (staff.gather world) = Mounted.disk world
  dismiss : ∀ world, Mounted.disk (staff.dismiss world).1 = Mounted.disk world

/-- Staff of which everybody follows the conduct, also where links are made. -/
structure Staff.Upholds {W V : Type} [Disk W] [Mounted W] [Disk V] [Mounted V] (conduct : Conduct)
    (staff : Staff W V) : Prop where
  executor : staff.executor.Follows conduct
  crew : ∃ stands, staff.crew.Upholds conduct stands ∧
    ∀ world, stands (staff.gather world) Assignments.none
  gather : ∀ world, Mounted.disk (staff.gather world) = Mounted.disk world
  dismiss : ∀ world, Mounted.disk (staff.dismiss world).1 = Mounted.disk world

namespace Run

open Function Relation

theorem runCommands_works {W : Type} [Disk W] [Mounted W] {conduct : Conduct}
    {executor : Executor W} (follows : executor.Follows conduct) {tasks : Assignments}
    {node : Artifact} (commands : List Command) (world : W) :
    ∃ left,
      ReflTransGen conduct.Works
        ⟨Mounted.disk world, update tasks node.id (some ⟨node, commands⟩)⟩
        ⟨Mounted.disk (runCommands executor node commands world).2.2,
          update tasks node.id (some ⟨node, left⟩)⟩ ∧
      ((runCommands executor node commands world).1 = .succeeded → left = []) := by
  -- On the commands that are left: each that goes well is one work step, and trouble leaves what
  -- the executor has meddled with.
  induction commands generalizing world with
  | nil => exact ⟨[], .refl, fun _ => rfl⟩
  | cons command rest ih =>
      have success := follows.success ⟨node.id, node.kind, command⟩ world
      have trouble := follows.trouble ⟨node.id, node.kind, command⟩ world
      rw [runCommands]
      generalize executor.execute ⟨node.id, node.kind, command⟩ world = executed
        at success trouble ⊢
      obtain ⟨reply, after⟩ := executed
      dsimp only at success trouble ⊢
      have assigned : update tasks node.id (some ⟨node, command :: rest⟩) node.id =
          some ⟨node, command :: rest⟩ := update_self ..
      cases reply with
      | success =>
          obtain ⟨between, meddled, completed⟩ := success rfl
          obtain ⟨left, later, finished⟩ := ih after
          refine ⟨left, ?_, finished⟩
          have done : conduct.Works ⟨between, update tasks node.id (some ⟨node, command :: rest⟩)⟩
              ⟨Mounted.disk after,
                update (update tasks node.id (some ⟨node, command :: rest⟩)) node.id
                  (some ⟨node, rest⟩)⟩ :=
            .complete assigned completed
          rw [update_idem] at done
          exact ((Conduct.works_of_meddles assigned meddled).tail done).trans later
      | exited status =>
          exact ⟨_, Conduct.works_of_meddles assigned (trouble nofun), nofun⟩
      | refused failure =>
          exact ⟨_, Conduct.works_of_meddles assigned (trouble nofun), nofun⟩
      | crashed =>
          exact ⟨_, Conduct.works_of_meddles assigned (trouble nofun), nofun⟩

end Run

def Worker.Prompt {W κ : Type} (worker : Worker W κ) : Prop :=
  ∀ invocation world, ∃ reply after,
    worker.finish? (worker.begin invocation world).1 (worker.begin invocation world).2 =
      some (reply, after)

namespace Pool

open Function Relation

variable {W κ : Type}

def ids (pool : Pool W κ) : List NodeId :=
  pool.queue.map (fun task => task.node.id) ++ pool.ended.map Prod.fst

structure Keeps (pool : Pool W κ) (tasks : Assignments) : Prop where
  free : pool.held = []
  fresh : ∀ task ∈ pool.queue,
    task.ticket = none ∧ tasks task.node.id = some ⟨task.node, task.commands⟩
  ended : ∀ id result, (id, result) ∈ pool.ended → ∃ node left,
    tasks id = some ⟨node, left⟩ ∧ (result = .succeeded → left = [])
  distinct : pool.ids.Nodup

def Stands (pool : Pool W κ) (tasks : Assignments) : Prop :=
  pool.Keeps tasks ∧ ∀ id, (tasks id).isSome → id ∈ pool.ids

theorem stands_idle (world : W) : ({ world } : Pool W κ).Stands fun _ => none :=
  ⟨⟨rfl, by simp, by simp, List.nodup_nil⟩, by simp⟩

theorem Stands.of_world {pool : Pool W κ} {tasks : Assignments} (stands : pool.Stands tasks)
    (world : W) : ({ pool with world } : Pool W κ).Stands tasks :=
  ⟨⟨stands.1.free, stands.1.fresh, stands.1.ended, stands.1.distinct⟩, stands.2⟩

theorem release_free (world : W) (queue : List (Task κ)) (ended : List (NodeId × TaskResult))
    (taken : Nat) (trace : List Event) :
    (Pool.mk world queue [] ended taken trace).release =
      ⟨world, queue, [], ended, taken, trace⟩ := by
  rw [release, List.append_nil]

theorem work_eq {worker : Worker W κ} (prompt : worker.Prompt) (node : Artifact)
    (commands : List Command) {pool : Pool W κ} (free : pool.held = []) :
    ∃ trace, work worker node commands pool =
      { pool with
        world := (Run.runCommands worker.executor node commands pool.world).2.2
        ended := pool.ended ++
          [(node.id, (Run.runCommands worker.executor node commands pool.world).1)]
        trace } := by
  induction commands generalizing pool with
  | nil => exact ⟨pool.trace, rfl⟩
  | cons command rest ih =>
      obtain ⟨world, queue, held, ended, taken, trace⟩ := pool
      dsimp only at free
      subst free
      obtain ⟨reply, after, finished⟩ := prompt ⟨node.id, node.kind, command⟩ world
      have executes : worker.executor.execute ⟨node.id, node.kind, command⟩ world =
          (reply, after) := by
        simp only [Worker.executor, finished]
      rw [work, Run.runCommands, executes]
      dsimp only [noteAll]
      rw [finished]
      cases reply with
      | success =>
          dsimp only [respond]
          rw [release_free]
          exact ih rfl
      | exited status =>
          dsimp only [respond]
          rw [release_free]
          exact ⟨_, rfl⟩
      | refused failure =>
          dsimp only [respond]
          rw [release_free]
          exact ⟨_, rfl⟩
      | crashed => exact ⟨_, rfl⟩

variable [Disk W] [Mounted W]

structure Passes (conduct : Conduct) (pool next : Pool W κ) (tasks after : Assignments) : Prop where
  works : ReflTransGen conduct.Works ⟨Mounted.disk pool, tasks⟩ ⟨Mounted.disk next, after⟩
  keeps : next.Keeps after
  same : next.ids.Perm pool.ids
  elsewhere : ∀ id, id ∉ pool.queue.map (fun task => task.node.id) → after id = tasks id
  queue : next.queue <:+ pool.queue
  ended : pool.ended <+: next.ended

theorem Passes.refl {conduct : Conduct} {pool : Pool W κ} {tasks : Assignments}
    (keeps : pool.Keeps tasks) : Passes conduct pool pool tasks tasks :=
  ⟨.refl, keeps, .refl _, fun _ _ => rfl, List.suffix_refl _, List.prefix_refl _⟩

theorem Passes.trans {conduct : Conduct} {first second third : Pool W κ}
    {tasks between after : Assignments} (passes : Passes conduct first second tasks between)
    (later : Passes conduct second third between after) :
    Passes conduct first third tasks after where
  works := passes.works.trans later.works
  keeps := later.keeps
  same := later.same.trans passes.same
  elsewhere := by
    intro id absent
    have absentLater : id ∉ second.queue.map fun task => task.node.id :=
      fun member => absent ((passes.queue.sublist.map _).subset member)
    rw [later.elsewhere id absentLater, passes.elsewhere id absent]
  queue := later.queue.trans passes.queue
  ended := passes.ended.trans later.ended

theorem Passes.stands {conduct : Conduct} {pool next : Pool W κ} {tasks after : Assignments}
    (passes : Passes conduct pool next tasks after)
    (all : ∀ id, (tasks id).isSome → id ∈ pool.ids) : next.Stands after := by
  refine ⟨passes.keeps, ?_⟩
  intro id assigned
  have before := Conduct.works_isSome passes.works id
  exact passes.same.mem_iff.mpr (all id (before ▸ assigned))

variable {conduct : Conduct} {worker : Worker W κ}

theorem turn_passes (follows : worker.executor.Follows conduct) (prompt : worker.Prompt)
    {pool : Pool W κ} {task : Task κ} {queue : List (Task κ)} (queued : pool.queue = task :: queue)
    {tasks : Assignments} (keeps : pool.Keeps tasks) :
    ∃ after, Passes conduct pool (turn worker { pool with queue } task) tasks after ∧
      (turn worker { pool with queue } task).ended ≠ [] := by
  obtain ⟨unbegun, assigned⟩ := keeps.fresh task (by simp [queued])
  obtain ⟨left, works, finished⟩ := Run.runCommands_works follows task.commands pool.world
  have free : (Pool.noteAll { pool with queue } [.building task.node.id]).held = [] := keeps.free
  obtain ⟨trace, worked⟩ := work_eq prompt task.node task.commands free
  have unchanged : update tasks task.node.id (some ⟨task.node, task.commands⟩) = tasks := by
    rw [← assigned]
    exact update_eq_self ..
  rw [unchanged] at works
  unfold turn
  rw [unbegun]
  dsimp only
  rw [worked]
  have distinct := keeps.distinct
  rw [ids, queued, List.map_cons, List.cons_append, List.nodup_cons] at distinct
  have same : (queue.map (fun task => task.node.id) ++
      (pool.ended ++ [(task.node.id,
        (Run.runCommands worker.executor task.node task.commands pool.world).1)]).map
          Prod.fst).Perm pool.ids := by
    rw [ids, queued, List.map_append, List.map_cons, List.map_cons, List.map_nil,
      ← List.append_assoc]
    exact List.perm_append_singleton _ _
  -- The ids of a pool are distinct, so that the turn of one task leaves the assignments of all
  -- others.
  have others : ∀ id, id ∈ queue.map (fun task => task.node.id) ++ pool.ended.map Prod.fst →
      update tasks task.node.id (some ⟨task.node, left⟩) id = tasks id := by
    intro id member
    refine update_of_ne ?_ ..
    rintro rfl
    exact distinct.1 member
  refine ⟨update tasks task.node.id (some ⟨task.node, left⟩), ⟨works, ?_, same, ?_, ?_, ?_⟩, ?_⟩
  · refine ⟨keeps.free, ?_, ?_, same.nodup_iff.mpr keeps.distinct⟩
    · intro other member
      rw [others _ (List.mem_append_left _ (List.mem_map_of_mem member))]
      exact keeps.fresh other (by rw [queued]; exact List.mem_cons_of_mem _ member)
    · intro id result member
      rcases List.mem_append.mp member with earlier | own
      · rw [others _ (List.mem_append_right _ (List.mem_map.mpr ⟨_, earlier, rfl⟩))]
        exact keeps.ended id result earlier
      · obtain ⟨rfl, rfl⟩ := Prod.mk.injEq .. ▸ List.mem_singleton.mp own
        exact ⟨task.node, left, update_self .., finished⟩
  · intro id absent
    refine update_of_ne ?_ ..
    rintro rfl
    exact absent (by simp [queued])
  · rw [queued]
    exact List.suffix_cons ..
  · exact List.prefix_append ..
  · simp

theorem Passes.ended_ne_nil {pool next : Pool W κ} {tasks after : Assignments}
    (passes : Passes conduct pool next tasks after) (some_ : pool.ended ≠ []) :
    next.ended ≠ [] := by
  intro none
  have length := passes.ended.length_le
  rw [none] at length
  exact some_ (List.length_eq_zero_iff.mp (Nat.le_zero.mp length))

theorem turns_passes (follows : worker.executor.Follows conduct) (prompt : worker.Prompt)
    (fuel : Nat) {pool : Pool W κ} {tasks : Assignments} (keeps : pool.Keeps tasks) :
    ∃ after, Passes conduct pool (turns worker fuel pool) tasks after ∧
      (0 < fuel → pool.queue ≠ [] → (turns worker fuel pool).ended ≠ []) := by
  induction fuel generalizing pool tasks with
  | zero => exact ⟨tasks, .refl keeps, nofun⟩
  | succ fuel ih =>
      rw [turns]
      cases queued : pool.queue with
      | nil => exact ⟨tasks, .refl keeps, fun _ busy => absurd rfl busy⟩
      | cons task queue =>
          obtain ⟨between, passes, ended⟩ := turn_passes follows prompt queued keeps
          obtain ⟨after, later, _⟩ := ih passes.keeps
          exact ⟨after, passes.trans later, fun _ _ => later.ended_ne_nil ended⟩

theorem shifts_passes (follows : worker.executor.Follows conduct) (prompt : worker.Prompt)
    (fuel : Nat) {pool : Pool W κ} {tasks : Assignments} (keeps : pool.Keeps tasks) :
    ∃ after, Passes conduct pool (shifts worker fuel pool) tasks after ∧
      (0 < fuel → pool.queue ≠ [] → (shifts worker fuel pool).ended ≠ []) := by
  induction fuel generalizing pool tasks with
  | zero => exact ⟨tasks, .refl keeps, nofun⟩
  | succ fuel ih =>
      rw [shifts]
      split
      · rename_i idle
        exact ⟨tasks, .refl keeps, fun _ busy => absurd (List.isEmpty_iff.mp idle) busy⟩
      · obtain ⟨between, passes, ended⟩ := turns_passes follows prompt shift keeps
        dsimp only
        split
        · rename_i noneEnded
          obtain ⟨after, later, _⟩ := ih passes.keeps
          refine ⟨after, passes.trans later, fun _ busy => ?_⟩
          exact absurd (List.isEmpty_iff.mp noneEnded) (ended (by decide) busy)
        · exact ⟨between, passes, fun _ busy => ended (by decide) busy⟩

theorem drain_passes (follows : worker.executor.Follows conduct) (prompt : worker.Prompt)
    {pool : Pool W κ} {tasks : Assignments} (stands : pool.Stands tasks) :
    ∃ after, ReflTransGen conduct.Works ⟨Mounted.disk pool, tasks⟩
        ⟨Mounted.disk (drain worker pool), after⟩ ∧
      (drain worker pool).Stands after ∧
      (pool.queue ≠ [] → (drain worker pool).ended ≠ []) := by
  have rested : ({ pool with taken := 0 } : Pool W κ).Keeps tasks :=
    ⟨stands.1.free, stands.1.fresh, stands.1.ended, stands.1.distinct⟩
  obtain ⟨after, passes, ended⟩ := shifts_passes follows prompt
    ((pool.load + 1) * (pool.queue.length + pool.held.length + 1)) rested
  exact ⟨after, passes.works, passes.stands stands.2,
    fun busy => ended (Nat.mul_pos (Nat.succ_pos _) (Nat.succ_pos _)) busy⟩

theorem makeWay_passes (follows : worker.executor.Follows conduct) (prompt : worker.Prompt)
    {pool : Pool W κ} {tasks : Assignments} (stands : pool.Stands tasks)
    {first : NodeId × TaskResult}
    {rest : List (NodeId × TaskResult)} (ended : pool.ended = first :: rest) :
    ∃ after, ReflTransGen conduct.Works ⟨Mounted.disk pool, tasks⟩
        ⟨Mounted.disk (makeWay worker pool), after⟩ ∧
      (makeWay worker pool).Stands after ∧ (makeWay worker pool).ended ≠ [] := by
  have all :
      pool.ids.Perm (first.1 :: ({ pool with ended := rest, taken := 0 } : Pool W κ).ids) := by
    rw [ids, ids, ended, List.map_cons]
    exact List.perm_middle
  have distinct := all.nodup_iff.mp stands.1.distinct
  rw [List.nodup_cons] at distinct
  have rested : ({ pool with ended := rest, taken := 0 } : Pool W κ).Keeps tasks := by
    refine ⟨stands.1.free, stands.1.fresh, ?_, distinct.2⟩
    intro id result member
    exact stands.1.ended id result (by rw [ended]; exact List.mem_cons_of_mem _ member)
  -- The first result is put aside while others take their turns, and comes back last.
  obtain ⟨after, passes, _⟩ := turns_passes follows prompt shift rested
  have made : makeWay worker pool =
      { turns worker shift { pool with ended := rest, taken := 0 } with
        ended :=
          (turns worker shift { pool with ended := rest, taken := 0 }).ended ++ [first] } := by
    simp [makeWay, ended]
  rw [made]
  have same : (({ turns worker shift { pool with ended := rest, taken := 0 } with
      ended := (turns worker shift { pool with ended := rest, taken := 0 }).ended ++ [first] } :
        Pool W κ).ids).Perm pool.ids := by
    rw [ids, List.map_append, ← List.append_assoc]
    refine (List.perm_append_singleton _ _).trans (.trans ?_ all.symm)
    exact passes.same.cons _
  have untouched : after first.1 = tasks first.1 :=
    passes.elsewhere first.1 fun member => distinct.1 (List.mem_append_left _ member)
  refine ⟨after, passes.works, ⟨⟨passes.keeps.free, passes.keeps.fresh, ?_, ?_⟩, ?_⟩, by simp⟩
  · intro id result member
    rcases List.mem_append.mp member with earlier | last
    · exact passes.keeps.ended id result earlier
    · rw [List.mem_singleton] at last
      subst last
      rw [untouched]
      exact stands.1.ended id result (by rw [ended]; exact List.mem_cons_self)
  · exact same.nodup_iff.mpr stands.1.distinct
  · intro id assigned
    have before := Conduct.works_isSome passes.works id
    exact same.mem_iff.mpr (stands.2 id (before ▸ assigned))

omit [Disk W] [Mounted W] in
theorem stands_taken {pool : Pool W κ} {tasks : Assignments} (stands : pool.Stands tasks)
    {id : NodeId} {result : TaskResult} {rest : List (NodeId × TaskResult)}
    (ended : pool.ended = (id, result) :: rest) (taken : Nat) :
    ({ pool with ended := rest, taken } : Pool W κ).Stands (update tasks id none) := by
  have all : pool.ids.Perm (id :: ({ pool with ended := rest, taken } : Pool W κ).ids) := by
    rw [ids, ids, ended, List.map_cons]
    exact List.perm_middle
  have distinct := all.nodup_iff.mp stands.1.distinct
  rw [List.nodup_cons] at distinct
  have others : ∀ other ∈ ({ pool with ended := rest, taken } : Pool W κ).ids,
      update tasks id none other = tasks other := by
    intro other member
    refine update_of_ne ?_ ..
    rintro rfl
    exact distinct.1 member
  refine ⟨⟨stands.1.free, ?_, ?_, distinct.2⟩, ?_⟩
  · intro task member
    rw [others _ (List.mem_append_left _ (List.mem_map_of_mem member))]
    exact stands.1.fresh task member
  · intro other otherResult member
    rw [others _ (List.mem_append_right _ (List.mem_map.mpr ⟨_, member, rfl⟩))]
    exact stands.1.ended other otherResult (by rw [ended]; exact List.mem_cons_of_mem _ member)
  · intro other assigned
    by_cases same : other = id
    · rw [same, update_self] at assigned
      cases assigned
    · rw [update_of_ne same] at assigned
      have member := all.mem_iff.mp (stands.2 other assigned)
      exact (List.mem_cons.mp member).resolve_left same

theorem get_finIdxOf?_getD {running : List NodeId} {id : NodeId} (member : id ∈ running)
    (first : Fin running.length) : running.get ((running.finIdxOf? id).getD first) = id := by
  cases found : running.finIdxOf? id with
  | none => exact absurd member (List.finIdxOf?_eq_none_iff.mp found)
  | some index => exact eq_of_beq (by simpa using (List.finIdxOf?_eq_some_iff.mp found).1)

theorem join_passes (follows : worker.executor.Follows conduct) (prompt : worker.Prompt)
    {pool : Pool W κ} {tasks : Assignments} (stands : pool.Stands tasks)
    {running : List NodeId} (busy : running ≠ [])
    (known : ∀ id, (tasks id).isSome ↔ id ∈ running) :
    ∃ after id result rest taken ready,
      ReflTransGen conduct.Works ⟨Mounted.disk pool, tasks⟩ ⟨Mounted.disk ready, after⟩ ∧
      Stands ready after ∧ ready.ended = (id, result) :: rest ∧ id ∈ running ∧
      (join worker running busy pool).result = result ∧
      running.get (join worker running busy pool).index = id ∧
      (join worker running busy pool).world = { ready with ended := rest, taken } := by
  -- Which task is taken, once one has ended.
  have finish : ∀ {ready : Pool W κ} {after : Assignments},
      (if pool.ended.isEmpty then drain worker pool
        else if patience ≤ pool.taken then makeWay worker pool else pool) = ready →
      ReflTransGen conduct.Works ⟨Mounted.disk pool, tasks⟩ ⟨Mounted.disk ready, after⟩ →
      Stands ready after → ready.ended ≠ [] →
      ∃ after id result rest taken ready,
        ReflTransGen conduct.Works ⟨Mounted.disk pool, tasks⟩ ⟨Mounted.disk ready, after⟩ ∧
        Stands ready after ∧ ready.ended = (id, result) :: rest ∧ id ∈ running ∧
        (join worker running busy pool).result = result ∧
        running.get (join worker running busy pool).index = id ∧
        (join worker running busy pool).world = { ready with ended := rest, taken } := by
    intro ready after chosen works standing some_
    cases ended : ready.ended with
    | nil => exact absurd ended some_
    | cons entry rest =>
        obtain ⟨id, result⟩ := entry
        have member : id ∈ running := by
          obtain ⟨node, left, assigned, _⟩ :=
            standing.1.ended id result (by rw [ended]; exact List.mem_cons_self)
          rw [← known, ← Conduct.works_isSome works id]
          exact Option.isSome_iff_exists.mpr ⟨_, assigned⟩
        have joined : join worker running busy pool =
            ⟨(running.finIdxOf? id).getD (oldestTask running busy), result,
              { ready with ended := rest, taken := ready.taken + 1 }⟩ := by
          unfold join
          dsimp only
          rw [chosen, ended]
        refine ⟨after, id, result, rest, ready.taken + 1, ready, works, standing, ended, member, ?_⟩
        rw [joined]
        exact ⟨rfl, get_finIdxOf?_getD member _, rfl⟩
  by_cases idle : pool.ended = []
  · obtain ⟨after, works, standing, ended⟩ := drain_passes follows prompt stands
    refine finish (if_pos (by simp [idle])) works standing (ended ?_)
    intro empty
    obtain ⟨id, member⟩ := List.exists_mem_of_ne_nil running busy
    have listed := stands.2 id ((known id).mpr member)
    rw [ids, empty, idle] at listed
    cases listed
  · have some_ : pool.ended.isEmpty = false := by simpa using idle
    by_cases long : patience ≤ pool.taken
    · obtain ⟨first, rest, ended⟩ := List.exists_cons_of_ne_nil idle
      obtain ⟨after, works, standing, left⟩ := makeWay_passes follows prompt stands ended
      exact finish (by rw [some_, if_pos long]; rfl) works standing left
    · exact finish (by rw [some_, if_neg long]; rfl) .refl stands idle

theorem crew_follows (follows : worker.executor.Follows conduct) (prompt : worker.Prompt) :
    (Pool.crew worker).Follows conduct Stands where
  start := by
    intro pool tasks node stands idle
    -- A node without an assignment has no place in the pool, neither waiting nor ended.
    have fresh : node.id ∉ pool.ids := by
      intro member
      rcases List.mem_append.mp member with queued | ended
      · obtain ⟨task, listed, named⟩ := List.mem_map.mp queued
        have assigned := (stands.1.fresh task listed).2
        rw [named, idle] at assigned
        cases assigned
      · obtain ⟨⟨id, result⟩, listed, named⟩ := List.mem_map.mp ended
        obtain ⟨_, _, assigned, _⟩ := stands.1.ended id result listed
        rw [show id = node.id from named, idle] at assigned
        cases assigned
    have all : ((Pool.crew worker).start node pool).ids.Perm (node.id :: pool.ids) := by
      show (List.map _ (pool.queue ++ [_]) ++ _).Perm _
      rw [List.map_append, List.append_assoc]
      exact List.perm_middle
    have others : ∀ other ∈ pool.ids, update tasks node.id
        (some ⟨node, Run.commandsOf node.action⟩) other = tasks other := by
      intro other member
      refine update_of_ne ?_ ..
      rintro rfl
      exact fresh member
    refine ⟨_, .refl, ⟨stands.1.free, ?_, ?_, ?_⟩, ?_⟩
    · intro task member
      rcases List.mem_append.mp member with earlier | own
      · rw [others _ (List.mem_append_left _ (List.mem_map_of_mem earlier))]
        exact stands.1.fresh task earlier
      · rw [List.mem_singleton] at own
        subst own
        exact ⟨rfl, update_self ..⟩
    · intro id result member
      rw [others _ (List.mem_append_right _ (List.mem_map.mpr ⟨_, member, rfl⟩))]
      exact stands.1.ended id result member
    · exact all.nodup_iff.mpr (List.nodup_cons.mpr ⟨fresh, stands.1.distinct⟩)
    · intro id assigned
      rw [all.mem_iff, List.mem_cons]
      by_cases same : id = node.id
      · exact .inl same
      · rw [update_of_ne same] at assigned
        exact .inr (stands.2 id assigned)
  meanwhile _ tasks stands := ⟨tasks, .refl, stands⟩
  join := by
    intro pool tasks running busy stands _ known
    obtain ⟨after, id, result, rest, taken, ready, works, standing, ended, _, gives, index,
      world⟩ := join_passes follows prompt stands busy known
    dsimp only
    have joins : (Pool.crew worker).join running busy pool = join worker running busy pool := rfl
    rw [joins, index, world, gives]
    refine ⟨after, works, stands_taken standing ended taken, ?_⟩
    intro succeeded
    obtain ⟨node, left, assigned, finished⟩ :=
      standing.1.ended id result (by rw [ended]; exact List.mem_cons_self)
    exact ⟨node, by rw [assigned, finished succeeded]⟩
  removeFile _ _ _ stands := stands.of_world _
  createDirs _ _ _ stands := stands.of_world _

end Pool

theorem Worker.staff_follows {W κ : Type} [Disk W] [Mounted W] {conduct : Conduct}
    {worker : Worker W κ} (follows : worker.executor.Follows conduct) (prompt : worker.Prompt) :
    worker.staff.Follows conduct where
  executor := follows
  crew := ⟨Pool.Stands, Pool.crew_follows follows prompt, Pool.stands_idle⟩
  gather _ := rfl
  dismiss _ := rfl

theorem Worker.staff_upholds {W κ : Type} [Disk W] [Mounted W] {conduct : Conduct}
    {worker : Worker W κ} (follows : worker.executor.Follows conduct) (prompt : worker.Prompt) :
    worker.staff.Upholds conduct where
  executor := follows
  crew := ⟨Pool.Stands,
    { Pool.crew_follows follows prompt with
      symlink := fun _ _ _ _ stands => stands.of_world _ },
    Pool.stands_idle⟩
  gather _ := rfl
  dismiss _ := rfl

open VirtualDisk

def Artifact.location (node : Artifact) : Location :=
  NodeId.location node.id

/-- What happened on the disk can be put down to one node: something was put at its place, and
directories were made there or above it. -/
structure Artifact.Touches (node : Artifact) (site base : Option Location)
    (before after : VirtualDisk) : Prop extends Grows site base before after where
  site_own : ∀ loc, site = some loc → loc = node.location
  base_near : ∀ dir, base = some dir → dir = node.location ∨ node.location.dir? = some dir

namespace Registry

variable {registry : Registry} {node other : Artifact}

theorem Orderly.location_inj (orderly : registry.Orderly) (member : node ∈ registry.nodes)
    (otherMember : other ∈ registry.nodes) (same : node.location = other.location) :
    node.id = other.id :=
  (orderly.ids node member).location_inj (orderly.ids other otherMember) same

theorem Orderly.location_ne_source (orderly : registry.Orderly) {user : Artifact}
    (userMember : user ∈ registry.nodes) {dep : NodeId} (needed : dep ∈ user.nodePrerequisites)
    (unregistered : registry.find? dep = none) (found : registry.find? node.id = some node) :
    NodeId.location dep ≠ node.location := by
  intro same
  have equal := (orderly.prerequisites user userMember dep needed).location_inj
    (orderly.ids node (mem_of_find? found)) same
  rw [equal, found] at unregistered
  cases unregistered

theorem Orderly.not_opens (orderly : registry.Orderly) (member : node ∈ registry.nodes)
    (otherMember : other ∈ registry.nodes) (kind : other.kind = .file) (apart : other.id ≠ node.id)
    {disk : VirtualDisk} {dir : Location}
    (near : dir = node.location ∨ node.location.dir? = some dir) :
    ¬disk.Opens dir other.location := by
  intro opens
  refine orderly.apart other otherMember kind node member ?_
  rcases near with rfl | listed
  · refine ⟨opens.1, fun same => apart ?_⟩
    exact orderly.location_inj otherMember member same
  · exact Location.above_iff_holds_dir.mpr ⟨dir, listed, opens.1⟩

end Registry

namespace Artifact.Touches

variable {registry : Registry} {node other : Artifact} {site base : Option Location}
  {before after : VirtualDisk}

theorem elsewhere (touches : node.Touches site base before after) (orderly : registry.Orderly)
    (member : node ∈ registry.nodes) (otherMember : other ∈ registry.nodes)
    (kind : other.kind = .file) (apart : other.id ≠ node.id) :
    after.bare? other.location = before.bare? other.location := by
  have different : site ≠ some other.location := fun here =>
    apart (orderly.location_inj otherMember member (touches.site_own _ here))
  by_cases absent : before.bare? other.location = none
  · rw [absent]
    refine touches.left _ different absent fun dir isBase => ?_
    exact orderly.not_opens member otherMember kind apart (touches.base_near dir isBase)
  · exact touches.kept _ different absent

theorem source (touches : node.Touches site base before after) (orderly : registry.Orderly)
    (found : registry.find? node.id = some node) {user : Artifact}
    (userMember : user ∈ registry.nodes) {dep : NodeId} (needed : dep ∈ user.nodePrerequisites)
    (unregistered : registry.find? dep = none)
    (present : before.bare? (NodeId.location dep) ≠ none) :
    after.bare? (NodeId.location dep) = before.bare? (NodeId.location dep) := by
  refine touches.kept _ (fun here => ?_) present
  exact orderly.location_ne_source userMember needed unregistered found (touches.site_own _ here)

end Artifact.Touches

structure Artifact.Spares (registry : Registry) (node : Artifact) (before after : VirtualDisk) :
    Prop where
  files : ∀ other ∈ registry.nodes, other.kind = .file → other.id ≠ node.id →
    after.bare? other.location = before.bare? other.location
  sources : ∀ user ∈ registry.nodes, ∀ dep ∈ user.nodePrerequisites, registry.find? dep = none →
    before.bare? (NodeId.location dep) ≠ none →
      after.bare? (NodeId.location dep) = before.bare? (NodeId.location dep)
  clock : before.clock ≤ after.clock

namespace Artifact

variable {registry : Registry} {node : Artifact}

theorem spares_refl (registry : Registry) (node : Artifact) (disk : VirtualDisk) :
    node.Spares registry disk disk where
  files := fun _ _ _ _ => rfl
  sources := fun _ _ _ _ _ _ => rfl
  clock := Nat.le_refl _

theorem Touches.spares {site base : Option Location} {before after : VirtualDisk}
    (touches : node.Touches site base before after) (orderly : registry.Orderly)
    (found : registry.find? node.id = some node) : node.Spares registry before after where
  files := fun _ otherMember kind apart =>
    touches.elsewhere orderly (Registry.mem_of_find? found) otherMember kind apart
  sources := fun _ userMember _ needed unregistered present =>
    touches.source orderly found userMember needed unregistered present
  clock := touches.clock

theorem spares_remove (orderly : registry.Orderly) (found : registry.find? node.id = some node)
    (disk : VirtualDisk) : node.Spares registry disk (disk.remove node.path) where
  files := by
    intro other otherMember kind apart
    have different : other.location ≠ .ofPath node.path := fun same =>
      apart (orderly.location_inj otherMember (Registry.mem_of_find? found) same)
    rw [bare?_remove, if_neg different]
  sources := by
    intro user userMember dep needed unregistered _
    have different : NodeId.location dep ≠ .ofPath node.path :=
      orderly.location_ne_source userMember needed unregistered found
    rw [bare?_remove, if_neg different]
  clock := by rw [clock_remove]

theorem touches_write (node : Artifact) (disk : VirtualDisk) (content : List UInt8) :
    node.Touches (some node.location) node.location.dir? disk (disk.write node.path content) :=
  { grows_write disk node.path content with
    site_own := fun _ here => (Option.some.inj here).symm
    base_near := fun _ isBase => .inr isBase }

theorem touches_createDirs (node : Artifact) {disk after : VirtualDisk}
    (grows : Grows none (some node.location) disk after) :
    node.Touches none (some node.location) disk after :=
  { grows with
    site_own := nofun
    base_near := fun _ isBase => .inl (Option.some.inj isBase).symm }

end Artifact

namespace Run

theorem runInternal_done {node : Artifact} (unlinked : ∀ target, node.action ≠ .symlink target)
    {disk after : VirtualDisk} {events : List Event}
    (done : runInternal node disk = (.ok (), events, after)) :
    node.action ≠ .createDir ∧ after = disk ∨
      node.action = .createDir ∧ ∃ mtime,
        node.Touches none (some node.location) disk after ∧
          after.bare? node.location = some (.dir [] mtime) := by
  unfold runInternal at done
  cases action : node.action with
  | none =>
      rw [action] at done
      cases done
      exact .inl ⟨nofun, rfl⟩
  | run commands =>
      rw [action] at done
      cases done
  | symlink target => exact absurd action (unlinked target)
  | createDir =>
      rw [action] at done
      have made : Disk.createDirs disk node.path = disk.createDirs node.path := rfl
      dsimp only at done
      rw [made] at done
      rcases createDirs_cases disk node.path
        with ⟨fault, refused⟩ | ⟨grown, mtime, created, grows, own⟩
      · rw [refused] at done
        cases done
      · rw [created] at done
        cases done
        exact .inr ⟨rfl, mtime, node.touches_createDirs grows, own⟩

theorem runInternal_failed {node : Artifact} {disk after : VirtualDisk} {events : List Event}
    {failure : Failure}
    (failed : runInternal node disk = (.error failure, events, after)) : after = disk := by
  unfold runInternal at failed
  cases action : node.action with
  | none =>
      rw [action] at failed
      cases failed
  | run commands =>
      rw [action] at failed
      cases failed
      rfl
  | symlink target =>
      rw [action] at failed
      have made : Disk.symlink disk target node.path = disk.symlink target node.path := rfl
      dsimp only at failed
      rw [made] at failed
      split at failed
      · cases failed
      · unfold symlink at failed
        dsimp only at failed
        split at failed <;> cases failed
        rename_i refused
        split at refused <;> cases refused
        rfl
  | createDir =>
      rw [action] at failed
      have made : Disk.createDirs disk node.path = disk.createDirs node.path := rfl
      dsimp only at failed
      rw [made] at failed
      rcases createDirs_cases disk node.path with ⟨fault, refused⟩ | ⟨grown, mtime, created, _⟩
      · rw [refused] at failed
        cases failed
        rfl
      · rw [created] at failed
        cases failed

theorem outputTime_file {node : Artifact} (kind : node.kind = .file) (disk : VirtualDisk) :
    outputTime disk node = .ok (disk.mtimeOf node.path) := by
  unfold outputTime
  rw [kind]
  rfl

theorem discardLeftover_cases (node : Artifact) (before : Option Nat) (disk : VirtualDisk) :
    (discardLeftover node before disk).2 = disk ∨
      node.kind = .file ∧ (discardLeftover node before disk).2 = disk.remove node.path := by
  have removing : (removeLeftover node disk).2 = disk ∨
      (removeLeftover node disk).2 = disk.remove node.path := by
    have made : Disk.removeFile disk node.path = disk.removeFile node.path := rfl
    unfold removeLeftover
    rw [made]
    rcases removeFile_cases disk node.path with ⟨_, refused, _⟩ | removed
    · rw [refused]
      exact .inl rfl
    · rw [removed]
      exact .inr rfl
  unfold discardLeftover
  split
  · rename_i kind
    split
    · exact .inl rfl
    · split
      · exact removing.imp_right fun removed => ⟨kind, removed⟩
      · exact .inl rfl
    · split
      · exact .inl rfl
      · exact removing.imp_right fun removed => ⟨kind, removed⟩
  · exact .inl rfl

theorem discardLeftover_other {node : Artifact} (kind : node.kind ≠ .file) (before : Option Nat)
    (disk : VirtualDisk) : (discardLeftover node before disk).2 = disk := by
  unfold discardLeftover
  split
  · rename_i isFile
    exact absurd isFile kind
  · rfl

theorem discardLeftover_kept {node : Artifact} {before : Option Nat} {disk : VirtualDisk}
    (free : disk.LinkFree) (same : disk.mtimeOf node.path = before) :
    (discardLeftover node before disk).2 = disk := by
  unfold discardLeftover
  cases node.kind with
  | directory => rfl
  | phony => rfl
  | file =>
      have dated : Disk.modified disk node.path = .ok before := by rw [← same]; rfl
      have unlinked : Disk.isLink disk node.path = false := isLink_eq_false free node.path
      dsimp only
      rw [dated, unlinked]
      cases before with
      | none => rfl
      | some mtime => simp

theorem discardLeftover_removed {node : Artifact} (kind : node.kind = .file) {before : Option Nat}
    {disk : VirtualDisk} {content : List UInt8} {mtime : Nat}
    (left : disk.bare? node.location = some (.file content mtime)) (other : before ≠ some mtime) :
    (discardLeftover node before disk).2 = disk.remove node.path := by
  have dated : Disk.modified disk node.path = .ok (some mtime) := by
    have solid : disk.Solid (.ofPath node.path) := by
      intro target link
      cases left.symm.trans link
    have known : disk.mtimeOf node.path = some mtime := by
      rw [solid.mtimeOf_eq]
      show (disk.bare? node.location).bind Entry.mtime? = some mtime
      rw [left]
      rfl
    rw [← known]
    rfl
  have removes : Disk.removeFile disk node.path = (.ok (), disk.remove node.path) := by
    rcases removeFile_cases disk node.path with ⟨_, _, notFile⟩ | removed
    · exact absurd left (notFile content mtime)
    · exact removed
  have differs : (before.isSome && some mtime == before) = false := by
    cases before with
    | none => rfl
    | some old =>
        have apart : mtime ≠ old := fun same => other (by rw [same])
        simp [apart]
  unfold discardLeftover
  rw [kind]
  dsimp only
  rw [dated]
  simp [differs, removeLeftover, removes]

end Run

end ArtifactPipeline
