import ArtifactPipeline.Proofs.Agreement
import ArtifactPipeline.Proofs.Progress

set_option autoImplicit false

/-!
What a run leaves to do for the next one. Every file that it made or passed over is newer than what
it is made from, so that the next run rebuilds what is asked for in any case, and what depends on it
or on sources that were touched in between.
-/

namespace ArtifactPipeline

open Relation (ReflTransGen TransGen)

namespace VirtualDisk

def Alike (before after : VirtualDisk) (path : Path) : Prop :=
  after.mtimeOf path = before.mtimeOf path ∧ after.isDir path = before.isDir path

theorem Solid.alike {before after : VirtualDisk} {path : Path}
    (solid : before.Solid (.ofPath path))
    (same : after.bare? (.ofPath path) = before.bare? (.ofPath path)) :
    before.Alike after path := by
  have still : after.Solid (.ofPath path) := by
    unfold Solid
    rw [same]
    exact solid
  refine ⟨by rw [still.mtimeOf_eq, solid.mtimeOf_eq, same], ?_⟩
  rw [Bool.eq_iff_iff, still.isDir_iff, solid.isDir_iff, same]

def touchEach (disk : VirtualDisk) (ids : List NodeId) : VirtualDisk :=
  ids.foldl (fun disk id => disk.touch ⟨id⟩) disk

theorem Solid.present {disk : VirtualDisk} {path : Path} (solid : disk.Solid (.ofPath path))
    {mtime : Nat} (dated : disk.mtimeOf path = some mtime) : disk.bare? (.ofPath path) ≠ none := by
  intro absent
  rw [solid.mtimeOf_eq_none_iff.mpr absent] at dated
  cases dated

theorem bare?_touch {disk : VirtualDisk} {path : Path} {content : List UInt8} {mtime : Nat}
    (file : disk.bare? (.ofPath path) = some (.file content mtime)) (loc : Location) :
    (disk.touch path).bare? loc =
      if loc = .ofPath path then some (.file content disk.clock) else disk.bare? loc := by
  obtain ⟨entry, found, bare⟩ := Option.map_eq_some_iff.mp file
  cases entry with
  | dir | link => cases bare
  | file old dated =>
      cases bare
      have there : disk.tick.get? (.ofPath path) = some (.file content mtime) := found
      unfold touch
      simp only [there]
      rw [bare?_set]
      rfl

end VirtualDisk

namespace Registry

/-- Ids and prerequisites are plain, there are no globs, every file is made by commands, and no
command redirects its output elsewhere. -/
structure Simple (registry : Registry) : Prop where
  ids : ∀ node ∈ registry.nodes, NodeId.Plain node.id
  prerequisites : ∀ node ∈ registry.nodes, ∀ dep ∈ node.nodePrerequisites, NodeId.Plain dep
  globFree : registry.GlobFree
  files : ∀ node ∈ registry.nodes, node.kind = .file → Run.commandsOf node.action ≠ []
  redirects : registry.OwnRedirects

/-- Rules of which every run can be repeated: directories, too, are made, as `Artifact.directory`
has it. -/
structure Regular (registry : Registry) : Prop extends registry.Simple where
  directories : ∀ node ∈ registry.nodes, node.kind = .directory → node.action = .createDir

/-- A prerequisite that can make the node stale: a directory cannot. -/
def Counts (registry : Registry) (id dep : NodeId) : Prop :=
  ∃ node, registry.find? id = some node ∧ dep ∈ node.nodePrerequisites ∧
    ∀ prerequisite, registry.find? dep = some prerequisite → prerequisite.kind ≠ .directory

def IsPhony (registry : Registry) (id : NodeId) : Prop :=
  ∃ node, registry.find? id = some node ∧ node.kind = .phony

def IsFile (registry : Registry) (id : NodeId) : Prop :=
  ∃ node, registry.find? id = some node ∧ node.kind = .file

def IsSource (registry : Registry) (id : NodeId) : Prop :=
  registry.find? id = none ∧ ∃ user ∈ registry.nodes, id ∈ user.nodePrerequisites

/-- The node is phony, or a file that a chain of prerequisites leads from to a phony node or a
touched source. -/
def Rebuilds (registry : Registry) (touched : List NodeId) (id : NodeId) : Prop :=
  registry.IsPhony id ∨ registry.IsFile id ∧
    ∃ last, TransGen registry.Counts id last ∧ (registry.IsPhony last ∨ last ∈ touched)

def Tangible (registry : Registry) (id : NodeId) : Prop :=
  NodeId.Plain id ∧ ∀ node, registry.find? id = some node → node.kind ≠ .phony

def OnDisk (registry : Registry) (id : NodeId) : Prop :=
  ∀ node, registry.find? id = some node → node.kind = .file

/-- The file is there, and of its prerequisites just the touched ones are newer. -/
def Settled (registry : Registry) (touched : List NodeId) (disk : VirtualDisk) (node : Artifact) :
    Prop :=
  ∃ own, disk.mtimeOf node.path = some own ∧ ∀ dep ∈ node.nodePrerequisites,
    (Freshness.dirtiedBy registry disk (fun _ => false) (some own) dep = true ↔ dep ∈ touched)

variable {registry : Registry} {touched : List NodeId}

theorem Regular.canonical (regular : registry.Regular) : registry.Canonical where
  ids node member := (regular.ids node member).spelled
  prerequisites node member dep needed := (regular.prerequisites node member dep needed).spelled

theorem Regular.tangible (regular : registry.Regular) {node : Artifact}
    (found : registry.find? node.id = some node) (kind : node.kind ≠ .phony) :
    registry.Tangible node.id := by
  refine ⟨regular.ids node (mem_of_find? found), ?_⟩
  intro other otherFound
  rw [found] at otherFound
  cases otherFound
  exact kind

theorem Regular.tangible_source (regular : registry.Regular) {id : NodeId}
    (source : registry.IsSource id) : registry.Tangible id := by
  obtain ⟨unregistered, user, member, needed⟩ := source
  refine ⟨regular.prerequisites user member id needed, ?_⟩
  intro node found
  rw [unregistered] at found
  cases found

theorem Regular.tangible_needed (regular : registry.Regular) {user : Artifact}
    (member : user ∈ registry.nodes) {dep : NodeId} (needed : dep ∈ user.nodePrerequisites)
    (onDisk : registry.OnDisk dep) : registry.Tangible dep :=
  ⟨regular.prerequisites user member dep needed, fun other found => by simp [onDisk other found]⟩

theorem Regular.location_ne (regular : registry.Regular) {node : Artifact}
    (found : registry.find? node.id = some node) {id : NodeId} (plain : NodeId.Plain id)
    (apart : id ≠ node.id) : NodeId.location id ≠ node.location := by
  intro same
  exact apart (plain.location_inj (regular.ids node (mem_of_find? found)) same)

theorem Regular.requires_of_counts (regular : registry.Regular) {id last : NodeId}
    (path : TransGen registry.Counts id last) {node : Artifact}
    (found : registry.find? last = some node) : TransGen registry.Requires id last := by
  have requires {user dep : NodeId} (counts : registry.Counts user dep) {prerequisite : Artifact}
      (registered : registry.find? dep = some prerequisite) : registry.Requires user dep := by
    obtain ⟨owner, ownerFound, needed, _⟩ := counts
    have plain := regular.prerequisites owner (mem_of_find? ownerFound) dep needed
    exact ⟨owner, ownerFound, needed, (contains_iff plain.spelled).mpr ⟨_, registered⟩⟩
  -- Whatever the chain goes on from has a rule, so its end is all there is to ask about.
  induction path generalizing node with
  | single counts => exact .single (requires counts found)
  | tail _ counts ih =>
      obtain ⟨owner, ownerFound⟩ := counts.imp fun _ known => known.1
      exact (ih ownerFound).tail (requires counts found)

theorem Rebuilds.registered {id : NodeId} (rebuilds : registry.Rebuilds touched id) :
    ∃ node, registry.find? id = some node ∧ node.kind ≠ .directory := by
  rcases rebuilds with ⟨node, found, kind⟩ | ⟨⟨node, found, kind⟩, _⟩
  · exact ⟨node, found, by simp [kind]⟩
  · exact ⟨node, found, by simp [kind]⟩

theorem rebuilds_file_iff (sources : ∀ id ∈ touched, registry.IsSource id) {node : Artifact}
    (found : registry.find? node.id = some node) (kind : node.kind = .file) :
    registry.Rebuilds touched node.id ↔
      ∃ dep ∈ node.nodePrerequisites, dep ∈ touched ∨
        (∃ prerequisite, registry.find? dep = some prerequisite ∧
          prerequisite.kind ≠ .directory) ∧ registry.Rebuilds touched dep := by
  constructor
  · rintro (⟨other, otherFound, phony⟩ | ⟨_, last, path, ends⟩)
    · rw [found] at otherFound
      cases otherFound
      rw [kind] at phony
      cases phony
    · obtain ⟨dep, counts, onward⟩ := TransGen.head'_iff.mp path
      obtain ⟨other, otherFound, needed, solid⟩ := counts
      rw [found] at otherFound
      cases otherFound
      refine ⟨dep, needed, ?_⟩
      -- The chain ends here, or goes on from a registered prerequisite, which is rebuilt itself.
      rcases Relation.reflTransGen_iff_eq_or_transGen.mp onward with rfl | further
      · rcases ends with phony | source
        · obtain ⟨prerequisite, registered, isPhony⟩ := phony
          exact .inr ⟨⟨prerequisite, registered, by simp [isPhony]⟩,
            .inl ⟨prerequisite, registered, isPhony⟩⟩
        · exact .inl source
      · obtain ⟨_, ⟨prerequisite, registered, _⟩, _⟩ := TransGen.head'_iff.mp further
        refine .inr ⟨⟨prerequisite, registered, solid _ registered⟩, ?_⟩
        cases depKind : prerequisite.kind with
        | directory => exact absurd depKind (solid _ registered)
        | phony => exact .inl ⟨prerequisite, registered, depKind⟩
        | file => exact .inr ⟨⟨prerequisite, registered, depKind⟩, last, further, ends⟩
  · rintro ⟨dep, needed, source | ⟨⟨prerequisite, registered, depKind⟩, rebuilt⟩⟩
    · have counts : registry.Counts node.id dep := by
        refine ⟨node, found, needed, ?_⟩
        intro prerequisite registered
        rw [(sources dep source).1] at registered
        cases registered
      exact .inr ⟨⟨node, found, kind⟩, dep, .single counts, .inr source⟩
    · have counts : registry.Counts node.id dep := by
        refine ⟨node, found, needed, ?_⟩
        intro other otherFound
        rw [registered] at otherFound
        cases otherFound
        exact depKind
      rcases rebuilt with phony | ⟨_, last, path, ends⟩
      · exact .inr ⟨⟨node, found, kind⟩, dep, .single counts, .inl phony⟩
      · exact .inr ⟨⟨node, found, kind⟩, last, .head counts path, ends⟩

end Registry

namespace Freshness

open VirtualDisk

variable {registry : Registry} {disk before after : VirtualDisk} {known : NodeId → Bool}
  {own : Option Nat} {dep : NodeId}

theorem dirtiedBy_alike (alike : registry.OnDisk dep → before.Alike after ⟨dep⟩) :
    dirtiedBy registry after known own dep = dirtiedBy registry before known own dep := by
  unfold dirtiedBy
  unfold Registry.OnDisk at alike
  cases registered : registry.find? dep with
  | none =>
      obtain ⟨dated, isDir⟩ := alike (by simp [registered])
      rw [dated, isDir]
  | some prerequisite =>
      dsimp only
      cases kind : prerequisite.kind with
      | directory | phony => rfl
      | file =>
          dsimp only
          rw [(alike (by simp [registered, kind])).1]

theorem dirtiedBy_of_newer
    (newer : dirtiedBy registry disk (fun _ => false) own dep = true) :
    dirtiedBy registry disk known own dep = true := by
  unfold dirtiedBy at newer ⊢
  split at newer
  · exact newer
  · split at newer
    · cases newer
    · cases newer
    · rw [Bool.false_or] at newer
      rw [newer, Bool.or_true]

theorem dirtiedBy_older {own : Nat}
    (older : registry.OnDisk dep → ∀ mtime, disk.mtimeOf ⟨dep⟩ = some mtime → mtime ≤ own) :
    dirtiedBy registry disk (fun _ => false) (some own) dep = false := by
  have notNewer (onDisk : registry.OnDisk dep) :
      newerThan (disk.mtimeOf ⟨dep⟩) (some own) = false := by
    cases dated : disk.mtimeOf ⟨dep⟩ with
    | none => rfl
    | some mtime =>
        have bound := older onDisk mtime dated
        simpa [newerThan] using bound
  unfold Registry.OnDisk at notNewer
  unfold dirtiedBy
  cases registered : registry.find? dep with
  | none => simp [notNewer (by simp [registered])]
  | some prerequisite =>
      dsimp only
      cases kind : prerequisite.kind with
      | directory | phony => rfl
      | file => simp [notNewer (by simp [registered, kind])]

end Freshness

namespace Registry.Settled

open VirtualDisk Freshness

variable {registry : Registry} {touched : List NodeId} {disk before after : VirtualDisk}
  {node : Artifact}

theorem alike (settled : registry.Settled touched before node)
    (own : before.Alike after node.path)
    (deps : ∀ dep ∈ node.nodePrerequisites, registry.OnDisk dep → before.Alike after ⟨dep⟩) :
    registry.Settled touched after node := by
  obtain ⟨mtime, dated, newer⟩ := settled
  refine ⟨mtime, by rw [own.1, dated], ?_⟩
  intro dep needed
  rw [dirtiedBy_alike (deps dep needed)]
  exact newer dep needed

theorem of_clean {known : NodeId → Bool} (kind : node.kind = .file)
    (clean : dirtyGiven registry disk known node = false) : registry.Settled [] disk node := by
  simp only [dirtyGiven, kind, Bool.or_eq_false_iff, List.any_eq_false] at clean
  obtain ⟨there, none⟩ := clean
  cases dated : disk.mtimeOf node.path with
  | none =>
      rw [dated] at there
      cases there
  | some own =>
      refine ⟨own, dated, ?_⟩
      intro dep needed
      rw [dated] at none
      exact iff_of_false (fun newer => none dep needed (dirtiedBy_of_newer newer))
        List.not_mem_nil

theorem of_write (timed : disk.Timed) (content : List UInt8)
    (deps : ∀ dep ∈ node.nodePrerequisites, registry.OnDisk dep →
      disk.Solid (NodeId.location dep) ∧ disk.Alike (disk.write node.path content) ⟨dep⟩) :
    registry.Settled [] (disk.write node.path content) node := by
  have written := bare?_write_self disk node.path content
  have solid : (disk.write node.path content).Solid (.ofPath node.path) := by
    intro target
    rw [written]
    nofun
  refine ⟨disk.clock, by rw [solid.mtimeOf_eq, written]; rfl, ?_⟩
  intro dep needed
  refine iff_of_false ?_ List.not_mem_nil
  rw [Bool.not_eq_true]
  refine dirtiedBy_older fun onDisk mtime dated => ?_
  obtain ⟨unlinked, alike⟩ := deps dep needed onDisk
  rw [alike.1] at dated
  exact Nat.le_of_lt (timed.mtimeOf_lt dated)

end Registry.Settled

/-- What a node may do to the disk: put something at its own place and make directories where
nothing is. Only a phony node makes a link. -/
structure Artifact.Adds (node : Artifact) (before after : VirtualDisk) : Prop where
  kept : ∀ loc, loc ≠ node.location → before.bare? loc ≠ none →
    after.bare? loc = before.bare? loc
  timed : before.Timed → after.Timed
  solid : ∀ loc, before.Solid loc → (node.kind = .phony → loc ≠ node.location) → after.Solid loc

namespace Artifact.Adds

open VirtualDisk

variable {node : Artifact} {before after : VirtualDisk}

theorem refl (node : Artifact) (disk : VirtualDisk) : node.Adds disk disk where
  kept := fun _ _ _ => rfl
  timed := fun timed => timed
  solid := fun _ solid _ => solid

theorem of_grows {site base : Option Location} (grows : Grows site base before after)
    (timed : before.Timed → after.Timed) (here : ∀ loc, site = some loc → loc = node.location)
    (own : site = some node.location → node.kind ≠ .phony → after.Solid node.location) :
    node.Adds before after where
  kept := by
    intro loc elsewhere
    exact grows.kept loc fun same => elsewhere (here loc same)
  timed := timed
  solid := by
    intro loc solid apart
    by_cases same : site = some loc
    · have isOwn := here loc same
      subst isOwn
      exact own same fun phony => apart phony rfl
    · intro target
      rcases grows.cases same with unchanged | ⟨_, _, _, _, _, _, isDir⟩
      · rw [unchanged]
        exact solid target
      · rw [isDir]
        nofun

theorem write (node : Artifact) (disk : VirtualDisk) (content : List UInt8) :
    node.Adds disk (disk.write node.path content) := by
  refine of_grows (grows_write disk node.path content) (fun timed => timed_write timed _ _)
    (fun _ same => (Option.some.inj same).symm) ?_
  intro _ _ target
  have own : (disk.write node.path content).bare? node.location = _ :=
    bare?_write_self disk node.path content
  rw [own]
  nofun

end Artifact.Adds

namespace Run

open VirtualDisk

theorem runInternal_symlink {node : Artifact} {target : Path}
    (linking : node.action = .symlink target) {disk after : VirtualDisk} {events : List Event}
    (done : runInternal node disk = (.ok (), events, after)) :
    after = disk ∨ after = disk.insertEntry node.location (.link target) := by
  unfold runInternal at done
  rw [linking] at done
  dsimp only at done
  split at done
  · cases done
    exact .inl rfl
  · have made : Disk.symlink disk target node.path = disk.symlink target node.path := rfl
    rw [made] at done
    unfold VirtualDisk.symlink at done
    dsimp only at done
    split at done
    · rename_i linked
      split at linked <;> cases linked
      cases done
      exact .inr rfl
    · cases done

theorem runInternal_adds {registry : Registry} (regular : registry.Regular) {node : Artifact}
    (member : node ∈ registry.nodes) {disk after : VirtualDisk} {events : List Event}
    (done : runInternal node disk = (.ok (), events, after)) :
    node.Adds disk after ∧
      (node.kind = .directory → ∃ mtime, after.bare? node.location = some (.dir [] mtime)) := by
  have directory := regular.directories node member
  by_cases linking : ∃ target, node.action = .symlink target
  · obtain ⟨target, action⟩ := linking
    rw [action] at directory
    refine ⟨?_, fun kind => nomatch directory kind⟩
    -- Files are made by commands and directories by `createDir`: only phony nodes are left.
    have phony : node.kind = .phony := by
      cases kind : node.kind with
      | phony => rfl
      | directory => exact nomatch directory kind
      | file => exact absurd (by rw [action]; rfl) (regular.files node member kind)
    rcases runInternal_symlink action done with rfl | rfl
    · exact .refl node after
    · refine .of_grows (grows_insertEntry disk node.location (.link target))
        (fun timed => timed_insertEntry timed _ _ nofun) ?_ ?_
      · intro loc same
        exact (Option.some.inj same).symm
      · exact fun _ solid => absurd phony solid
  · have unlinked : ∀ target, node.action ≠ .symlink target := fun target action =>
      linking ⟨target, action⟩
    rcases runInternal_done unlinked done with ⟨unmade, rfl⟩ | ⟨_, mtime, touches, own⟩
    · exact ⟨.refl node after, fun kind => absurd (directory kind) unmade⟩
    · refine ⟨?_, fun _ => ⟨mtime, own⟩⟩
      exact .of_grows touches.toGrows (fun timed => touches.timed timed nofun) nofun nofun

end Run

namespace Run.Moment

open Function VirtualDisk Freshness

structure Backed (registry : Registry) (m : Moment) (node : Artifact) : Prop where
  found : registry.find? node.id = some node
  support : ∀ dep ∈ node.nodePrerequisites, ∀ prerequisite,
    registry.find? dep = some prerequisite → (m.states dep).isSatisfied = true
  stocked : node.kind = .file → ∀ dep ∈ node.nodePrerequisites, registry.find? dep = none →
    m.disk.bare? (NodeId.location dep) ≠ none

structure Coherent (registry : Registry) (order : List NodeId) (m : Moment) : Prop
    extends Kept registry order m where
  timed : m.disk.Timed
  solid : ∀ id, registry.Tangible id → m.disk.Solid (NodeId.location id)
  running : ∀ id assignment, m.tasks id = some assignment →
    ∃ finished, assignment.node.action = .run (finished ++ assignment.left)
  backed : ∀ node, registry.find? node.id = some node → (m.states node.id).isBegun = true →
    Backed registry m node

inductive Own (registry : Registry) (m next : Moment) (node : Artifact) : Prop where
  | skip (waiting : m.states node.id = .evaluating)
      (clean : dirtyGiven registry m.disk m.known node = false)
      (answer : next.verdicts.get? node.id = some false) (state : next.states node.id = .skipped)
      (still : next.disk = m.disk)
  | launch (waiting : m.states node.id = .evaluating)
      (dirty : dirtyGiven registry m.disk m.known node = true)
      (answer : next.verdicts.get? node.id = some true) (state : next.states node.id = .executing)
      (task : next.tasks node.id = some ⟨node, commandsOf node.action⟩)
  | perform (waiting : m.states node.id = .evaluating)
      (dirty : dirtyGiven registry m.disk m.known node = true)
      (answer : next.verdicts.get? node.id = some true) (state : next.states node.id = .succeeded)
      (internal : commandsOf node.action = [])
      (made : node.kind = .directory →
        ∃ mtime, next.disk.bare? node.location = some (.dir [] mtime))
  | work (executing : m.states node.id = .executing) (state : next.states node.id = .executing)
      (same : next.verdicts = m.verdicts)
      (written : node.kind = .file → ∃ content, next.disk = m.disk.write node.path content)
  | succeed (executing : m.states node.id = .executing) (state : next.states node.id = .succeeded)
      (same : next.verdicts = m.verdicts) (still : next.disk = m.disk)
      (task : m.tasks node.id = some ⟨node, []⟩)

/-- All that one step of a rehearsal can do: one node that is not satisfied yet moves on, and
everything is as before elsewhere. -/
structure Acts (registry : Registry) (m next : Moment) (node : Artifact) : Prop where
  backed : Backed registry m node
  unsatisfied : (m.states node.id).isSatisfied = false
  states : ∀ id, id ≠ node.id → next.states id = m.states id
  tasks : ∀ id, id ≠ node.id → next.tasks id = m.tasks id
  verdicts : ∀ id, id ≠ node.id → next.verdicts.get? id = m.verdicts.get? id
  running : ∀ assignment, next.tasks node.id = some assignment →
    ∃ finished, assignment.node.action = .run (finished ++ assignment.left)
  adds : node.Adds m.disk next.disk
  own : Own registry m next node

section Rehearsal

variable {registry : Registry} {order : List NodeId} {m next : Moment} {node : Artifact}

theorem Coherent.backed_of_ready (coherent : Coherent registry order m)
    (regular : registry.Regular) (ready : Ready registry m node) {dirty : Bool}
    {verdicts : Verdicts}
    (answer : isDirty registry m.disk m.verdicts node.id = (.ok dirty, verdicts)) :
    Backed registry m node := by
  have spelled {dep : NodeId} (needed : dep ∈ node.nodePrerequisites) :
      NodeId.canonical dep = dep :=
    (regular.prerequisites node (Registry.mem_of_find? ready.found) dep needed).spelled
  refine ⟨ready.found, ?_, ?_⟩
  · intro dep needed prerequisite registered
    exact ready.supported dep needed
      ((Registry.contains_iff (spelled needed)).mpr ⟨prerequisite, registered⟩)
  · intro kind dep needed unregistered absent
    -- The oracle would have failed at a source that is not there.
    have missing : registry.contains dep = false := by
      rw [Registry.contains, Registry.get?_eq_find? (spelled needed), unregistered]
      rfl
    have present := present_of_isDirty regular.canonical ready.found
      (coherent.undecided node.id ready.waiting) answer kind needed missing
    have solid := coherent.solid dep
      (regular.tangible_source ⟨unregistered, node, Registry.mem_of_find? ready.found, needed⟩)
    rw [VirtualDisk.present, (Solid.mtimeOf_eq_none_iff solid).mpr absent] at present
    cases present

theorem Coherent.acts_complete (coherent : Coherent registry order m) (regular : registry.Regular)
    {command : Command} {left : List Command} {disk : VirtualDisk}
    (assigned : m.tasks node.id = some ⟨node, command :: left⟩)
    (completes : Rehearsal.produce m.disk ⟨node.id, node.kind, command⟩ = .ok disk) :
    Acts registry m
      { m with disk, tasks := update m.tasks node.id (some ⟨node, left⟩) } node := by
  obtain ⟨_, found, executing⟩ := coherent.assigned _ _ assigned
  obtain ⟨finished, action⟩ := coherent.running _ _ assigned
  dsimp only at found action
  -- Output is redirected to the file of the node or not at all, so no other file is written.
  have own := regular.redirects node (Registry.mem_of_find? found) command
    (by rw [action]; simp [commandsOf])
  have produced := Rehearsal.produce_own
    (fun kind => coherent.solid node.id (regular.tangible found (by simp [kind]))) own completes
  refine ⟨coherent.backed node found (by rw [executing]; rfl), by rw [executing]; rfl,
    fun _ _ => rfl, fun _ apart => update_of_ne apart .., fun _ _ => rfl, ?_, ?_,
    .work executing executing rfl ?_⟩
  · intro assignment later
    dsimp only at later
    rw [update_self] at later
    cases later
    exact ⟨finished ++ [command], by simp [action]⟩
  · rcases produced with ⟨_, rfl⟩ | ⟨_, rfl⟩
    · exact .write node m.disk _
    · exact .refl node m.disk
  · intro kind
    rcases produced with ⟨_, written⟩ | ⟨other, _⟩
    · exact ⟨_, written⟩
    · exact absurd kind other

theorem Coherent.acts (coherent : Coherent registry order m) (regular : registry.Regular)
    (advances : Advances registry .rehearsal m next) : ∃ node, Acts registry m next node := by
  have recorded {node : Artifact} (ready : Ready registry m node) {dirty : Bool}
      {verdicts : Verdicts}
      (answer : isDirty registry m.disk m.verdicts node.id = (.ok dirty, verdicts)) :=
    (coherent.toKept.recorded regular.canonical regular.globFree ready answer).2
  have idle {node : Artifact} (ready : Ready registry m node) {assignment : Assignment}
      (assigned : m.tasks node.id = some assignment) :
      ∃ finished, assignment.node.action = .run (finished ++ assignment.left) := by
    rw [coherent.toKept.idle ready] at assigned
    cases assigned
  -- Each advance is the act of one node, and says what has become of its state, verdict and task.
  cases advances with
  | @skip node verdicts ready clean =>
      obtain ⟨given, decided, others⟩ := recorded ready clean
      exact ⟨node, coherent.backed_of_ready regular ready clean, by rw [ready.waiting]; rfl,
        fun _ apart => update_of_ne apart .., fun _ _ => rfl, others,
        fun _ assigned => idle ready assigned, .refl node m.disk,
        .skip ready.waiting given.symm decided (update_self ..) rfl⟩
  | @launch node verdicts commands before called external timed =>
      obtain ⟨given, decided, others⟩ := recorded called.toReady called.dirty
      refine ⟨node, coherent.backed_of_ready regular called.toReady called.dirty,
        by rw [called.waiting]; rfl, fun _ apart => update_of_ne apart ..,
        fun _ apart => update_of_ne apart .., others, ?_, .refl node m.disk,
        .launch called.waiting given.symm decided (update_self ..) ?_⟩
      · intro assignment assigned
        dsimp only at assigned
        rw [update_self] at assigned
        cases assigned
        exact ⟨[], external⟩
      · rw [external]
        exact update_self ..
  | @perform node verdicts events disk called internal done =>
      obtain ⟨given, decided, others⟩ := recorded called.toReady called.dirty
      obtain ⟨adds, made⟩ :=
        runInternal_adds regular (Registry.mem_of_find? called.found) done
      refine ⟨node, coherent.backed_of_ready regular called.toReady called.dirty,
        by rw [called.waiting]; rfl, fun _ apart => update_of_ne apart .., fun _ _ => rfl, others,
        fun _ assigned => idle called.toReady assigned, adds,
        .perform called.waiting given.symm decided (update_self ..) ?_ made⟩
      cases action : node.action with
      | none | createDir | symlink => rfl
      | run commands => exact absurd action (internal commands)
  | work works =>
      cases works with
      | meddle _ meddles => exact absurd meddles id
      | @complete id node command left disk assigned completes =>
          obtain ⟨rfl, _⟩ := coherent.assigned id _ assigned
          exact ⟨node, coherent.acts_complete regular assigned completes⟩
  | @succeed id node finished executing =>
      obtain ⟨rfl, found, _⟩ := coherent.assigned id _ finished
      refine ⟨node, coherent.backed node found (by rw [executing]; rfl), by rw [executing]; rfl,
        fun _ apart => update_of_ne apart .., fun _ apart => update_of_ne apart ..,
        fun _ _ => rfl, ?_, .refl node m.disk,
        .succeed executing (update_self ..) rfl rfl finished⟩
      intro assignment assigned
      dsimp only at assigned
      rw [update_self] at assigned
      cases assigned

namespace Acts

theorem ne_of_needed (acts : Acts registry m next node) {user : Artifact}
    (backed : Backed registry m user) {dep : NodeId} (needed : dep ∈ user.nodePrerequisites) :
    dep ≠ node.id := by
  rintro rfl
  have satisfied := backed.support node.id needed node acts.backed.found
  rw [acts.unsatisfied] at satisfied
  cases satisfied

theorem kept (acts : Acts registry m next node) (regular : registry.Regular) {id : NodeId}
    (plain : NodeId.Plain id) (apart : id ≠ node.id)
    (present : m.disk.bare? (NodeId.location id) ≠ none) :
    next.disk.bare? (NodeId.location id) = m.disk.bare? (NodeId.location id) :=
  acts.adds.kept _ (regular.location_ne acts.backed.found plain apart) present

theorem alike (acts : Acts registry m next node) (regular : registry.Regular)
    (coherent : Coherent registry order m) {id : NodeId} (tangible : registry.Tangible id)
    (apart : id ≠ node.id) (present : m.disk.bare? (NodeId.location id) ≠ none) :
    m.disk.Alike next.disk ⟨id⟩ :=
  Solid.alike (coherent.solid id tangible) (acts.kept regular tangible.1 apart present)

theorem backed_next (acts : Acts registry m next node) (regular : registry.Regular)
    {user : Artifact} (backed : Backed registry m user) : Backed registry next user where
  found := backed.found
  support := by
    intro dep needed prerequisite registered
    rw [acts.states dep (acts.ne_of_needed backed needed)]
    exact backed.support dep needed prerequisite registered
  stocked := by
    intro kind dep needed unregistered
    have present := backed.stocked kind dep needed unregistered
    have plain := regular.prerequisites user (Registry.mem_of_find? backed.found) dep needed
    rw [acts.kept regular plain (acts.ne_of_needed backed needed) present]
    exact present

theorem coherent (acts : Acts registry m next node) (regular : registry.Regular)
    (coherent : Coherent registry order m) (kept : Kept registry order next) :
    Coherent registry order next where
  toKept := kept
  timed := acts.adds.timed coherent.timed
  solid := by
    intro id tangible
    refine acts.adds.solid _ (coherent.solid id tangible) fun phony => ?_
    refine regular.location_ne acts.backed.found tangible.1 ?_
    rintro rfl
    exact tangible.2 node acts.backed.found phony
  running := by
    intro id assignment assigned
    by_cases same : id = node.id
    · exact acts.running assignment (same ▸ assigned)
    · rw [acts.tasks id same] at assigned
      exact coherent.running id assignment assigned
  backed := by
    intro user found begun
    refine acts.backed_next regular ?_
    by_cases same : user.id = node.id
    · rw [same, acts.backed.found] at found
      cases found
      exact acts.backed
    · rw [acts.states _ same] at begun
      exact coherent.backed user found begun

end Acts

theorem coherent_start {plan : Plan} (sound : plan.Sound registry) {disk : VirtualDisk}
    (timed : disk.Timed) (solid : ∀ id, registry.Tangible id → disk.Solid (NodeId.location id)) :
    Coherent registry plan.order (.start plan disk) where
  toKept := kept_start sound disk
  timed := timed
  solid := solid
  running := nofun
  backed := by
    intro node _ begun
    exact absurd begun (by simp [Moment.start, sound.isBegun_get])

end Rehearsal

/-- The file has been made or found up to date: also a task that is not over yet has made it, once
one of its commands is done. -/
def Achieved (m : Moment) (node : Artifact) : Prop :=
  (m.states node.id).isSatisfied = true ∨
    ∃ left, m.tasks node.id = some ⟨node, left⟩ ∧ left ≠ commandsOf node.action

/-- In the course of a run, what has been achieved is newer than what it is made from. -/
structure Settling (registry : Registry) (order : List NodeId) (m : Moment) : Prop
    extends Coherent registry order m where
  files : ∀ node, registry.find? node.id = some node → node.kind = .file → Achieved m node →
    registry.Settled [] m.disk node
  directories : ∀ node, registry.find? node.id = some node → node.kind = .directory →
    (m.states node.id).isSatisfied = true →
      ∃ mtime, m.disk.bare? node.location = some (.dir [] mtime)

namespace Settling

variable {registry : Registry} {order : List NodeId} {m next : Moment} {node : Artifact}

theorem present (settling : Settling registry order m) (regular : registry.Regular)
    {user : Artifact} (backed : Backed registry m user) (kind : user.kind = .file) {dep : NodeId}
    (needed : dep ∈ user.nodePrerequisites) (onDisk : registry.OnDisk dep) :
    m.disk.bare? (NodeId.location dep) ≠ none := by
  cases registered : registry.find? dep with
  | none => exact backed.stocked kind dep needed registered
  | some prerequisite =>
      have depKind := onDisk prerequisite registered
      have satisfied := backed.support dep needed prerequisite registered
      have named := Registry.id_of_find? registered
      subst named
      obtain ⟨own, dated, _⟩ := settling.files prerequisite registered depKind (.inl satisfied)
      have tangible := regular.tangible registered (by simp [depKind])
      exact Solid.present (settling.solid prerequisite.id tangible) dated

theorem alike (settling : Settling registry order m) (regular : registry.Regular)
    (acts : Acts registry m next node) {user : Artifact} (backed : Backed registry m user)
    (kind : user.kind = .file) {dep : NodeId} (needed : dep ∈ user.nodePrerequisites)
    (onDisk : registry.OnDisk dep) : m.disk.Alike next.disk ⟨dep⟩ :=
  acts.alike regular settling.toCoherent
    (regular.tangible_needed (Registry.mem_of_find? backed.found) needed onDisk)
    (acts.ne_of_needed backed needed) (settling.present regular backed kind needed onDisk)

theorem own_file (settling : Settling registry order m) (regular : registry.Regular)
    (acts : Acts registry m next node) (kind : node.kind = .file) (achieved : Achieved next node) :
    registry.Settled [] next.disk node := by
  have member := Registry.mem_of_find? acts.backed.found
  cases acts.own with
  | skip _ clean _ _ still =>
      rw [still]
      exact .of_clean kind clean
  | launch _ _ _ state task =>
      rcases achieved with satisfied | ⟨left, assigned, started⟩
      · rw [state] at satisfied
        cases satisfied
      · rw [task] at assigned
        cases assigned
        exact absurd rfl started
  | perform _ _ _ _ internal => exact absurd internal (regular.files node member kind)
  | work _ _ _ written =>
      -- The clock is past everything that the file is made from.
      obtain ⟨content, written⟩ := written kind
      rw [written]
      refine .of_write settling.timed content fun dep needed onDisk => ⟨?_, ?_⟩
      · exact settling.solid dep (regular.tangible_needed member needed onDisk)
      · exact written ▸ settling.alike regular acts acts.backed kind needed onDisk
  | succeed _ _ _ still task =>
      -- A task that has no commands left, but had some, has written the file before.
      rw [still]
      exact settling.files node acts.backed.found kind
        (.inr ⟨[], task, (regular.files node member kind).symm⟩)

theorem own_directory (settling : Settling registry order m) (regular : registry.Regular)
    (acts : Acts registry m next node) (kind : node.kind = .directory)
    (satisfied : (next.states node.id).isSatisfied = true) :
    ∃ mtime, next.disk.bare? node.location = some (.dir [] mtime) := by
  cases acts.own with
  | skip _ clean _ _ still =>
      rw [still]
      have tangible := regular.tangible acts.backed.found (by simp [kind])
      have there : m.disk.isDir node.path = true := by simpa [dirtyGiven, kind] using clean
      exact (Solid.isDir_iff (settling.solid node.id tangible)).mp there
  | perform _ _ _ _ _ made => exact made kind
  | launch _ _ _ state =>
      rw [state] at satisfied
      cases satisfied
  | work _ state =>
      rw [state] at satisfied
      cases satisfied
  | succeed _ _ _ _ task =>
      obtain ⟨finished, external⟩ := settling.running _ _ task
      rw [regular.directories node (Registry.mem_of_find? acts.backed.found) kind] at external
      cases external

theorem step (settling : Settling registry order m) (regular : registry.Regular)
    (acts : Acts registry m next node) (kept : Kept registry order next) :
    Settling registry order next where
  toCoherent := acts.coherent regular settling.toCoherent kept
  files := by
    intro user found kind achieved
    by_cases same : user.id = node.id
    · rw [same, acts.backed.found] at found
      cases found
      exact settling.own_file regular acts kind achieved
    · have before : Achieved m user := by
        unfold Achieved at achieved ⊢
        rw [acts.states _ same, acts.tasks _ same] at achieved
        exact achieved
      have begun : (m.states user.id).isBegun = true := by
        rcases before with satisfied | ⟨left, assigned, _⟩
        · exact NodeState.isBegun_of_isSatisfied satisfied
        · rw [(settling.assigned _ _ assigned).2.2]
          rfl
      -- Neither this file nor what it is made from is the place of the node that acts.
      have settled := settling.files user found kind before
      have tangible := regular.tangible found (by simp [kind])
      have there : m.disk.bare? user.location ≠ none := by
        obtain ⟨own, dated, _⟩ := settled
        exact Solid.present (settling.solid user.id tangible) dated
      refine settled.alike (acts.alike regular settling.toCoherent tangible same there) ?_
      intro dep needed onDisk
      exact settling.alike regular acts (settling.backed user found begun) kind needed onDisk
  directories := by
    intro user found kind satisfied
    by_cases same : user.id = node.id
    · rw [same, acts.backed.found] at found
      cases found
      exact settling.own_directory regular acts kind satisfied
    · rw [acts.states _ same] at satisfied
      obtain ⟨mtime, there⟩ := settling.directories user found kind satisfied
      have plain := regular.ids user (Registry.mem_of_find? found)
      exact ⟨mtime, by
        rw [← there]
        exact acts.kept regular plain same (by
          show m.disk.bare? user.location ≠ none
          simp [there])⟩

theorem start {plan : Plan} (sound : plan.Sound registry) {disk : VirtualDisk}
    (timed : disk.Timed) (solid : ∀ id, registry.Tangible id → disk.Solid (NodeId.location id)) :
    Settling registry plan.order (.start plan disk) where
  toCoherent := coherent_start sound timed solid
  files := by
    intro node _ _ achieved
    rcases achieved with satisfied | ⟨left, assigned, _⟩
    · have begun := NodeState.isBegun_of_isSatisfied satisfied
      exact absurd begun (by simp [Moment.start, sound.isBegun_get])
    · cases assigned
  directories := by
    intro node _ _ satisfied
    have begun := NodeState.isBegun_of_isSatisfied satisfied
    exact absurd begun (by simp [Moment.start, sound.isBegun_get])

theorem steps (settling : Settling registry order m) (regular : registry.Regular)
    (run : ReflTransGen (Advances registry .rehearsal) m next) :
    Settling registry order next := by
  induction run with
  | refl => exact settling
  | tail _ advances ih =>
      obtain ⟨node, acts⟩ := ih.toCoherent.acts regular advances
      exact ih.step regular acts
        (ih.toKept.advances regular.canonical regular.globFree advances)

end Settling

end Run.Moment

/-- A disk on which everything planned is up to date but for the touched sources. -/
structure Registry.Fresh (registry : Registry) (order touched : List NodeId) (disk : VirtualDisk) :
    Prop where
  timed : disk.Timed
  solid : ∀ id, registry.Tangible id → disk.Solid (NodeId.location id)
  files : ∀ node, registry.find? node.id = some node → node.id ∈ order → node.kind = .file →
    registry.Settled touched disk node
  directories : ∀ node, registry.find? node.id = some node → node.id ∈ order →
    node.kind = .directory → ∃ mtime, disk.bare? node.location = some (.dir [] mtime)
  sources : ∀ node, registry.find? node.id = some node → node.id ∈ order → node.kind = .file →
    ∀ dep ∈ node.nodePrerequisites, registry.find? dep = none →
      disk.bare? (NodeId.location dep) ≠ none

namespace Registry.Fresh

open VirtualDisk Freshness

variable {registry : Registry} {order touched : List NodeId} {disk : VirtualDisk}

theorem of_completes (regular : registry.Regular) {plan : Plan} (sound : plan.Sound registry)
    {before after : VirtualDisk} (timed : before.Timed) (free : before.LinkFree) {report : Report}
    {last : Run.Moment}
    (completes : Run.Completes registry .rehearsal plan before after report last) :
    registry.Fresh plan.order [] after := by
  have settling := (Run.Moment.Settling.start sound timed fun _ _ => free _).steps regular
    completes.advances
  rw [← completes.disk]
  refine ⟨settling.timed, settling.solid, ?_, ?_, ?_⟩
  · intro node found planned kind
    exact settling.files node found kind (.inl (completes.satisfied node.id planned))
  · intro node found planned kind
    exact settling.directories node found kind (completes.satisfied node.id planned)
  · intro node found planned kind
    have begun := NodeState.isBegun_of_isSatisfied (completes.satisfied node.id planned)
    exact (settling.backed node found begun).stocked kind

theorem touch (fresh : registry.Fresh order touched disk) (regular : registry.Regular) {id : NodeId}
    (source : registry.IsSource id) {content : List UInt8} {mtime : Nat}
    (file : disk.bare? (NodeId.location id) = some (.file content mtime)) :
    registry.Fresh order (touched ++ [id]) (disk.touch ⟨id⟩) := by
  have changed := bare?_touch file
  have plain := (regular.tangible_source source).1
  have elsewhere {other : NodeId} (otherPlain : NodeId.Plain other) (apart : other ≠ id) :
      (disk.touch ⟨id⟩).bare? (NodeId.location other) = disk.bare? (NodeId.location other) := by
    rw [changed, if_neg]
    exact fun same => apart (otherPlain.location_inj plain same)
  have registered_ne {node : Artifact} (found : registry.find? node.id = some node) :
      node.id ≠ id := by
    intro same
    rw [same, source.1] at found
    cases found
  have here : (disk.touch ⟨id⟩).bare? (NodeId.location id) = some (.file content disk.clock) := by
    rw [changed]
    exact if_pos rfl
  have now : (disk.touch ⟨id⟩).Solid (NodeId.location id) := by
    intro target
    simp [here]
  constructor
  case timed => exact timed_touch fresh.timed _
  case solid =>
    intro other tangible
    by_cases same : other = id
    · exact same ▸ now
    · unfold Solid
      rw [elsewhere tangible.1 same]
      exact fresh.solid other tangible
  case files =>
    intro node found planned kind
    have tangible := regular.tangible found (by simp [kind])
    have unlinked : disk.Solid (.ofPath node.path) := fresh.solid node.id tangible
    obtain ⟨own, dated, newer⟩ := fresh.files node found planned kind
    have old := unlinked.alike (elsewhere tangible.1 (registered_ne found))
    refine ⟨own, by rw [old.1, dated], ?_⟩
    intro dep needed
    by_cases same : dep = id
    · subst same
      have isDir : (disk.touch ⟨dep⟩).isDir ⟨dep⟩ = false := by
        rw [← Bool.not_eq_true, Solid.isDir_iff now]
        show ¬∃ mtime, (disk.touch ⟨dep⟩).bare? (NodeId.location dep) = _
        simp [here]
      have renewed : (disk.touch ⟨dep⟩).mtimeOf ⟨dep⟩ = some disk.clock := by
        rw [Solid.mtimeOf_eq now]
        show ((disk.touch ⟨dep⟩).bare? (NodeId.location dep)).bind _ = _
        rw [here]
        rfl
      -- The clock is ahead of the dependent, and it is the new time of the source.
      have late : own < disk.clock := fresh.timed.mtimeOf_lt dated
      refine iff_of_true ?_ (by simp)
      simp [dirtiedBy, source.1, isDir, renewed, newerThan, late]
    · have depOld (onDisk : registry.OnDisk dep) : disk.Alike (disk.touch ⟨id⟩) ⟨dep⟩ := by
        have depTangible := regular.tangible_needed (mem_of_find? found) needed onDisk
        exact Solid.alike (fresh.solid dep depTangible) (elsewhere depTangible.1 same)
      rw [dirtiedBy_alike depOld, newer dep needed, List.mem_append, List.mem_singleton]
      exact (or_iff_left same).symm
  case directories =>
    intro node found planned kind
    have plainNode := regular.ids node (mem_of_find? found)
    obtain ⟨mtime, there⟩ := fresh.directories node found planned kind
    exact ⟨mtime, (elsewhere plainNode (registered_ne found)).trans there⟩
  case sources =>
    intro node found planned kind dep needed unregistered
    by_cases same : dep = id
    · simp [same, here]
    · rw [elsewhere (regular.prerequisites node (mem_of_find? found) dep needed) same]
      exact fresh.sources node found planned kind dep needed unregistered

theorem touchEach (fresh : registry.Fresh order touched disk) (regular : registry.Regular)
    {ids : List NodeId} (sources : ∀ id ∈ ids, registry.IsSource id)
    (files : ∀ id ∈ ids, ∃ content mtime,
      disk.bare? (NodeId.location id) = some (.file content mtime)) :
    registry.Fresh order (touched ++ ids) (disk.touchEach ids) := by
  induction ids generalizing touched disk with
  | nil => simpa [VirtualDisk.touchEach] using fresh
  | cons id rest ih =>
      obtain ⟨content, mtime, file⟩ := files id (by simp)
      have next := ih (fresh.touch regular (sources id (by simp)) file)
        (fun other member => sources other (by simp [member])) ?_
      · simpa [VirtualDisk.touchEach] using next
      · intro other member
        rw [bare?_touch file]
        split_ifs with same
        · exact ⟨content, disk.clock, rfl⟩
        · exact files other (by simp [member])

end Registry.Fresh

namespace Run.Moment

open Function VirtualDisk Freshness

/-- In the course of the next run, a node is found dirty when it has to be rebuilt, and what is
not dirty is left as it was on the disk `origin`, on which that run began. -/
structure Ruled (registry : Registry) (order touched : List NodeId) (origin : VirtualDisk)
    (m : Moment) : Prop extends Coherent registry order m where
  right : ∀ id dirty, m.verdicts.get? id = some dirty →
    (dirty = true ↔ registry.Rebuilds touched id)
  begun : ∀ id, m.states id = .executing ∨ m.states id = .succeeded →
    m.verdicts.get? id = some true
  skipped : ∀ id, m.states id = .skipped → m.verdicts.get? id = some false
  spared : ∀ id, registry.Tangible id → origin.bare? (NodeId.location id) ≠ none →
    m.verdicts.get? id ≠ some true →
      m.disk.bare? (NodeId.location id) = origin.bare? (NodeId.location id)

namespace Ruled

variable {registry : Registry} {order touched : List NodeId} {origin : VirtualDisk}
  {m next : Moment} {node : Artifact}

theorem alike (ruled : Ruled registry order touched origin m)
    (fresh : registry.Fresh order touched origin) {id : NodeId} (tangible : registry.Tangible id)
    (there : origin.bare? (NodeId.location id) ≠ none)
    (uncalled : m.verdicts.get? id ≠ some true) : origin.Alike m.disk ⟨id⟩ :=
  Solid.alike (fresh.solid id tangible) (ruled.spared id tangible there uncalled)

theorem decided_dep (ruled : Ruled registry order touched origin m)
    (backed : Backed registry m node) {dep : NodeId} (needed : dep ∈ node.nodePrerequisites)
    {prerequisite : Artifact} (registered : registry.find? dep = some prerequisite) :
    dep ∈ order ∧ m.verdicts.get? dep = some (m.known dep) := by
  have satisfied := backed.support dep needed prerequisite registered
  have planned : dep ∈ order := by
    refine ruled.planned dep fun unvisited => ?_
    rw [unvisited] at satisfied
    cases satisfied
  refine ⟨planned, ruled.decided dep planned fun waiting => ?_⟩
  rw [waiting] at satisfied
  cases satisfied

theorem dirtiedBy_iff (ruled : Ruled registry order touched origin m)
    (regular : registry.Regular) (fresh : registry.Fresh order touched origin)
    (sources : ∀ id ∈ touched, registry.IsSource id) (backed : Backed registry m node)
    (planned : node.id ∈ order) (kind : node.kind = .file) {own : Nat}
    (newer : ∀ dep ∈ node.nodePrerequisites,
      (dirtiedBy registry origin (fun _ => false) (some own) dep = true ↔ dep ∈ touched))
    {dep : NodeId} (needed : dep ∈ node.nodePrerequisites) :
    dirtiedBy registry m.disk m.known (some own) dep = true ↔
      dep ∈ touched ∨ (∃ prerequisite, registry.find? dep = some prerequisite ∧
        prerequisite.kind ≠ .directory) ∧ registry.Rebuilds touched dep := by
  have member := Registry.mem_of_find? backed.found
  cases registered : registry.find? dep with
  | none =>
      -- Nobody writes a source, so it is as it was on `origin`.
      have unruled : m.verdicts.get? dep ≠ some true := by
        intro called
        obtain ⟨other, found, _⟩ := ((ruled.right dep true called).mp rfl).registered
        rw [registered] at found
        cases found
      have alike := ruled.alike fresh
        (regular.tangible_source ⟨registered, node, member, needed⟩)
        (fresh.sources node backed.found planned kind dep needed registered) unruled
      have same : dirtiedBy registry m.disk m.known (some own) dep =
          dirtiedBy registry origin (fun _ => false) (some own) dep := by
        simp only [dirtiedBy, registered, alike.1, alike.2]
      rw [same, newer dep needed]
      simp
  | some prerequisite =>
      obtain ⟨depPlanned, decided⟩ := ruled.decided_dep backed needed registered
      have untouched : dep ∉ touched := by
        intro source
        rw [(sources dep source).1] at registered
        cases registered
      have right := ruled.right dep (m.known dep) decided
      simp only [untouched, false_or]
      cases depKind : prerequisite.kind with
      | directory => simp [dirtiedBy, registered, depKind]
      | phony => simpa [dirtiedBy, registered, depKind] using right
      | file =>
          have named := Registry.id_of_find? registered
          subst named
          -- What was passed over is as it was on `origin`, where its dependent was newer.
          have old : m.known prerequisite.id = false →
              newerThan (m.disk.mtimeOf ⟨prerequisite.id⟩) (some own) = false := by
            intro clean
            have tangible := regular.tangible registered (by simp [depKind])
            obtain ⟨_, dated, _⟩ := fresh.files prerequisite registered depPlanned depKind
            have there := Solid.present (fresh.solid prerequisite.id tangible) dated
            have alike := ruled.alike fresh tangible there (by simp [decided, clean])
            have notNewer := (newer prerequisite.id needed).not.mpr untouched
            rw [alike.1]
            simpa [dirtiedBy, registered, depKind] using notNewer
          cases known : m.known prerequisite.id with
          | true =>
              rw [known] at right
              simpa [dirtiedBy, registered, depKind, known] using right
          | false =>
              rw [known] at right
              simpa [dirtiedBy, registered, depKind, known, old known] using right

theorem ruling (ruled : Ruled registry order touched origin m) (regular : registry.Regular)
    (fresh : registry.Fresh order touched origin)
    (sources : ∀ id ∈ touched, registry.IsSource id) (backed : Backed registry m node)
    (waiting : m.states node.id = .evaluating) :
    dirtyGiven registry m.disk m.known node = true ↔ registry.Rebuilds touched node.id := by
  have planned : node.id ∈ order := ruled.planned node.id (by simp [waiting])
  have uncalled : m.verdicts.get? node.id ≠ some true := by
    rw [ruled.undecided node.id waiting]
    nofun
  -- A phony is rebuilt in any case, a directory that is there never; a file as its prerequisites
  -- say.
  cases kind : node.kind with
  | phony => exact iff_of_true (by simp [dirtyGiven, kind]) (.inl ⟨node, backed.found, kind⟩)
  | directory =>
      obtain ⟨mtime, there⟩ := fresh.directories node backed.found planned kind
      have tangible := regular.tangible backed.found (by simp [kind])
      have same := ruled.spared node.id tangible
        (by show origin.bare? node.location ≠ none; simp [there]) uncalled
      have unlinked : m.disk.Solid (.ofPath node.path) := ruled.solid node.id tangible
      have isDir := unlinked.isDir_iff.mpr ⟨mtime, same.trans there⟩
      refine iff_of_false (by simp [dirtyGiven, kind, isDir]) fun rebuilds => ?_
      obtain ⟨other, found, solid⟩ := rebuilds.registered
      rw [backed.found] at found
      cases found
      exact solid kind
  | file =>
      obtain ⟨own, dated, newer⟩ := fresh.files node backed.found planned kind
      have tangible := regular.tangible backed.found (by simp [kind])
      have unlinked : origin.Solid (.ofPath node.path) := fresh.solid node.id tangible
      have there := unlinked.present dated
      have same : m.disk.mtimeOf node.path = some own :=
        (ruled.alike fresh tangible there uncalled).1.trans dated
      rw [Registry.rebuilds_file_iff sources backed.found kind]
      simp only [dirtyGiven, kind, same, Option.isNone_some, Bool.false_or, List.any_eq_true]
      refine exists_congr fun dep => and_congr_right fun needed => ?_
      exact ruled.dirtiedBy_iff regular fresh sources backed planned kind newer needed

theorem own (ruled : Ruled registry order touched origin m) (regular : registry.Regular)
    (fresh : registry.Fresh order touched origin)
    (sources : ∀ id ∈ touched, registry.IsSource id) (acts : Acts registry m next node) :
    (∃ dirty, next.verdicts.get? node.id = some dirty ∧
      (dirty = true ↔ registry.Rebuilds touched node.id) ∧
      (dirty = true ↔ next.states node.id = .executing ∨ next.states node.id = .succeeded) ∧
      (dirty = false ↔ next.states node.id = .skipped)) ∧
    (next.verdicts.get? node.id ≠ some true →
      m.verdicts.get? node.id ≠ some true ∧ next.disk = m.disk) := by
  -- A verdict is given once, while the node waits; later acts keep it.
  cases acts.own with
  | skip waiting clean answer state still =>
      have right := ruled.ruling regular fresh sources acts.backed waiting
      rw [clean] at right
      refine ⟨⟨false, answer, right, by simp [state], by simp [state]⟩, fun _ => ⟨?_, still⟩⟩
      rw [ruled.undecided node.id waiting]
      nofun
  | launch waiting dirty answer state =>
      have right := ruled.ruling regular fresh sources acts.backed waiting
      rw [dirty] at right
      exact ⟨⟨true, answer, right, by simp [state], by simp [state]⟩,
        fun uncalled => absurd answer uncalled⟩
  | perform waiting dirty answer state =>
      have right := ruled.ruling regular fresh sources acts.backed waiting
      rw [dirty] at right
      exact ⟨⟨true, answer, right, by simp [state], by simp [state]⟩,
        fun uncalled => absurd answer uncalled⟩
  | work executing state same =>
      have answer := ruled.begun node.id (.inl executing)
      exact ⟨⟨true, by rw [same, answer], ruled.right node.id true answer, by simp [state],
        by simp [state]⟩, fun uncalled => absurd (same ▸ answer) uncalled⟩
  | succeed executing state same =>
      have answer := ruled.begun node.id (.inl executing)
      exact ⟨⟨true, by rw [same, answer], ruled.right node.id true answer, by simp [state],
        by simp [state]⟩, fun uncalled => absurd (same ▸ answer) uncalled⟩

theorem step (ruled : Ruled registry order touched origin m) (regular : registry.Regular)
    (fresh : registry.Fresh order touched origin)
    (sources : ∀ id ∈ touched, registry.IsSource id) (acts : Acts registry m next node)
    (kept : Kept registry order next) : Ruled registry order touched origin next := by
  obtain ⟨⟨dirty, answer, right, called, passed⟩, still⟩ :=
    ruled.own regular fresh sources acts
  refine ⟨acts.coherent regular ruled.toCoherent kept, ?_, ?_, ?_, ?_⟩
  · intro id other decided
    by_cases same : id = node.id
    · rw [same, answer] at decided
      cases decided
      exact same ▸ right
    · rw [acts.verdicts id same] at decided
      exact ruled.right id other decided
  · intro id state
    by_cases same : id = node.id
    · subst same
      rw [answer, called.mpr state]
    · rw [acts.states id same] at state
      rw [acts.verdicts id same]
      exact ruled.begun id state
  · intro id state
    by_cases same : id = node.id
    · subst same
      rw [answer, passed.mpr state]
    · rw [acts.states id same] at state
      rw [acts.verdicts id same]
      exact ruled.skipped id state
  · intro id tangible there uncalled
    by_cases same : id = node.id
    · subst same
      obtain ⟨before, unchanged⟩ := still uncalled
      rw [unchanged]
      exact ruled.spared node.id tangible there before
    · rw [acts.verdicts id same] at uncalled
      have spared := ruled.spared id tangible there uncalled
      rw [← spared] at there ⊢
      exact acts.kept regular tangible.1 same there

theorem start {plan : Plan} (sound : plan.Sound registry)
    (fresh : registry.Fresh plan.order touched origin) :
    Ruled registry plan.order touched origin (.start plan origin) where
  toCoherent := coherent_start sound fresh.timed fresh.solid
  right := nofun
  begun := by
    intro id state
    have waits := sound.isBegun_get id
    rcases state with executing | succeeded
    · rw [show plan.states.get id = .executing from executing] at waits
      cases waits
    · rw [show plan.states.get id = .succeeded from succeeded] at waits
      cases waits
  skipped := by
    intro id state
    have waits := sound.isBegun_get id
    rw [show plan.states.get id = .skipped from state] at waits
    cases waits
  spared := fun _ _ _ _ => rfl

theorem steps (ruled : Ruled registry order touched origin m) (regular : registry.Regular)
    (fresh : registry.Fresh order touched origin)
    (sources : ∀ id ∈ touched, registry.IsSource id)
    (run : ReflTransGen (Advances registry .rehearsal) m next) :
    Ruled registry order touched origin next := by
  induction run with
  | refl => exact ruled
  | tail _ advances ih =>
      obtain ⟨node, acts⟩ := ih.toCoherent.acts regular advances
      exact ih.step regular fresh sources acts
        (ih.toKept.advances regular.canonical regular.globFree advances)

end Ruled

end Run.Moment

namespace Run

open VirtualDisk

section Rebuilding

variable {registry : Registry} {touched : List NodeId} {plan : Plan} {origin after : VirtualDisk}
  {report : Report} {last : Moment}

theorem Completes.report_iff
    (completes : Completes registry .rehearsal plan origin after report last)
    (regular : registry.Regular) (sound : plan.Sound registry)
    (fresh : registry.Fresh plan.order touched origin)
    (sources : ∀ id ∈ touched, registry.IsSource id) (id : NodeId) :
    (id ∈ report.executed ↔ id ∈ plan.order ∧ registry.Rebuilds touched id) ∧
      (id ∈ report.skipped ↔ id ∈ plan.order ∧ ¬registry.Rebuilds touched id) := by
  have ruled := (Moment.Ruled.start sound fresh).steps regular fresh sources completes.advances
  rw [completes.ledger.executed, completes.ledger.skipped]
  have executed (state : last.states id = .succeeded) : registry.Rebuilds touched id :=
    (ruled.right id true (ruled.begun id (.inr state))).mp rfl
  have skipped (state : last.states id = .skipped) : ¬registry.Rebuilds touched id := by
    intro rebuilt
    cases (ruled.right id false (ruled.skipped id state)).mpr rebuilt
  -- Every planned node has ended one way or the other, which gives the converses.
  have ended (planned : id ∈ plan.order) :
      last.states id = .succeeded ∨ last.states id = .skipped := by
    have satisfied := completes.satisfied id planned
    cases state : last.states id <;> simp_all [NodeState.isSatisfied]
  constructor
  · constructor
    · intro state
      exact ⟨ruled.planned id (by simp [state]), executed state⟩
    · rintro ⟨planned, rebuilt⟩
      exact (ended planned).resolve_right fun state => skipped state rebuilt
  · constructor
    · intro state
      exact ⟨ruled.planned id (by simp [state]), skipped state⟩
    · rintro ⟨planned, spared⟩
      exact (ended planned).resolve_left fun state => spared (executed state)

theorem not_rebuilds (regular : registry.Regular) (sound : plan.Sound registry)
    (lasting : ∀ id ∈ plan.order, ¬registry.IsPhony id) {id : NodeId} (planned : id ∈ plan.order) :
    ¬registry.Rebuilds [] id := by
  rintro (phony | ⟨_, last, path, phony | touched⟩)
  · exact lasting id planned phony
  · obtain ⟨node, found⟩ := phony.imp fun _ known => known.1
    have reached : last ∈ plan.order :=
      sound.ordered.reached planned (regular.requires_of_counts path found).to_reflTransGen
    exact lasting last reached phony
  · cases touched

end Rebuilding

section Twice

variable {W V W' V' : Type} [Disk W] [Mounted W] [Linking W] [Disk V] [Mounted V] [Linking V]
  [Disk W'] [Mounted W'] [Linking W'] [Disk V'] [Mounted V'] [Linking V'] {registry : Registry}

/-- A run is exact about what an earlier one has left to do. After a run that was completed, sources
are touched, and the same targets are run again, by whomever and with as many tasks at a time and in
whatever order he likes. If that run is completed as well, it executes the planned phony nodes and
the planned files from which a chain of prerequisites other than directories leads to a phony node
or to a touched source, each after those that it needs, and it passes over all other planned nodes.
Without any of these it executes nothing. -/
theorem second_run_exact (regular : registry.Regular) {staff : Staff W V}
    (upholds : staff.Upholds .rehearsal) {other : Staff W' V'}
    (otherUpholds : other.Upholds .rehearsal) {settings otherSettings : RunSettings}
    (wet : settings.dryRun = false) (otherWet : otherSettings.dryRun = false)
    {targets : List NodeId} {world : W} (made : (Mounted.disk world).Made)
    (free : (Mounted.disk world).LinkFree) {report : Report}
    (completed : (run staff registry settings targets world).outcome = .completed report)
    {touched : List NodeId} (sources : ∀ id ∈ touched, registry.IsSource id)
    (files : ∀ id ∈ touched,
      (Mounted.disk (run staff registry settings targets world).session.world).isFile ⟨id⟩ = true)
    {otherWorld : W'}
    (renewed : Mounted.disk otherWorld =
      (Mounted.disk (run staff registry settings targets world).session.world).touchEach touched)
    {otherReport : Report}
    (otherCompleted : (run other registry otherSettings targets otherWorld).outcome =
      .completed otherReport) :
    ∃ plan, Plan.make registry targets = .ok plan ∧
      (otherReport.executed ++ otherReport.skipped).Perm plan.order ∧
      (∀ id, id ∈ otherReport.executed ↔ id ∈ plan.order ∧ registry.Rebuilds touched id) ∧
      (∀ id, id ∈ otherReport.skipped ↔ id ∈ plan.order ∧ ¬registry.Rebuilds touched id) ∧
      Preceded (fun id dep => TransGen registry.Requires id dep ∧ dep ∈ otherReport.executed)
        otherReport.executed ∧
      (touched = [] → (∀ id ∈ plan.order, ¬registry.IsPhony id) → otherReport.executed = []) := by
  obtain ⟨plan, last, planned, completes⟩ :=
    run_completes regular.canonical regular.globFree upholds wet completed
  obtain ⟨samePlan, otherLast, replanned, otherCompletes⟩ :=
    run_completes regular.canonical regular.globFree otherUpholds otherWet otherCompleted
  rw [planned] at replanned
  cases replanned
  have sound := Plan.make_sound regular.canonical planned
  -- The first run leaves all up to date, and touching sources takes that from what uses them.
  have left := Registry.Fresh.of_completes regular sound made.timed free completes
  have fresh : registry.Fresh plan.order touched (Mounted.disk otherWorld) := by
    rw [renewed, ← List.nil_append touched]
    refine left.touchEach regular sources fun id member => ?_
    have tangible := regular.tangible_source (sources id member)
    exact (Solid.isFile_iff (left.solid id tangible)).mp (files id member)
  have exactly := otherCompletes.report_iff regular sound fresh sources
  have ruled := (Moment.Ruled.start sound fresh).steps regular fresh sources otherCompletes.advances
  refine ⟨plan, planned, ?_, fun id => (exactly id).1, fun id => (exactly id).2,
    otherCompletes.ledger.preceded, ?_⟩
  · exact otherCompletes.ledger.perm sound.nodup ruled.planned otherCompletes.satisfied
  · rintro rfl lasting
    refine List.eq_nil_iff_forall_not_mem.mpr fun id member => ?_
    obtain ⟨inOrder, rebuilt⟩ := (exactly id).1.mp member
    exact not_rebuilds regular sound lasting inOrder rebuilt

def rack : Registry where
  nodes := [
    (Artifact.file "a" (.run [⟨"make", [], ⟨[]⟩, none, none⟩])).dependsOn "x",
    (Artifact.file "b" (.run [⟨"make", [], ⟨[]⟩, none, none⟩])).dependsOn "a",
    (Artifact.file "c" (.run [⟨"make", [], ⟨[]⟩, none, none⟩])).dependsOn "y"]

def rackPlan : Plan where
  order := ["a", "b", "c"]
  deps := [("c", []), ("b", ["a"]), ("a", [])]
  states := ⟨[("b", .evaluating), ("a", .evaluating), ("c", .evaluating)]⟩

def sourced : Rehearsal.Stage where
  disk := (VirtualDisk.new.write ⟨"x"⟩ []).write ⟨"y"⟩ []

def retouched : Rehearsal.Stage where
  disk :=
    let output := Text.utf8 (Rehearsal.outputOf "make")
    (((sourced.disk.write ⟨"a"⟩ output).write ⟨"b"⟩ output).write ⟨"c"⟩ output).touchEach ["x"]

theorem rack_regular : rack.Regular where
  ids := by decide
  prerequisites := by decide
  globFree := by decide
  files := by decide
  directories := by decide
  redirects := by
    intro node member command commanded redirect redirected
    have unredirected : ∀ node ∈ rack.nodes, ∀ command ∈ commandsOf node.action,
        command.stdout = none := by decide
    rw [unredirected node member command commanded] at redirected
    cases redirected

theorem second_run_exact_rack :
    (run (Rehearsal.worker []).staff rack {} ["b", "c"] sourced).outcome =
        .completed ⟨["a", "b", "c"], []⟩ ∧
      (run (Rehearsal.worker []).staff rack { jobs := 2 } ["b", "c"] retouched).outcome =
        .completed ⟨["a", "b"], ["c"]⟩ ∧
      ∀ id, id ∈ ["a", "b"] ↔ id ∈ rackPlan.order ∧ rack.Rebuilds ["x"] id := by
  have planned : Plan.make rack ["b", "c"] = .ok rackPlan := by rfl
  have first : (run (Rehearsal.worker []).staff rack {} ["b", "c"] sourced).outcome =
      .completed ⟨["a", "b", "c"], []⟩ := by decide +kernel
  have second : (run (Rehearsal.worker []).staff rack { jobs := 2 } ["b", "c"] retouched).outcome =
      .completed ⟨["a", "b"], ["c"]⟩ := by
    unfold run
    rw [planned]
    exact Coordinator.inParallel_of_advance 7 (by decide +kernel)
  have made : (Mounted.disk sourced).Made := ⟨[.add ⟨"x"⟩ [], .add ⟨"y"⟩ []], rfl⟩
  have free : (Mounted.disk sourced).LinkFree :=
    linkFree_write (linkFree_write linkFree_new _ _) _ _
  have sources : ∀ id ∈ ["x"], rack.IsSource id := by
    intro id member
    rw [List.mem_singleton.mp member]
    exact ⟨by decide, by decide⟩
  have files : ∀ id ∈ ["x"], (Mounted.disk (run (Rehearsal.worker []).staff rack {} ["b", "c"]
      sourced).session.world).isFile ⟨id⟩ = true := by
    intro id member
    rw [List.mem_singleton.mp member]
    decide +kernel
  have renewed : Mounted.disk retouched = (Mounted.disk (run (Rehearsal.worker []).staff rack {}
      ["b", "c"] sourced).session.world).touchEach ["x"] := by decide +kernel
  obtain ⟨plan, samePlan, _, executed, _⟩ := second_run_exact rack_regular
    Rehearsal.staff_upholds Rehearsal.staff_upholds rfl rfl made free first sources files renewed
    second
  rw [planned] at samePlan
  cases samePlan
  exact ⟨first, second, executed⟩

def loft : Registry where
  nodes := [{ Artifact.directory "loft" with action := .none }]

theorem loft_simple : loft.Simple where
  ids := by decide
  prerequisites := by decide
  globFree := by decide
  files := by decide
  redirects := by
    intro node member command commanded
    rw [List.mem_singleton.mp member] at commanded
    cases commanded

/-- Without a run that makes all there is to make, something is left to do: a directory that nothing
makes is done again in every run, and a dry run leaves all that it lists to the next run. -/
theorem second_run_inexact :
    (loft.Simple ∧ (∀ touched id, ¬loft.Rebuilds touched id) ∧
      let first := run (Rehearsal.worker []).staff loft {} ["loft"] { disk := .new }
      first.outcome = .completed ⟨["loft"], []⟩ ∧
        (run (Rehearsal.worker []).staff loft {} ["loft"] first.session.world).outcome =
          .completed ⟨["loft"], []⟩) ∧
    (rack.Regular ∧ (∀ id, ¬rack.Rebuilds [] id) ∧
      let first := run (Rehearsal.worker []).staff rack { dryRun := true } ["b", "c"] sourced
      first.outcome = .completed ⟨["a", "b", "c"], []⟩ ∧
        (run (Rehearsal.worker []).staff rack {} ["b", "c"] first.session.world).outcome =
          .completed ⟨["a", "b", "c"], []⟩) := by
  refine ⟨⟨loft_simple, ?_, by decide +kernel, by decide +kernel⟩,
    ⟨rack_regular, ?_, by decide +kernel, by decide +kernel⟩⟩
  · have directories : ∀ node ∈ loft.nodes, node.kind = .directory := by decide
    rintro touched id (⟨node, found, kind⟩ | ⟨⟨node, found, kind⟩, -⟩)
    · rw [directories node (Registry.mem_of_find? found)] at kind
      cases kind
    · rw [directories node (Registry.mem_of_find? found)] at kind
      cases kind
  · have phonyFree : ∀ id, ¬rack.IsPhony id := by
      rintro id ⟨node, found, kind⟩
      have files : ∀ node ∈ rack.nodes, node.kind = .file := by decide
      rw [files node (Registry.mem_of_find? found)] at kind
      cases kind
    rintro id (phony | ⟨-, last, -, phony | touched⟩)
    · exact phonyFree id phony
    · exact phonyFree last phony
    · cases touched

end Twice

end Run

end ArtifactPipeline
