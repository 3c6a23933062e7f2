import ArtifactPipeline.Proofs.SequentialRehearsal

set_option autoImplicit false

/-!
What a completed run leaves to do where some rules make links. A link does not settle when what it
leads to is older than another prerequisite of its own: its action does nothing once it is there.
-/

namespace ArtifactPipeline

open Function VirtualDisk
open Relation (ReflTransGen TransGen)

theorem VirtualDisk.mtimeOf_of_dir {disk : VirtualDisk} {path : Path} {mtime : Nat}
    (lies : disk.bare? (.ofPath path) = some (.dir [] mtime)) : disk.mtimeOf path ≠ none := by
  rw [(solid_of_bare lies (by simp)).mtimeOf_eq, lies]
  nofun

theorem VirtualDisk.isDir_of_dir {disk : VirtualDisk} {path : Path} {mtime : Nat}
    (lies : disk.bare? (.ofPath path) = some (.dir [] mtime)) : disk.isDir path = true :=
  (solid_of_bare lies (by simp)).isDir_iff.mpr ⟨mtime, lies⟩

namespace Freshness

variable {registry : Registry} {disk : VirtualDisk} {known other : NodeId → Bool}
  {own : Option Nat} {dep : NodeId}

theorem dirtiedBy_congr (same : registry.find? dep ≠ none → other dep = known dep) :
    dirtiedBy registry disk other own dep = dirtiedBy registry disk known own dep := by
  unfold dirtiedBy
  cases registered : registry.find? dep with
  | none => rfl
  | some prerequisite => rw [same (by simp [registered])]

theorem dirtiedBy_of_known {prerequisite : Artifact}
    (registered : registry.find? dep = some prerequisite) (kind : prerequisite.kind ≠ .directory)
    (dirty : known dep = true) : dirtiedBy registry disk known own dep = true := by
  unfold dirtiedBy
  rw [registered]
  dsimp only
  cases other : prerequisite.kind with
  | directory => exact absurd other kind
  | phony => exact dirty
  | file => simp [dirty]

end Freshness

namespace Registry

open Freshness

def Lags (registry : Registry) (disk : VirtualDisk) (id : NodeId) : Prop :=
  ∃ node target, registry.find? id = some node ∧ node.action = .symlink target ∧
    ∃ dep ∈ node.nodePrerequisites,
      dirtiedBy registry disk (fun _ => false) (disk.mtimeOf node.path) dep = true

/-- The node is phony, or a file that a chain of prerequisites leads from to a phony node or to a
link that lags, which may be the file itself. -/
def Renews (registry : Registry) (disk : VirtualDisk) (id : NodeId) : Prop :=
  registry.IsPhony id ∨ registry.IsFile id ∧
    ∃ last, ReflTransGen registry.Counts id last ∧ (registry.IsPhony last ∨ registry.Lags disk last)

/-- A file that has been handled: it is not older than what it is made from, unless it is a link;
when it was found clean, so was all that it is made from, and else it has been written as text. -/
structure FileDone (registry : Registry) (disk : VirtualDisk) (known : NodeId → Bool)
    (node : Artifact) : Prop where
  stocked : ∀ dep ∈ node.nodePrerequisites, registry.find? dep = none →
    disk.mtimeOf ⟨dep⟩ ≠ none
  current : Run.commandsOf node.action ≠ [] → ∀ dep ∈ node.nodePrerequisites,
    dirtiedBy registry disk (fun _ => false) (disk.mtimeOf node.path) dep = false
  clean : known node.id = false → ∀ dep ∈ node.nodePrerequisites,
    dirtiedBy registry disk known (disk.mtimeOf node.path) dep = false
  legible : known node.id = true → Run.commandsOf node.action ≠ [] →
    Rehearsal.Legible disk node.location

structure Done (registry : Registry) (disk : VirtualDisk) (known : NodeId → Bool)
    (node : Artifact) : Prop where
  there : node.kind ≠ .phony → disk.mtimeOf node.path ≠ none
  dir : node.action = .createDir → ∃ mtime, disk.bare? node.location = some (.dir [] mtime)
  phony : node.kind = .phony → known node.id = true
  file : node.kind = .file → FileDone registry disk known node

variable {registry : Registry} {order done : List NodeId} {node user : Artifact} {id : NodeId}
  {disk before after : VirtualDisk} {known later : NodeId → Bool}

theorem Done.alike (finished : Done registry before known user)
    (own : user.kind ≠ .phony → before.Alike after user.path)
    (kept : before.bare? user.location ≠ none →
      after.bare? user.location = before.bare? user.location)
    (deps : user.kind = .file → ∀ dep ∈ user.nodePrerequisites, registry.OnDisk dep →
      before.Alike after ⟨dep⟩)
    (same : later user.id = known user.id)
    (sameDeps : ∀ dep ∈ user.nodePrerequisites, registry.find? dep ≠ none →
      later dep = known dep) : Done registry after later user where
  there kind := by
    rw [(own kind).1]
    exact finished.there kind
  dir making := by
    obtain ⟨mtime, lies⟩ := finished.dir making
    exact ⟨mtime, by rw [kept (by simp [lies]), lies]⟩
  phony kind := same.trans (finished.phony kind)
  file kind := by
    have file := finished.file kind
    have ownAlike := own (by simp [kind])
    refine ⟨?_, ?_, ?_, ?_⟩
    · intro dep needed unregistered
      rw [(deps kind dep needed (by simp [OnDisk, unregistered])).1]
      exact file.stocked dep needed unregistered
    · intro commanded dep needed
      rw [ownAlike.1, dirtiedBy_alike (deps kind dep needed)]
      exact file.current commanded dep needed
    · intro clean dep needed
      rw [ownAlike.1, dirtiedBy_alike (deps kind dep needed),
        dirtiedBy_congr (sameDeps dep needed)]
      exact file.clean (same ▸ clean) dep needed
    · intro dirty commanded
      obtain ⟨text, mtime, lies⟩ := file.legible (same ▸ dirty) commanded
      exact ⟨text, mtime, by rw [kept (by simp [lies]), lies]⟩

/-- A node whose turn it is: it has not been handled, and its registered prerequisites have, after
theirs. -/
structure Awaits (registry : Registry) (done : List NodeId) (node : Artifact) : Prop where
  found : registry.find? node.id = some node
  fresh : node.id ∉ done
  supported : ∀ dep ∈ node.nodePrerequisites, registry.find? dep ≠ none → dep ∈ done
  closed : ∀ user, registry.find? user.id = some user → user.id ∈ done →
    ∀ dep ∈ user.nodePrerequisites, registry.find? dep ≠ none → dep ∈ done

theorem needed_done {plan : Plan} (sound : plan.Sound registry) (linked : registry.Linked)
    {rest : List NodeId} (split : plan.order = done ++ rest)
    (found : registry.find? user.id = some user) (member : user.id ∈ done) {dep : NodeId}
    (needed : dep ∈ user.nodePrerequisites) (registered : registry.find? dep ≠ none) :
    dep ∈ done := by
  obtain ⟨front, back, rfl⟩ := List.append_of_mem member
  have spelled := (linked.prerequisites user (mem_of_find? found) dep needed).spelled
  have requires : registry.Requires user.id dep :=
    ⟨user, found, needed, (contains_iff spelled).mpr (Option.ne_none_iff_exists'.mp registered)⟩
  have earlier := sound.ordered.preceded front user.id (back ++ rest) (by simp [split]) dep requires
  exact List.mem_append_left _ earlier

theorem awaits_of_split {plan : Plan} (sound : plan.Sound registry) (linked : registry.Linked)
    {rest : List NodeId} (split : plan.order = done ++ node.id :: rest)
    (found : registry.find? node.id = some node) : registry.Awaits done node where
  found := found
  fresh := by
    have distinct := sound.nodup
    rw [split, List.nodup_append] at distinct
    exact fun member => distinct.2.2 node.id member node.id (by simp) rfl
  supported dep needed registered := by
    have spelled := (linked.prerequisites node (mem_of_find? found) dep needed).spelled
    exact sound.ordered.preceded done node.id rest split dep
      ⟨node, found, needed, (contains_iff spelled).mpr (Option.ne_none_iff_exists'.mp registered)⟩
  closed _ userFound member _ := needed_done sound linked split userFound member

theorem Awaits.alike (awaits : registry.Awaits done node) (linked : registry.Linked)
    (laid : registry.Laid before) (leaves : node.Leaves before after)
    (tangible : registry.Tangible id) (behind : registry.find? id ≠ none → id ∈ done)
    (there : before.mtimeOf ⟨id⟩ ≠ none) : before.Alike after ⟨id⟩ := by
  have known : registry.find? node.id ≠ none := by simp [awaits.found]
  refine laid.alike (laid.leaves linked awaits.found leaves) linked tangible there ?_
  intro base shows present
  refine leaves.kept _ ?_ present
  refine linked.location_ne awaits.found (linked.plain_shows tangible.1 shows) ?_
  -- The place that the looks hang on belongs to the id or to a prerequisite of its node.
  rcases shows with rfl | ⟨user, found, -, needed, -⟩
  · rintro rfl
    exact awaits.fresh (behind known)
  · have named := id_of_find? found
    subst named
    rintro rfl
    exact awaits.fresh (awaits.closed user found (behind (by simp [found])) node.id needed known)

/-- In the course of a run: links lie where the rules make them, and whatever has been handled is
done. -/
structure Underway (registry : Registry) (done : List NodeId) (disk : VirtualDisk)
    (known : NodeId → Bool) : Prop where
  laid : registry.Laid disk
  timed : disk.Timed
  finished : ∀ node, registry.find? node.id = some node → node.id ∈ done →
    registry.Done disk known node

namespace Underway

theorem present (underway : registry.Underway done disk known) {dep : NodeId}
    (behind : registry.find? dep ≠ none → dep ∈ done)
    (stocked : registry.find? dep = none → disk.mtimeOf ⟨dep⟩ ≠ none)
    (real : ∀ other, registry.find? dep = some other → other.kind ≠ .phony) :
    disk.mtimeOf ⟨dep⟩ ≠ none := by
  cases registered : registry.find? dep with
  | none => exact stocked registered
  | some other =>
      have named := id_of_find? registered
      subst named
      exact (underway.finished other registered (behind (by simp [registered]))).there
        (real other registered)

theorem alike_dep (underway : registry.Underway done before known) (linked : registry.Linked)
    (awaits : registry.Awaits done node) (leaves : node.Leaves before after)
    (found : registry.find? user.id = some user)
    (behind : ∀ dep ∈ user.nodePrerequisites, registry.find? dep ≠ none → dep ∈ done)
    (stocked : ∀ dep ∈ user.nodePrerequisites, registry.find? dep = none →
      before.mtimeOf ⟨dep⟩ ≠ none) {dep : NodeId}
    (needed : dep ∈ user.nodePrerequisites)
    (real : ∀ other, registry.find? dep = some other → other.kind ≠ .phony) :
    before.Alike after ⟨dep⟩ :=
  awaits.alike linked underway.laid leaves (linked.tangible_needed found needed real)
    (behind dep needed) (underway.present (behind dep needed) (stocked dep needed) real)

theorem other (underway : registry.Underway done before known) (linked : registry.Linked)
    (awaits : registry.Awaits done node) (leaves : node.Leaves before after) (dirty : Bool)
    (found : registry.find? user.id = some user) (member : user.id ∈ done) :
    registry.Done after (update known node.id dirty) user := by
  have finished := underway.finished user found member
  have ne_of_mem {id : NodeId} (member : id ∈ done) : id ≠ node.id := by
    rintro rfl
    exact awaits.fresh member
  -- What was handled before, and what it is made from, lies elsewhere than the node.
  have apart : user.location ≠ node.location :=
    linked.location_ne awaits.found (linked.ids user (mem_of_find? found)) (ne_of_mem member)
  refine finished.alike ?_ (leaves.kept _ apart) ?_ (update_of_ne (ne_of_mem member) ..) ?_
  · intro kind
    exact awaits.alike linked underway.laid leaves (linked.tangible found kind) (fun _ => member)
      (finished.there kind)
  · intro kind dep needed onDisk
    exact underway.alike_dep linked awaits leaves found (awaits.closed user found member)
      (finished.file kind).stocked needed fun other registered => by simp [onDisk other registered]
  · intro dep needed registered
    exact update_of_ne (ne_of_mem (awaits.closed user found member dep needed registered)) ..

theorem own_clean (underway : registry.Underway done disk known) (linked : registry.Linked)
    (awaits : registry.Awaits done node)
    (stocked : node.kind = .file → ∀ dep ∈ node.nodePrerequisites, registry.find? dep = none →
      disk.mtimeOf ⟨dep⟩ ≠ none) (clean : dirtyGiven registry disk known node = false) :
    registry.Done disk (update known node.id false) node := by
  have member := mem_of_find? awaits.found
  cases kind : node.kind with
  | phony => simp [dirtyGiven, kind] at clean
  | directory =>
      have making := linked.directories node member kind
      have ground : registry.Ground node.id := by
        intro other found
        cases awaits.found.symm.trans found
        simp [kind, making]
      have solid := underway.laid.solid (linked.tangible awaits.found (by simp [kind])) ground
      have there : disk.isDir node.path = true := by simpa [dirtyGiven, kind] using clean
      obtain ⟨mtime, lies⟩ := (Solid.isDir_iff solid).mp there
      exact ⟨fun _ => mtimeOf_of_dir lies, fun _ => ⟨mtime, lies⟩, by simp [kind], by simp [kind]⟩
  | file =>
      simp only [dirtyGiven, kind, Bool.or_eq_false_iff, Option.isNone_eq_false_iff,
        List.any_eq_false, Bool.not_eq_true] at clean
      obtain ⟨there, clean⟩ := clean
      refine ⟨fun _ => Option.isSome_iff_ne_none.mp there,
        fun making => absurd making (linked.ne_createDir member kind), by simp [kind], fun _ => ?_⟩
      refine ⟨stocked kind, ?_, ?_, ?_⟩
      · -- Whatever is newer would have made the file dirty.
        intro _ dep needed
        rw [← Bool.not_eq_true]
        intro newer
        have dirty : dirtiedBy registry disk known (disk.mtimeOf node.path) dep = true :=
          dirtiedBy_of_newer newer
        rw [clean dep needed] at dirty
        cases dirty
      · intro _ dep needed
        rw [dirtiedBy_congr fun registered => ?_]
        · exact clean dep needed
        · refine update_of_ne ?_ ..
          rintro rfl
          exact awaits.fresh (awaits.supported node.id needed registered)
      · intro dirty
        simp at dirty

section File

variable (underway : registry.Underway done before known) (linked : registry.Linked)
  (awaits : registry.Awaits done node)
  (stocked : ∀ dep ∈ node.nodePrerequisites, registry.find? dep = none →
    before.mtimeOf ⟨dep⟩ ≠ none)

include underway linked awaits stocked

theorem supply (leaves : node.Leaves before after) {dep : NodeId}
    (needed : dep ∈ node.nodePrerequisites)
    (real : ∀ other, registry.find? dep = some other → other.kind ≠ .phony) :
    before.Alike after ⟨dep⟩ ∧ after.mtimeOf ⟨dep⟩ ≠ none := by
  have alike := underway.alike_dep linked awaits leaves awaits.found awaits.supported stocked
    needed real
  refine ⟨alike, ?_⟩
  rw [alike.1]
  exact underway.present (awaits.supported dep needed) (stocked dep needed) real

theorem current_write {middle : VirtualDisk} (leaves : node.Leaves before middle)
    (content : List UInt8) {dep : NodeId} (needed : dep ∈ node.nodePrerequisites) :
    let written := middle.write node.path content
    dirtiedBy registry written (fun _ => false) (written.mtimeOf node.path) dep = false := by
  intro written
  have laid := underway.laid.leaves linked awaits.found leaves
  have own : written.bare? (.ofPath node.path) = _ := bare?_write_self middle node.path content
  have now : written.mtimeOf node.path = some middle.clock := by
    rw [(solid_of_bare own (by simp)).mtimeOf_eq, own]
    rfl
  rw [now]
  refine dirtiedBy_older fun onDisk mtime dated => ?_
  have real (other : Artifact) (registered : registry.find? dep = some other) :
      other.kind ≠ .phony := by simp [onDisk other registered]
  obtain ⟨-, there⟩ := underway.supply linked awaits stocked leaves needed real
  have late := awaits.alike linked laid (.write node middle content)
    (linked.tangible_needed awaits.found needed real) (awaits.supported dep needed) there
  rw [late.1] at dated
  exact Nat.le_of_lt ((leaves.timed underway.timed).mtimeOf_lt dated)

theorem mtimeOf_link {target : Path} (linking : node.action = .symlink target) :
    (before.insertEntry node.location (.link target)).mtimeOf node.path ≠ none := by
  obtain ⟨-, dep, ⟨needed, _, action, there⟩, ground⟩ := linked.links awaits.found linking
  cases linking.symm.trans action
  have real (other : Artifact) (registered : registry.find? dep = some other) :=
    (ground other registered).1
  have leaves := Artifact.Leaves.link linking before
  have laid := underway.laid.leaves linked awaits.found leaves
  have solid := laid.solid (linked.tangible_needed awaits.found needed real) ground
  rw [← there] at solid
  have shown := follow_of_link (bare?_insertEntry_self before node.location (.link target)) solid
  rw [there] at shown
  have alike : mtimeOf _ node.path = mtimeOf _ ⟨dep⟩ := mtimeOf_eq_of_follow shown
  rw [alike]
  exact (underway.supply linked awaits stocked leaves needed real).2

end File

theorem own_dirty (underway : registry.Underway done before known) (linked : registry.Linked)
    (awaits : registry.Awaits done node)
    (stocked : node.kind = .file → ∀ dep ∈ node.nodePrerequisites, registry.find? dep = none →
      before.mtimeOf ⟨dep⟩ ≠ none) (does : node.Does before after) :
    registry.Done after (update known node.id true) node := by
  have member := mem_of_find? awaits.found
  have still (kind : node.kind = .file) (dep : NodeId) (needed : dep ∈ node.nodePrerequisites)
      (unregistered : registry.find? dep = none) : after.mtimeOf ⟨dep⟩ ≠ none :=
    (underway.supply linked awaits (stocked kind) does.leaves needed (by simp [unregistered])).2
  have idle (kind : node.kind = .file) (uncommanded : Run.commandsOf node.action = []) :
      registry.FileDone after (update known node.id true) node := by
    refine ⟨still kind, fun commanded => absurd uncommanded commanded, ?_,
      fun _ commanded => absurd uncommanded commanded⟩
    intro clean
    simp at clean
  -- The file is written behind all its prerequisites, so that none of them is newer.
  cases does with
  | @write middle text kind leaves =>
      have lies : (middle.write node.path (Text.utf8 text)).bare? (.ofPath node.path) = _ :=
        bare?_write_self middle node.path _
      refine ⟨fun _ => ?_, fun making => absurd making (linked.ne_createDir member kind),
        fun _ => update_self .., fun _ => ⟨still kind, ?_, ?_, ?_⟩⟩
      · rw [(solid_of_bare lies (by simp)).mtimeOf_eq, lies]
        nofun
      · intro _ dep needed
        exact underway.current_write linked awaits (stocked kind) leaves _ needed
      · intro clean
        simp at clean
      · exact fun _ _ => Rehearsal.legible_write middle node.path text
  | @makeDir _ mtime making leaves made =>
      exact ⟨fun _ => mtimeOf_of_dir made, fun _ => ⟨mtime, made⟩, fun _ => update_self ..,
        fun kind => idle kind (by rw [making]; rfl)⟩
  | link linking =>
      have kind := (linked.links awaits.found linking).1
      exact ⟨fun _ => underway.mtimeOf_link linked awaits (stocked kind) linking,
        by simp [linking], by simp [kind], fun _ => idle kind (by rw [linking]; rfl)⟩
  | nothing making rest =>
      refine ⟨fun real => ?_, fun created => absurd created making, fun _ => update_self ..,
        fun kind => idle kind (rest kind).1⟩
      cases kind : node.kind with
      | phony => exact absurd kind real
      | directory => exact absurd (linked.directories node member kind) making
      | file => exact (rest kind).2

theorem step (underway : registry.Underway done before known) (linked : registry.Linked)
    (awaits : registry.Awaits done node)
    (stocked : node.kind = .file → ∀ dep ∈ node.nodePrerequisites, registry.find? dep = none →
      before.mtimeOf ⟨dep⟩ ≠ none)
    (does : dirtyGiven registry before known node = true → node.Does before after)
    (still : dirtyGiven registry before known node = false → after = before) :
    registry.Underway (done ++ [node.id]) after
      (update known node.id (dirtyGiven registry before known node)) := by
  have leaves : node.Leaves before after := by
    cases dirty : dirtyGiven registry before known node with
    | true => exact (does dirty).leaves
    | false => exact still dirty ▸ .refl node before
  refine ⟨underway.laid.leaves linked awaits.found leaves, leaves.timed underway.timed, ?_⟩
  intro user found member
  -- Whoever was handled before stays done; the node itself is clean or has just been made.
  by_cases earlier : user.id ∈ done
  · exact underway.other linked awaits leaves _ found earlier
  · have same : user.id = node.id := by simpa [earlier] using member
    rw [same, awaits.found] at found
    cases found
    cases dirty : dirtyGiven registry before known node with
    | true => exact underway.own_dirty linked awaits stocked (does dirty)
    | false => exact still dirty ▸ underway.own_clean linked awaits stocked dirty

end Underway

variable {plan : Plan}

theorem needed_planned (linked : registry.Linked) (sound : plan.Sound registry)
    (found : registry.find? node.id = some node) (planned : node.id ∈ plan.order) {dep : NodeId}
    (needed : dep ∈ node.nodePrerequisites) (registered : registry.find? dep ≠ none) :
    dep ∈ plan.order :=
  needed_done sound linked (List.append_nil _).symm found planned needed registered

theorem Underway.of_stale (underway : registry.Underway plan.order disk known)
    (linked : registry.Linked) (sound : plan.Sound registry) {motive : NodeId → Prop}
    (phony : ∀ node, registry.find? node.id = some node → node.id ∈ plan.order →
      node.kind = .phony → motive node.id)
    (newer : ∀ node, registry.find? node.id = some node → node.id ∈ plan.order →
      node.kind = .file → ∀ dep ∈ node.nodePrerequisites,
        dirtiedBy registry disk (fun _ => false) (disk.mtimeOf node.path) dep = true →
          motive node.id)
    (inherited : ∀ node, registry.find? node.id = some node → node.id ∈ plan.order →
      node.kind = .file → ∀ dep, registry.find? dep.id = some dep →
        dep.id ∈ node.nodePrerequisites → dep.kind ≠ .directory → motive dep.id → motive node.id)
    (stale : Stale registry disk id) (planned : id ∈ plan.order) : motive id := by
  -- What is planned has been made, so that nothing is stale for being missing.
  induction stale with
  | @phony node found kind => exact phony node found planned kind
  | @noDirectory node found kind missing =>
      obtain ⟨mtime, lies⟩ := (underway.finished node found planned).dir
        (linked.directories node (mem_of_find? found) kind)
      have there : disk.isDir node.path = true := isDir_of_dir lies
      rw [there] at missing
      cases missing
  | @noFile node found kind missing =>
      exact absurd missing ((underway.finished node found planned).there (by simp [kind]))
  | @newerSource node dep found kind needed unregistered plain late =>
      refine newer node found planned kind dep needed ?_
      simp [dirtiedBy, unregistered, plain, late]
  | @newerOutput node dep found kind needed registered depKind late =>
      have late : newerThan (disk.mtimeOf ⟨dep.id⟩) (disk.mtimeOf node.path) = true := late
      refine newer node found planned kind dep.id needed ?_
      simp [dirtiedBy, registered, depKind, late]
  | @inherited node dep found kind needed registered depKind _ ih =>
      refine inherited node found planned kind dep registered needed depKind (ih ?_)
      exact needed_planned linked sound found planned needed (by simp [registered])

theorem counts_planned (linked : registry.Linked) (sound : plan.Sound registry) {last : NodeId}
    (path : ReflTransGen registry.Counts id last) (planned : id ∈ plan.order)
    (registered : registry.find? last ≠ none) : last ∈ plan.order := by
  induction path with
  | refl => exact planned
  | tail _ counts ih =>
      obtain ⟨user, found, needed, -⟩ := counts
      have named := id_of_find? found
      subst named
      exact needed_planned linked sound found (ih (by simp [found])) needed registered

theorem Underway.known_of_stale (underway : registry.Underway plan.order disk known)
    (linked : registry.Linked) (sound : plan.Sound registry) (stale : Stale registry disk id)
    (planned : id ∈ plan.order) : known id = true := by
  -- By induction on why it is stale: a file that was found clean has no reason to be.
  refine underway.of_stale linked sound (motive := fun id => known id = true) ?_ ?_ ?_ stale planned
  · intro node found planned kind
    exact (underway.finished node found planned).phony kind
  · intro node found planned kind dep needed newer
    by_contra clean
    have spared := ((underway.finished node found planned).file kind).clean (by simpa using clean)
      dep needed
    rw [dirtiedBy_of_newer newer] at spared
    cases spared
  · intro node found planned kind dep registered needed depKind dirty
    by_contra clean
    have spared := ((underway.finished node found planned).file kind).clean (by simpa using clean)
      dep.id needed
    rw [dirtiedBy_of_known registered depKind dirty] at spared
    cases spared

open Classical in
theorem stale_of_dirtied (found : registry.find? node.id = some node) (kind : node.kind = .file)
    {dep : NodeId} (needed : dep ∈ node.nodePrerequisites)
    (dirtied : dirtiedBy registry disk (fun id => decide (Stale registry disk id))
      (disk.mtimeOf node.path) dep = true) : Stale registry disk node.id := by
  refine (stale_iff found).mpr ?_
  simp only [dirtyGiven, kind, Bool.or_eq_true, List.any_eq_true]
  exact .inr ⟨dep, needed, dirtied⟩

theorem Underway.stale_iff_renews (underway : registry.Underway plan.order disk known)
    (linked : registry.Linked) (sound : plan.Sound registry) (planned : id ∈ plan.order) :
    Stale registry disk id ↔ registry.Renews disk id := by
  constructor
  -- A file with commands was written last, so only a link can be older than what it is made from.
  · intro stale
    refine underway.of_stale linked sound ?_ ?_ ?_ stale planned
    · intro node found _ kind
      exact .inl ⟨node, found, kind⟩
    · intro node found planned kind dep needed newer
      have file := (underway.finished node found planned).file kind
      rcases linked.file_cases (mem_of_find? found) kind with commanded | ⟨target, linking⟩
      · rw [file.current commanded dep needed] at newer
        cases newer
      · exact .inr ⟨⟨node, found, kind⟩, node.id, .refl,
          .inr ⟨node, target, found, linking, dep, needed, newer⟩⟩
    · intro node found _ kind dep registered needed depKind renews
      have counts : registry.Counts node.id dep.id := by
        refine ⟨node, found, needed, fun other known => ?_⟩
        cases registered.symm.trans known
        exact depKind
      rcases renews with phony | ⟨_, last, path, ends⟩
      · exact .inr ⟨⟨node, found, kind⟩, dep.id, .single counts, .inl phony⟩
      · exact .inr ⟨⟨node, found, kind⟩, last, .head counts path, ends⟩
  · rintro (⟨node, found, kind⟩ | ⟨⟨node, found, kind⟩, last, path, ends⟩)
    · have named := id_of_find? found
      subst named
      exact .phony found kind
    · -- From the end of the chain staleness is handed on to what is made from it.
      have handed : ∃ node, registry.find? id = some node ∧
          (node.kind ≠ .directory → Stale registry disk id) := by
        clear planned found kind
        induction path using ReflTransGen.head_induction_on with
        | refl =>
            rcases ends with ⟨node, found, kind⟩ | ⟨node, _, found, linking, dep, needed, newer⟩
            · have named := id_of_find? found
              subst named
              exact ⟨node, found, fun _ => .phony found kind⟩
            · have named := id_of_find? found
              subst named
              exact ⟨node, found, fun _ => stale_of_dirtied found (linked.links found linking).1
                needed (dirtiedBy_of_newer newer)⟩
        | @head first second counts _ ih =>
            obtain ⟨node, found, needed, solid⟩ := counts
            obtain ⟨prerequisite, registered, stale⟩ := ih
            have named := id_of_find? found
            subst named
            refine ⟨node, found, fun real => ?_⟩
            have depKind := solid prerequisite registered
            cases kind : node.kind with
            | directory => exact absurd kind real
            | phony => exact .phony found kind
            | file =>
                exact stale_of_dirtied found kind needed
                  (dirtiedBy_of_known registered depKind (by simpa using stale depKind))
      obtain ⟨other, known, stale⟩ := handed
      cases found.symm.trans known
      exact stale (by simp [kind])

theorem Renews.registered (renews : registry.Renews disk id) :
    ∃ node, registry.find? id = some node ∧ node.kind ≠ .directory := by
  rcases renews with ⟨node, found, kind⟩ | ⟨⟨node, found, kind⟩, -⟩
  · exact ⟨node, found, by simp [kind]⟩
  · exact ⟨node, found, by simp [kind]⟩

variable {origin : VirtualDisk} {first : NodeId → Bool}

/-- In the course of the next run, which began on the disk `origin`: what was stale there is found
dirty, and the places of all else are left as they were. -/
structure Repeats (registry : Registry) (origin : VirtualDisk) (done : List NodeId)
    (disk : VirtualDisk) (known : NodeId → Bool) : Prop where
  laid : registry.Laid disk
  present : ∀ loc, origin.bare? loc ≠ none → disk.bare? loc ≠ none
  spared : ∀ id, NodeId.Plain id → (id ∈ done → ¬Stale registry origin id) →
    origin.bare? (NodeId.location id) ≠ none →
      disk.bare? (NodeId.location id) = origin.bare? (NodeId.location id)
  right : ∀ id ∈ done, (known id = true ↔ Stale registry origin id)

namespace Repeats

theorem alike (repeats : registry.Repeats origin done disk known) (linked : registry.Linked)
    (laid : registry.Laid origin) (tangible : registry.Tangible id)
    (there : origin.mtimeOf ⟨id⟩ ≠ none)
    (calm : ∀ base, registry.Shows id base → base ∈ done → ¬Stale registry origin base) :
    origin.Alike disk ⟨id⟩ :=
  laid.alike repeats.laid linked tangible there fun base shows =>
    repeats.spared base (linked.plain_shows tangible.1 shows) (calm base shows)

theorem dated (repeats : registry.Repeats origin done disk known) (linked : registry.Linked)
    (laid : registry.Laid origin) (tangible : registry.Tangible id) (fresh : id ∉ done)
    (there : origin.mtimeOf ⟨id⟩ ≠ none) : disk.mtimeOf ⟨id⟩ ≠ none := by
  refine laid.dated repeats.laid linked tangible there ?_ fun base => repeats.present _
  exact repeats.spared id tangible.1 (absurd · fresh) (bare?_ne_none_of_mtimeOf there)

open Classical in
theorem ruling (repeats : registry.Repeats origin done disk known) (linked : registry.Linked)
    (sound : plan.Sound registry) (left : registry.Underway plan.order origin first)
    (awaits : registry.Awaits done node) (planned : node.id ∈ plan.order)
    (before : ∀ id ∈ done, id ∈ plan.order) :
    dirtyGiven registry disk known node = true ↔ Stale registry origin node.id := by
  have finished := left.finished node awaits.found planned
  have registered {id : NodeId} (member : id ∈ done) (stale : Stale registry origin id) :=
    ((left.stale_iff_renews linked sound (before id member)).mp stale).registered
  cases kind : node.kind with
  | phony => exact iff_of_true (by simp [dirtyGiven, kind]) (.phony awaits.found kind)
  | directory =>
      obtain ⟨mtime, lies⟩ := finished.dir
        (linked.directories node (mem_of_find? awaits.found) kind)
      have same := repeats.spared node.id (linked.ids node (mem_of_find? awaits.found))
        (absurd · awaits.fresh) (by show origin.bare? node.location ≠ none; simp [lies])
      have there : disk.isDir node.path = true := isDir_of_dir (same.trans lies)
      refine iff_of_false (by simp [dirtyGiven, kind, there]) ?_
      intro stale
      obtain ⟨other, found, solid⟩ :=
        ((left.stale_iff_renews linked sound planned).mp stale).registered
      cases awaits.found.symm.trans found
      exact solid kind
  | file =>
      have tangible := linked.tangible awaits.found (by simp [kind])
      by_cases inherits : ∃ dep ∈ node.nodePrerequisites, ∃ other,
          registry.find? dep = some other ∧ other.kind ≠ .directory ∧ Stale registry origin dep
      · obtain ⟨dep, needed, other, depFound, solid, stale⟩ := inherits
        have handled := awaits.supported dep needed (by simp [depFound])
        refine iff_of_true ?_ ?_
        · simp only [dirtyGiven, kind, Bool.or_eq_true, List.any_eq_true]
          exact .inr ⟨dep, needed, dirtiedBy_of_known depFound solid
            ((repeats.right dep handled).mpr stale)⟩
        · exact stale_of_dirtied awaits.found kind needed
            (dirtiedBy_of_known depFound solid (by simpa using stale))
      · -- Nothing that the node is made from has changed, so the oracle sees the same as before.
        have calm (dep : NodeId) (needed : dep ∈ node.nodePrerequisites) (member : dep ∈ done) :
            ¬Stale registry origin dep := by
          intro stale
          obtain ⟨other, depFound, solid⟩ := registered member stale
          exact inherits ⟨dep, needed, other, depFound, solid, stale⟩
        have own : origin.Alike disk node.path := by
          refine repeats.alike linked left.laid tangible (finished.there (by simp [kind])) ?_
          rintro base (rfl | ⟨user, found, -, needed, -⟩) member
          · exact absurd member awaits.fresh
          · cases awaits.found.symm.trans found
            exact calm base needed member
        have deps (dep : NodeId) (needed : dep ∈ node.nodePrerequisites)
            (onDisk : registry.OnDisk dep) : origin.Alike disk ⟨dep⟩ := by
          have real (other : Artifact) (depFound : registry.find? dep = some other) :
              other.kind ≠ .phony := by simp [onDisk other depFound]
          have there := left.present
            (needed_planned linked sound awaits.found planned needed)
            ((finished.file kind).stocked dep needed) real
          refine repeats.alike linked left.laid
            (linked.tangible_needed awaits.found needed real) there ?_
          rintro base (rfl | ⟨user, found, isFile, further, -⟩) member stale
          · exact calm base needed member stale
          · -- A link to something stale is stale itself.
            have named := id_of_find? found
            subst named
            obtain ⟨other, baseFound, solid⟩ := registered member stale
            refine calm user.id needed (awaits.supported _ needed (by simp [found])) ?_
            exact stale_of_dirtied found isFile further
              (dirtiedBy_of_known baseFound solid (by simpa using stale))
        rw [stale_iff awaits.found]
        simp only [dirtyGiven, kind, own.1, Bool.or_eq_true, List.any_eq_true]
        refine or_congr_right (exists_congr fun dep => and_congr_right fun needed => ?_)
        rw [dirtiedBy_alike (deps dep needed), dirtiedBy_congr fun depFound => ?_]
        have right := repeats.right dep (awaits.supported dep needed depFound)
        rw [Bool.eq_iff_iff, right]
        simp

theorem step (repeats : registry.Repeats origin done before known) (linked : registry.Linked)
    (awaits : registry.Awaits done node) {dirty : Bool}
    (ruling : dirty = true ↔ Stale registry origin node.id)
    (does : dirty = true → node.Does before after) (still : dirty = false → after = before) :
    registry.Repeats origin (done ++ [node.id]) after (update known node.id dirty) := by
  have leaves : node.Leaves before after := by
    cases dirty with
    | true => exact (does rfl).leaves
    | false => exact still rfl ▸ .refl node before
  refine ⟨repeats.laid.leaves linked awaits.found leaves,
    fun loc there => leaves.present (repeats.present loc there), ?_, ?_⟩
  · intro id plain calm there
    have earlier (calm : id ∈ done → ¬Stale registry origin id) :=
      repeats.spared id plain calm there
    by_cases same : id = node.id
    · -- The place of the node itself is spared only when nothing was done.
      have spared : dirty = false := by
        rw [← Bool.not_eq_true, ruling, ← same]
        exact calm (by simp [same])
      rw [still spared]
      exact earlier fun member => absurd (same ▸ member) awaits.fresh
    · have unchanged := earlier fun member => calm (by simp [member])
      rw [← unchanged] at there ⊢
      exact leaves.kept _ (linked.location_ne awaits.found plain same) there
  · intro id member
    by_cases same : id = node.id
    · rw [same, update_self, ruling]
    · rw [update_of_ne same]
      exact repeats.right id (by simpa [same] using member)

theorem able (repeats : registry.Repeats origin done disk known) (linked : registry.Linked)
    (sound : plan.Sound registry) (left : registry.Underway plan.order origin first)
    (awaits : registry.Awaits done node) (planned : node.id ∈ plan.order)
    (stale : Stale registry origin node.id) : ∃ after, Rehearsal.Enacts node disk after := by
  have member := mem_of_find? awaits.found
  have finished := left.finished node awaits.found planned
  have same {entry : Entry} (lies : origin.bare? node.location = some entry) :
      disk.bare? node.location = some entry := by
    have spared := repeats.spared node.id (linked.ids node member) (absurd · awaits.fresh)
    exact (spared (by show origin.bare? node.location ≠ none; simp [lies])).trans lies
  -- The run before has left text, a directory or a link at the place, and nothing came after it.
  refine Rehearsal.exists_enacts linked awaits.found ?_ ?_ ?_
  · intro kind commanded
    obtain ⟨text, mtime, lies⟩ := (finished.file kind).legible
      (left.known_of_stale linked sound stale planned) commanded
    exact ⟨text, mtime, same lies⟩
  · intro making
    obtain ⟨mtime, lies⟩ := finished.dir making
    exact ⟨mtime, same lies⟩
  · intro target linking
    have kind := (linked.links awaits.found linking).1
    exact repeats.dated linked left.laid (linked.tangible awaits.found (by simp [kind]))
      awaits.fresh (finished.there (by simp [kind]))

end Repeats

end Registry

namespace Run

open Rehearsal Freshness

variable {registry : Registry} {plan : Plan} {session next last : Session Stage}
  {done rest : List NodeId}

theorem underway_of_completed (linked : registry.Linked) (sound : plan.Sound registry)
    {stage : Stage} (timed : stage.disk.Timed) (laid : registry.Laid stage.disk) {report : Report}
    (completed : (inSequence registry (worker []).executor plan.order
      (.start stage plan.states)).1 = .completed report) :
    ∃ known, registry.Underway plan.order (inSequence registry (worker []).executor plan.order
      (.start stage plan.states)).2.world.disk known := by
  have opening : registry.Underway [] stage.disk (Session.known (.start stage plan.states)) :=
    ⟨laid, timed, fun _ _ member => by cases member⟩
  obtain ⟨last, underway, ended⟩ := holds_of_completed linked sound
    (motive := fun done session => registry.Underway done session.world.disk session.known)
    (fun done node rest session next dirty split found turns takes underway => by
      obtain ⟨stocked, rfl, decided⟩ := takes.ruled turns linked sound split found
      have awaits := Registry.awaits_of_split sound linked split found
      rw [decided]
      refine underway.step linked awaits stocked ?_ ?_
      · intro dirty
        exact (takes.enacts dirty).does linked underway.laid found
      · intro clean
        rw [takes.still clean])
    rfl (turns_start sound stage) opening completed
  exact ⟨last.known, ended ▸ underway⟩

/-- In the course of the next run its report, too, is about what was stale at first. -/
structure Resumes (registry : Registry) (origin : VirtualDisk) (done : List NodeId)
    (session : Session Stage) : Prop where
  repeats : registry.Repeats origin done session.world.disk session.known
  executed : ∀ id, id ∈ session.report.executed ↔ id ∈ done ∧ Stale registry origin id
  skipped : ∀ id, id ∈ session.report.skipped ↔ id ∈ done ∧ ¬Stale registry origin id

section Resumes

variable {origin : VirtualDisk} {first : NodeId → Bool} {node : Artifact} {dirty : Bool}

theorem Resumes.takes (resumes : Resumes registry origin done session) (linked : registry.Linked)
    (sound : plan.Sound registry) (split : plan.order = done ++ node.id :: rest)
    (turns : Turns done (node.id :: rest) session) (found : registry.find? node.id = some node)
    (left : registry.Underway plan.order origin first)
    (takes : Takes registry node dirty session next) :
    Resumes registry origin (done ++ [node.id]) next := by
  obtain ⟨stocked, rfl, decided⟩ := takes.ruled turns linked sound split found
  have awaits := Registry.awaits_of_split sound linked split found
  have ruling := resumes.repeats.ruling linked sound left awaits (by simp [split])
    (fun id member => by simp [split, member])
  -- The reports list what was answered so far: the new node goes to the one or the other.
  have listed {P : NodeId → Prop} {answer : Bool} (right : answer = true ↔ P node.id)
      (id : NodeId) : (id ∈ done ∧ P id ∨ id ∈ if answer then [node.id] else []) ↔
        id ∈ done ++ [node.id] ∧ P id := by
    rw [List.mem_append, List.mem_singleton, or_and_right]
    refine or_congr_right ?_
    by_cases same : id = node.id
    · rw [same, ← right]
      cases answer <;> simp
    · cases answer <;> simp [same]
  refine ⟨?_, ?_, ?_⟩
  · rw [decided]
    refine resumes.repeats.step linked awaits ruling ?_ ?_
    · intro dirty
      exact (takes.enacts dirty).does linked resumes.repeats.laid found
    · intro clean
      rw [takes.still clean]
  · intro id
    rw [takes.executed, List.mem_append, resumes.executed]
    exact listed ruling id
  · intro id
    rw [takes.skipped, List.mem_append, resumes.skipped]
    refine listed (P := fun id => ¬Stale registry origin id) ?_ id
    rw [← ruling, Bool.not_eq_true', Bool.not_eq_true]

theorem completed_again (linked : registry.Linked) (sound : plan.Sound registry) {stage : Stage}
    (left : registry.Underway plan.order stage.disk first) :
    ∃ last, Resumes registry stage.disk plan.order last ∧
      (inSequence registry (worker []).executor plan.order (.start stage plan.states)).1 =
        .completed last.report := by
  have opening : Resumes registry stage.disk [] (.start stage plan.states) := by
    refine ⟨⟨left.laid, fun _ there => there, fun _ _ _ _ => rfl, ?_⟩, ?_, ?_⟩
    · intro id member
      cases member
    · simp [Session.start, Report.empty]
    · simp [Session.start, Report.empty]
  -- What is carried from node to node is `Resumes`; the first run left every node done.
  refine completed_of_holds linked sound ?_ rfl (turns_start sound stage) opening
  intro done node rest session split found turns resumes
  have awaits := Registry.awaits_of_split sound linked split found
  have planned : node.id ∈ plan.order := by simp [split]
  have before (id : NodeId) (member : id ∈ done) : id ∈ plan.order := by simp [split, member]
  have stocked (kind : node.kind = .file) (dep : NodeId) (needed : dep ∈ node.nodePrerequisites)
      (unregistered : registry.find? dep = none) : session.world.disk.mtimeOf ⟨dep⟩ ≠ none := by
    refine resumes.repeats.dated linked left.laid
      (linked.tangible_needed found needed (by simp [unregistered])) ?_
      (((left.finished node found planned).file kind).stocked dep needed unregistered)
    intro member
    obtain ⟨other, registered, rfl⟩ := sound.ordered.registered (before dep member)
    rw [unregistered] at registered
    cases registered
  have oracle := turns.oracle linked sound split found stocked
  have ruling := resumes.repeats.ruling linked sound left awaits planned before
  refine ⟨_, _, oracle, fun dirty => ?_, fun next takes => ?_⟩
  · exact resumes.repeats.able linked sound left awaits planned (ruling.mp dirty)
  · exact resumes.takes linked sound split turns found left takes

end Resumes

/-- A run is exact about what is left to do where some rules make links. After a run in sequence
that was completed, the same run at once is completed as well. It executes the planned phony nodes
and the planned files from which a chain of prerequisites other than directories leads to a phony
node or to a link that lags, and it passes over all other planned nodes: without such links only
what depends on phony nodes is executed. -/
theorem resumed_run_exact (linked : registry.Linked) {settings : RunSettings}
    (wet : settings.dryRun = false) (alone : settings.jobs ≤ 1) {targets : List NodeId}
    {stage : Stage} (made : stage.disk.Made) (laid : registry.Laid stage.disk) {report : Report}
    (completed : (run (worker []).staff registry settings targets stage).outcome =
      .completed report) :
    let left := (run (worker []).staff registry settings targets stage).session.world
    ∃ plan again, Plan.make registry targets = .ok plan ∧
      (run (worker []).staff registry settings targets left).outcome = .completed again ∧
      (∀ id, id ∈ again.executed ↔ id ∈ plan.order ∧ registry.Renews left.disk id) ∧
      (∀ id, id ∈ again.skipped ↔ id ∈ plan.order ∧ ¬registry.Renews left.disk id) ∧
      ((∀ id ∈ plan.order, ¬registry.Lags left.disk id) → ∀ id ∈ again.executed,
        registry.IsFile id → ∃ last, TransGen registry.Counts id last ∧ registry.IsPhony last) := by
  have carried (plan : Plan) (planned : Plan.make registry targets = .ok plan) (stage : Stage) :
      (run (worker []).staff registry settings targets stage).outcome =
          (inSequence registry (worker []).executor plan.order (.start stage plan.states)).1 ∧
        (run (worker []).staff registry settings targets stage).session.world =
          (inSequence registry (worker []).executor plan.order
            (.start stage plan.states)).2.world := by
    simp only [run, planned, carryOut, wet, Bool.false_eq_true, if_false, if_pos alone, settled]
    exact ⟨rfl, rfl⟩
  cases planned : Plan.make registry targets with
  | error failure =>
      rw [run, planned] at completed
      cases completed
  | ok plan =>
      have sound := Plan.make_sound linked.canonical planned
      obtain ⟨outcome, world⟩ := carried plan planned stage
      rw [outcome] at completed
      obtain ⟨known, left⟩ := underway_of_completed linked sound made.timed laid completed
      rw [← world] at left
      obtain ⟨last, resumes, again⟩ := completed_again linked sound left
      have renews {id : NodeId} (member : id ∈ plan.order) :=
        left.stale_iff_renews linked sound member
      have executed (id : NodeId) : id ∈ last.report.executed ↔
          id ∈ plan.order ∧ registry.Renews _ id :=
        (resumes.executed id).trans (and_congr_right renews)
      have skipped (id : NodeId) : id ∈ last.report.skipped ↔
          id ∈ plan.order ∧ ¬registry.Renews _ id :=
        (resumes.skipped id).trans (and_congr_right fun member => not_congr (renews member))
      refine ⟨plan, last.report, rfl, (carried plan planned _).1.trans again, executed, skipped, ?_⟩
      -- Without links that lag, only a phony node is left for the end of the chain.
      rintro settled id member ⟨node, found, kind⟩
      obtain ⟨inOrder, ⟨other, known, phony⟩ | ⟨-, last, path, ends⟩⟩ := (executed id).mp member
      · cases found.symm.trans known
        simp [kind] at phony
      · rcases ends with isPhony | lags
        · refine ⟨last, ?_, isPhony⟩
          rcases Relation.reflTransGen_iff_eq_or_transGen.mp path with rfl | chain
          · obtain ⟨other, known, phony⟩ := isPhony
            cases found.symm.trans known
            simp [kind] at phony
          · exact chain
        · have registered : registry.find? last ≠ none := by
            obtain ⟨link, _, found, _⟩ := lags
            simp [found]
          exact absurd lags
            (settled last (Registry.counts_planned linked sound path inOrder registered))

def city : Registry where
  nodes := [
    Artifact.file "city/graph" (.run [⟨"make", [], ⟨[]⟩, none, none⟩]),
    ((Artifact.file "city/lower_bound" (.symlink ⟨"travel_time"⟩)).dependsOn
      "city/travel_time").dependsOn "city/graph"]

def surveyed : Stage where
  disk := VirtualDisk.new.write ⟨"city/travel_time"⟩ []

theorem city_linked : city.Linked where
  ids := by decide
  prerequisites := by decide
  globFree := by decide
  files := by
    have ground : city.Ground "city/travel_time" := by
      have unregistered : city.find? "city/travel_time" = none := by decide
      intro node found
      rw [unregistered] at found
      cases found
    intro node member _
    rcases List.mem_cons.mp member with rfl | later
    · exact .inl (by decide)
    · rw [List.mem_singleton.mp later]
      exact .inr ⟨"city/travel_time", ⟨by decide, ⟨"travel_time"⟩, rfl, by decide⟩, ground⟩
  directories := by decide
  phonies := by
    have lasting : ∀ node ∈ city.nodes, node.kind ≠ .phony := by decide
    exact fun node member kind => absurd kind (lasting node member)
  redirects := by
    intro node member command commanded redirect redirected
    have unredirected : ∀ node ∈ city.nodes, ∀ command ∈ commandsOf node.action,
        command.stdout = none := by decide
    rw [unredirected node member command commanded] at redirected
    cases redirected

theorem resumed_run_exact_city :
    let left := (run (worker []).staff city {} ["city/lower_bound"] surveyed).session.world
    (run (worker []).staff city {} ["city/lower_bound"] surveyed).outcome =
        .completed ⟨["city/graph", "city/lower_bound"], []⟩ ∧
      (run (worker []).staff city {} ["city/lower_bound"] left).outcome =
        .completed ⟨["city/lower_bound"], ["city/graph"]⟩ ∧
      city.Renews left.disk "city/lower_bound" ∧ ¬city.Renews left.disk "city/graph" := by
  intro left
  have first : (run (worker []).staff city {} ["city/lower_bound"] surveyed).outcome =
      .completed ⟨["city/graph", "city/lower_bound"], []⟩ := by decide +kernel
  have second : (run (worker []).staff city {} ["city/lower_bound"] left).outcome =
      .completed ⟨["city/lower_bound"], ["city/graph"]⟩ := by decide +kernel
  have made : surveyed.disk.Made := ⟨[.add ⟨"city/travel_time"⟩ []], rfl⟩
  have laid : city.Laid surveyed.disk := by
    intro id _ target lies
    exact absurd lies (linkFree_write linkFree_new _ _ (NodeId.location id) target)
  obtain ⟨plan, again, -, repeated, executed, skipped, -⟩ :=
    resumed_run_exact city_linked rfl (by decide) made laid first
  rw [show (run _ city {} _ left).outcome = _ from second] at repeated
  cases repeated
  exact ⟨first, second, ((executed _).mp (by decide)).2, ((skipped _).mp (by decide)).2⟩

end Run

end ArtifactPipeline
