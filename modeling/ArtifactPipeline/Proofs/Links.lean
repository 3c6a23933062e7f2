import ArtifactPipeline.Proofs.Rebuild

set_option autoImplicit false

namespace ArtifactPipeline

open Function

namespace VirtualDisk

theorem get?_eq_link {disk : VirtualDisk} {loc : Location} {target : Path}
    (linked : disk.bare? loc = some (.link target)) : disk.get? loc = some (.link target) := by
  obtain ⟨entry, found, bare⟩ := Option.map_eq_some_iff.mp linked
  cases entry with
  | link => cases bare; exact found
  | file | dir => cases bare

theorem solid_of_bare {disk : VirtualDisk} {loc : Location} {entry : Entry}
    (lies : disk.bare? loc = some entry) (plain : ∀ target, entry ≠ .link target) :
    disk.Solid loc := by
  intro target linked
  rw [lies] at linked
  exact plain target (Option.some.inj linked)

theorem Solid.followFrom_eq {disk : VirtualDisk} {loc : Location} (solid : disk.Solid loc)
    (depth : Nat) : disk.followFrom (depth + 1) loc = disk.get? loc := by
  rw [followFrom]
  split
  · rename_i target found
    exact absurd (by simp [bare?, found, Entry.bare]) (solid target)
  · rfl

theorem follow_of_link {disk : VirtualDisk} {loc : Location} {target : Path}
    (linked : disk.bare? loc = some (.link target)) (solid : disk.Solid (loc.linkTarget target)) :
    disk.follow loc = disk.follow (loc.linkTarget target) := by
  rw [follow, linkLimit, followFrom, get?_eq_link linked, follow, linkLimit]
  exact (solid.followFrom_eq 15).trans (solid.followFrom_eq 16).symm

theorem bare?_ne_none_of_mtimeOf {disk : VirtualDisk} {path : Path}
    (dated : disk.mtimeOf path ≠ none) : disk.bare? (.ofPath path) ≠ none := by
  intro absent
  rw [mtimeOf_eq_follow, follow, linkLimit, followFrom, get?_eq_none_iff.mpr absent] at dated
  exact dated rfl

end VirtualDisk

def Artifact.LinksTo (node : Artifact) (dep : NodeId) : Prop :=
  dep ∈ node.nodePrerequisites ∧ ∃ target, node.action = .symlink target ∧
    node.location.linkTarget target = NodeId.location dep

namespace Registry

def Ground (registry : Registry) (id : NodeId) : Prop :=
  ∀ node, registry.find? id = some node →
    node.kind ≠ .phony ∧ ∀ target, node.action ≠ .symlink target

/-- Rules as for runs that can be repeated, of which some make links: each leads to a prerequisite
that is no link itself. -/
structure Linked (registry : Registry) : Prop where
  ids : ∀ node ∈ registry.nodes, NodeId.Plain node.id
  prerequisites : ∀ node ∈ registry.nodes, ∀ dep ∈ node.nodePrerequisites, NodeId.Plain dep
  globFree : registry.GlobFree
  files : ∀ node ∈ registry.nodes, node.kind = .file →
    Run.commandsOf node.action ≠ [] ∨ ∃ dep, node.LinksTo dep ∧ registry.Ground dep
  directories : ∀ node ∈ registry.nodes, node.kind = .directory → node.action = .createDir
  phonies : ∀ node ∈ registry.nodes, node.kind = .phony → ∀ target, node.action ≠ .symlink target
  redirects : registry.OwnRedirects

def Laid (registry : Registry) (disk : VirtualDisk) : Prop :=
  ∀ id, registry.Tangible id → ∀ target, disk.bare? (NodeId.location id) = some (.link target) →
    ∃ node, registry.find? id = some node ∧ node.action = .symlink target

def Shows (registry : Registry) (id base : NodeId) : Prop :=
  base = id ∨ ∃ node, registry.find? id = some node ∧ node.kind = .file ∧ node.LinksTo base

variable {registry : Registry} {node : Artifact} {id : NodeId} {disk before after : VirtualDisk}

theorem Linked.canonical (linked : registry.Linked) : registry.Canonical where
  ids node member := (linked.ids node member).spelled
  prerequisites node member dep needed := (linked.prerequisites node member dep needed).spelled

theorem Linked.tangible (linked : registry.Linked) (found : registry.find? node.id = some node)
    (kind : node.kind ≠ .phony) : registry.Tangible node.id := by
  refine ⟨linked.ids node (mem_of_find? found), fun other otherFound => ?_⟩
  rw [found] at otherFound
  cases otherFound
  exact kind

theorem Linked.tangible_needed (linked : registry.Linked)
    (found : registry.find? node.id = some node) {dep : NodeId}
    (needed : dep ∈ node.nodePrerequisites)
    (real : ∀ other, registry.find? dep = some other → other.kind ≠ .phony) :
    registry.Tangible dep :=
  ⟨linked.prerequisites node (mem_of_find? found) dep needed, real⟩

theorem Linked.location_ne (linked : registry.Linked) (found : registry.find? node.id = some node)
    {other : NodeId} (plain : NodeId.Plain other) (apart : other ≠ node.id) :
    NodeId.location other ≠ node.location := by
  intro same
  exact apart (plain.location_inj (linked.ids node (mem_of_find? found)) same)

theorem Linked.file_cases (linked : registry.Linked) (member : node ∈ registry.nodes)
    (kind : node.kind = .file) :
    Run.commandsOf node.action ≠ [] ∨ ∃ target, node.action = .symlink target := by
  rcases linked.files node member kind with commanded | ⟨_, ⟨_, target, action, _⟩, _⟩
  · exact .inl commanded
  · exact .inr ⟨target, action⟩

theorem Linked.ne_createDir (linked : registry.Linked) (member : node ∈ registry.nodes)
    (kind : node.kind = .file) : node.action ≠ .createDir := by
  intro making
  rcases linked.file_cases member kind with commanded | ⟨target, action⟩
  · exact commanded (by rw [making]; rfl)
  · exact nomatch making.symm.trans action

theorem Linked.links (linked : registry.Linked) (found : registry.find? node.id = some node)
    {target : Path} (action : node.action = .symlink target) :
    node.kind = .file ∧ ∃ dep, node.LinksTo dep ∧ registry.Ground dep := by
  have member := mem_of_find? found
  have kind : node.kind = .file := by
    cases kind : node.kind with
    | file => rfl
    | directory => exact nomatch action.symm.trans (linked.directories node member kind)
    | phony => exact absurd action (linked.phonies node member kind target)
  refine ⟨kind, (linked.files node member kind).resolve_left fun commanded => ?_⟩
  rw [action] at commanded
  exact commanded rfl

theorem Linked.plain_shows (linked : registry.Linked) (plain : NodeId.Plain id) {base : NodeId}
    (shows : registry.Shows id base) : NodeId.Plain base := by
  rcases shows with rfl | ⟨user, found, -, needed, -⟩
  · exact plain
  · exact linked.prerequisites user (mem_of_find? found) base needed

theorem Laid.solid (laid : registry.Laid disk) (tangible : registry.Tangible id)
    (ground : registry.Ground id) : disk.Solid (NodeId.location id) := by
  intro target linked
  obtain ⟨node, found, action⟩ := laid id tangible target linked
  exact (ground node found).2 target action

theorem Laid.base (laid : registry.Laid disk) (linked : registry.Linked)
    (tangible : registry.Tangible id) :
    ∃ base, registry.Shows id base ∧ ∀ other : VirtualDisk, registry.Laid other →
      other.bare? (NodeId.location id) = disk.bare? (NodeId.location id) →
        other.Solid (NodeId.location base) ∧
          other.follow (NodeId.location id) = other.follow (NodeId.location base) := by
  by_cases isLink : ∃ target, disk.bare? (NodeId.location id) = some (.link target)
  · obtain ⟨target, lies⟩ := isLink
    obtain ⟨node, found, action⟩ := laid id tangible target lies
    have named := id_of_find? found
    subst named
    -- A link leads to a prerequisite that is no link, and looks like that.
    obtain ⟨kind, dep, leads, ground⟩ := linked.links found action
    obtain ⟨needed, own, sameAction, there⟩ := leads
    rw [action] at sameAction
    cases sameAction
    have real := linked.tangible_needed found needed fun other known => (ground other known).1
    refine ⟨dep, .inr ⟨node, found, kind, needed, target, action, there⟩, ?_⟩
    intro other otherLaid same
    have solid := otherLaid.solid real ground
    refine ⟨solid, ?_⟩
    rw [← there] at solid ⊢
    exact VirtualDisk.follow_of_link (same.trans lies) solid
  · refine ⟨id, .inl rfl, fun other _ same => ⟨fun target lies => isLink ⟨target, ?_⟩, rfl⟩⟩
    rw [← same, lies]

theorem Laid.alike (laid : registry.Laid before) (later : registry.Laid after)
    (linked : registry.Linked) (tangible : registry.Tangible id)
    (there : before.mtimeOf ⟨id⟩ ≠ none)
    (kept : ∀ base, registry.Shows id base → before.bare? (NodeId.location base) ≠ none →
      after.bare? (NodeId.location base) = before.bare? (NodeId.location base)) :
    before.Alike after ⟨id⟩ := by
  obtain ⟨base, shows, follows⟩ := laid.base linked tangible
  have own := kept id (.inl rfl) (VirtualDisk.bare?_ne_none_of_mtimeOf there)
  obtain ⟨solid, looks⟩ := follows before laid rfl
  obtain ⟨-, looksLater⟩ := follows after later own
  -- On either disk it looks like the base, whose place has not changed.
  have baseThere : before.mtimeOf ⟨base⟩ ≠ none := by
    rwa [VirtualDisk.mtimeOf_eq_of_follow looks] at there
  have same := kept base shows (VirtualDisk.bare?_ne_none_of_mtimeOf baseThere)
  obtain ⟨dated, isDir⟩ : before.Alike after ⟨base⟩ := VirtualDisk.Solid.alike solid same
  constructor
  · rw [VirtualDisk.mtimeOf_eq_of_follow looksLater, VirtualDisk.mtimeOf_eq_of_follow looks]
    exact dated
  · rw [VirtualDisk.isDir, show after.follow (.ofPath ⟨id⟩) = _ from looksLater,
      VirtualDisk.isDir, show before.follow (.ofPath ⟨id⟩) = _ from looks]
    exact isDir

theorem Laid.dated (laid : registry.Laid before) (later : registry.Laid after)
    (linked : registry.Linked) (tangible : registry.Tangible id)
    (there : before.mtimeOf ⟨id⟩ ≠ none)
    (own : after.bare? (NodeId.location id) = before.bare? (NodeId.location id))
    (stays : ∀ base, before.bare? (NodeId.location base) ≠ none →
      after.bare? (NodeId.location base) ≠ none) : after.mtimeOf ⟨id⟩ ≠ none := by
  obtain ⟨base, -, follows⟩ := laid.base linked tangible
  obtain ⟨-, looks⟩ := follows before laid rfl
  obtain ⟨solid, looksLater⟩ := follows after later own
  rw [VirtualDisk.mtimeOf_eq_of_follow looks] at there
  rw [VirtualDisk.mtimeOf_eq_of_follow looksLater]
  intro gone
  have absent : after.bare? (.ofPath ⟨base⟩) = none :=
    VirtualDisk.Solid.mtimeOf_eq_none_iff solid |>.mp gone
  have baseThere : before.mtimeOf ⟨base⟩ ≠ none := there
  exact stays base (VirtualDisk.bare?_ne_none_of_mtimeOf baseThere) absent

end Registry

/-- What a node leaves of the disk: something comes to lie at its own place and directories where
nothing was, and it makes no link but its own. -/
structure Artifact.Leaves (node : Artifact) (before after : VirtualDisk) : Prop where
  kept : ∀ loc, loc ≠ node.location → before.bare? loc ≠ none → after.bare? loc = before.bare? loc
  stays : before.bare? node.location ≠ none → after.bare? node.location ≠ none
  links : ∀ loc target, after.bare? loc = some (.link target) →
    before.bare? loc = some (.link target) ∨ loc = node.location ∧ node.action = .symlink target
  timed : before.Timed → after.Timed

namespace Artifact.Leaves

open VirtualDisk

variable {node : Artifact} {before middle after : VirtualDisk}

theorem refl (node : Artifact) (disk : VirtualDisk) : node.Leaves disk disk where
  kept _ _ _ := rfl
  stays there := there
  links _ _ lies := .inl lies
  timed timed := timed

theorem present (leaves : node.Leaves before after) {loc : Location}
    (there : before.bare? loc ≠ none) : after.bare? loc ≠ none := by
  by_cases own : loc = node.location
  · subst own
    exact leaves.stays there
  · rw [leaves.kept loc own there]
    exact there

theorem trans (first : node.Leaves before middle) (second : node.Leaves middle after) :
    node.Leaves before after where
  kept loc apart there := by
    rw [second.kept loc apart (first.present there), first.kept loc apart there]
  stays there := second.stays (first.stays there)
  links loc target lies := (second.links loc target lies).elim (first.links loc target) .inr
  timed timed := second.timed (first.timed timed)

theorem of_grows {site base : Option Location} (grows : Grows site base before after)
    (timed : before.Timed → after.Timed) (here : ∀ loc, site = some loc → loc = node.location)
    (own : site = some node.location → after.bare? node.location ≠ none ∧
      ∀ target, after.bare? node.location = some (.link target) → node.action = .symlink target) :
    node.Leaves before after where
  kept loc apart there := grows.kept loc (fun same => apart (here loc same)) there
  stays there := by
    by_cases same : site = some node.location
    · exact (own same).1
    · exact grows.present same there
  links loc target lies := by
    by_cases same : site = some loc
    · have place := here loc same
      subst place
      exact .inr ⟨rfl, (own same).2 target lies⟩
    · rcases grows.cases same with unchanged | ⟨_, _, _, _, _, _, isDir⟩
      · exact .inl (unchanged ▸ lies)
      · rw [isDir] at lies
        cases lies
  timed := timed

theorem write (node : Artifact) (disk : VirtualDisk) (content : List UInt8) :
    node.Leaves disk (disk.write node.path content) := by
  have written : (disk.write node.path content).bare? node.location = _ :=
    bare?_write_self disk node.path content
  refine of_grows (grows_write disk node.path content) (fun timed => timed_write timed _ _)
    (fun _ same => (Option.some.inj same).symm) fun _ => ?_
  rw [written]
  exact ⟨nofun, nofun⟩

theorem link {target : Path} (action : node.action = .symlink target) (disk : VirtualDisk) :
    node.Leaves disk (disk.insertEntry node.location (.link target)) := by
  have own := bare?_insertEntry_self disk node.location (.link target)
  refine of_grows (grows_insertEntry disk node.location (.link target))
    (fun timed => timed_insertEntry timed _ _ nofun)
    (fun _ same => (Option.some.inj same).symm) fun _ => ?_
  rw [own]
  refine ⟨nofun, fun other lies => ?_⟩
  cases lies
  exact action

theorem of_touches {base : Option Location} (touches : node.Touches none base before after) :
    node.Leaves before after :=
  of_grows touches.toGrows (fun timed => touches.timed timed nofun) nofun nofun

end Artifact.Leaves

namespace Registry

theorem Laid.leaves {registry : Registry} {node : Artifact} {before after : VirtualDisk}
    (laid : registry.Laid before) (linked : registry.Linked)
    (found : registry.find? node.id = some node) (leaves : node.Leaves before after) :
    registry.Laid after := by
  intro id tangible target lies
  rcases leaves.links _ target lies with earlier | ⟨here, action⟩
  · exact laid id tangible target earlier
  · have same : id = node.id := by
      by_contra apart
      exact linked.location_ne found tangible.1 apart here
    exact ⟨node, same ▸ found, action⟩

end Registry

end ArtifactPipeline
