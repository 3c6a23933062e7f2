import ArtifactPipeline.Proofs.RunMoments

set_option autoImplicit false

namespace ArtifactPipeline

open VirtualDisk

/-- Commands write the file of their own node, as often as they like, and nothing else. -/
def Conduct.ownFile : Conduct where
  meddles invocation disk after :=
    invocation.kind = .file ∧ ∃ content, after = disk.write ⟨invocation.node⟩ content
  completes _ disk after := after = disk

namespace Run

open Function Relation

/-- What has become of a file in the course of a run that found it on the disk `origin`. -/
inductive Fate (origin : VirtualDisk) (loc : Location) (state : NodeState) (disk : VirtualDisk) :
    Prop where
  | untouched (same : disk.bare? loc = origin.bare? loc)
  | rewritten {content : List UInt8} {mtime : Nat} (executing : state = .executing)
      (written : disk.bare? loc = some (.file content mtime)) (late : origin.clock ≤ mtime)
  | renewed {entry : Entry} {mtime : Nat} (succeeded : state = .succeeded)
      (made : disk.bare? loc = some entry) (dated : entry.mtime? = some mtime)
      (late : origin.clock ≤ mtime)
  | removed (failed : state = .failed) (gone : disk.bare? loc = none)

/-- What a run that writes own files only keeps. -/
structure Guarded (registry : Registry) (order : List NodeId) (origin : VirtualDisk) (m : Moment) :
    Prop extends Moment.Kept registry order m where
  free : m.disk.LinkFree
  clock : origin.clock ≤ m.disk.clock
  sources : ∀ user ∈ registry.nodes, ∀ dep ∈ user.nodePrerequisites, registry.find? dep = none →
    origin.bare? (NodeId.location dep) ≠ none →
      m.disk.bare? (NodeId.location dep) = origin.bare? (NodeId.location dep)
  fate : ∀ node, registry.find? node.id = some node → node.kind = .file →
    Fate origin node.location (m.states node.id) m.disk
  before : ∀ node, registry.find? node.id = some node → node.kind = .file →
    m.states node.id = .executing → m.before node.id = origin.mtimeOf node.path

namespace Guarded

variable {registry : Registry} {order : List NodeId} {origin : VirtualDisk} {m next : Moment}

theorem start {plan : Plan} (sound : plan.Sound registry) (free : origin.LinkFree) :
    Guarded registry plan.order origin (.start plan origin) where
  toKept := Moment.kept_start sound origin
  free := free
  clock := Nat.le_refl _
  sources := fun _ _ _ _ _ _ => rfl
  fate := fun _ _ _ => .untouched rfl
  before := by
    intro node found kind executing
    have state : plan.states.get node.id = .executing := executing
    rw [sound.states_get] at state
    split at state <;> cases state

theorem supplied (guarded : Guarded registry order origin m) (orderly : registry.Orderly)
    (free : origin.LinkFree) (supplied : registry.Supplied order origin) :
    registry.Supplied order m.disk := by
  intro node found member kind dep needed missing
  have registered := Registry.mem_of_find? found
  have unregistered : registry.find? dep = none := by
    have spelled := (orderly.prerequisites node registered dep needed).spelled
    rw [← Registry.get?_eq_find? spelled]
    simpa [Registry.contains] using missing
  have there := supplied node found member kind dep needed missing
  have present : origin.bare? (NodeId.location dep) ≠ none := by
    intro absent
    rw [present, (mtimeOf_eq_none_iff free ⟨dep⟩).mpr absent] at there
    cases there
  have same := guarded.sources node registered dep needed unregistered present
  have sameTime : m.disk.mtimeOf ⟨dep⟩ = origin.mtimeOf ⟨dep⟩ := by
    rw [mtimeOf_eq guarded.free, mtimeOf_eq free]
    exact congrArg (·.bind Entry.mtime?) same
  rw [VirtualDisk.present, sameTime]
  exact there

theorem untouched (guarded : Guarded registry order origin m) {node : Artifact}
    (ready : Moment.Ready registry m node) (kind : node.kind = .file) :
    m.disk.bare? node.location = origin.bare? node.location := by
  have waiting := ready.waiting
  cases guarded.fate node ready.found kind with
  | untouched same => exact same
  | rewritten executing =>
      rw [waiting] at executing
      cases executing
  | renewed succeeded =>
      rw [waiting] at succeeded
      cases succeeded
  | removed failed =>
      rw [waiting] at failed
      cases failed

theorem moved (guarded : Guarded registry order origin m) (kept : Moment.Kept registry order next)
    {node : Artifact} (found : registry.find? node.id = some node) {state : NodeState}
    (states : next.states = update m.states node.id state)
    (before : ∀ id, id ≠ node.id → next.before id = m.before id)
    (spares : node.Spares registry m.disk next.disk) (free : next.disk.LinkFree)
    (fate : node.kind = .file → Fate origin node.location state next.disk)
    (dated : node.kind = .file → state = .executing →
      next.before node.id = origin.mtimeOf node.path) :
    Guarded registry order origin next where
  toKept := kept
  free := free
  clock := Nat.le_trans guarded.clock spares.clock
  sources := by
    intro user userMember dep needed unregistered present
    have same := guarded.sources user userMember dep needed unregistered present
    rw [spares.sources user userMember dep needed unregistered (by rw [same]; exact present), same]
  fate := by
    intro other otherFound kind
    rw [states]
    -- Only the file of `node` can have changed: every other keeps its fate.
    by_cases own : other.id = node.id
    · rw [own, found] at otherFound
      cases otherFound
      rw [update_self]
      exact fate kind
    · have same := spares.files other (Registry.mem_of_find? otherFound) kind own
      rw [update_of_ne own]
      cases guarded.fate other otherFound kind with
      | untouched old => exact .untouched (same.trans old)
      | rewritten executing written late => exact .rewritten executing (same.trans written) late
      | renewed succeeded made dated late =>
          exact .renewed succeeded (same.trans made) dated late
      | removed failed gone => exact .removed failed (same.trans gone)
  before := by
    intro other otherFound kind executing
    rw [states] at executing
    by_cases own : other.id = node.id
    · rw [own, found] at otherFound
      cases otherFound
      rw [update_self] at executing
      exact dated kind executing
    · rw [update_of_ne own] at executing
      rw [before other.id own]
      exact guarded.before other otherFound kind executing

theorem still (guarded : Guarded registry order origin m) (kept : Moment.Kept registry order next)
    {node : Artifact} (found : registry.find? node.id = some node) {state : NodeState}
    (states : next.states = update m.states node.id state)
    (before : ∀ id, id ≠ node.id → next.before id = m.before id) (disk : next.disk = m.disk)
    (fate : node.kind = .file → Fate origin node.location state m.disk)
    (dated : node.kind = .file → state = .executing →
      next.before node.id = origin.mtimeOf node.path) :
    Guarded registry order origin next := by
  have spares : node.Spares registry m.disk next.disk := by
    rw [disk]
    exact Artifact.spares_refl registry node m.disk
  exact guarded.moved kept found states before spares (disk ▸ guarded.free) (disk ▸ fate) dated

theorem perform (guarded : Guarded registry order origin m) (orderly : registry.Orderly)
    (kept : Moment.Kept registry order next) {node : Artifact}
    (ready : Moment.Ready registry m node) {events : List Event}
    (done : runInternal node m.disk = (.ok (), events, next.disk))
    (states : next.states = update m.states node.id .succeeded)
    (before : next.before = m.before) : Guarded registry order origin next := by
  have unlinked := orderly.unlinked node (Registry.mem_of_find? ready.found)
  have dated : ∀ id, id ≠ node.id → next.before id = m.before id := fun id _ => by rw [before]
  rcases runInternal_done unlinked done with ⟨_, same⟩ | ⟨_, mtime, touches, own⟩
  · refine guarded.still kept ready.found states dated same ?_ nofun
    exact fun kind => .untouched (guarded.untouched ready kind)
  · have spares := touches.spares orderly ready.found
    have linkFree := touches.linkFree guarded.free nofun
    refine guarded.moved kept ready.found states dated spares linkFree ?_ nofun
    intro kind
    have nowhere : (none : Option Location) ≠ some node.location := nofun
    -- The directory was there before the run, or it has just been made.
    rcases touches.cases nowhere with same | ⟨_, made, _, _, late, _, isDir⟩
    · exact .untouched (same.trans (guarded.untouched ready kind))
    · exact .renewed rfl isDir rfl (Nat.le_trans guarded.clock late)

theorem work (guarded : Guarded registry order origin m) (orderly : registry.Orderly)
    {place : Workplace} (works : Conduct.ownFile.Works m.toWorkplace place)
    (kept : Moment.Kept registry order { m with toWorkplace := place }) :
    Guarded registry order origin { m with toWorkplace := place } := by
  cases works with
  | complete assigned same =>
      cases same
      exact ⟨kept, guarded.free, guarded.clock, guarded.sources, guarded.fate, guarded.before⟩
  | @meddle id node command left disk assigned meddles =>
      obtain ⟨isFile, content, rfl⟩ := meddles
      obtain ⟨rfl, found, executing⟩ := guarded.assigned id _ assigned
      have touches := node.touches_write m.disk content
      refine guarded.moved kept found (update_eq_self ..).symm (fun _ _ => rfl)
        (touches.spares orderly found) (linkFree_write guarded.free _ content) ?_ ?_
      · intro _
        exact .rewritten executing (bare?_write_self m.disk node.path content) guarded.clock
      · intro kind _
        exact guarded.before node found kind executing

theorem succeed (guarded : Guarded registry order origin m)
    (kept : Moment.Kept registry order next) {node : Artifact}
    (found : registry.find? node.id = some node) (executing : m.states node.id = .executing)
    (disk : next.disk = m.disk) (states : next.states = update m.states node.id .succeeded)
    (before : next.before = update m.before node.id none) :
    Guarded registry order origin next := by
  have dated : ∀ id, id ≠ node.id → next.before id = m.before id := by
    intro id apart
    rw [before, update_of_ne apart]
  refine guarded.still kept found states dated disk ?_ nofun
  intro kind
  cases guarded.fate node found kind with
  | untouched same => exact .untouched same
  | rewritten _ written late => exact .renewed rfl written rfl late
  | renewed succeeded =>
      rw [executing] at succeeded
      cases succeeded
  | removed failed =>
      rw [executing] at failed
      cases failed

theorem fail (guarded : Guarded registry order origin m) (orderly : registry.Orderly)
    (free : origin.LinkFree) (timed : origin.Timed) (kept : Moment.Kept registry order next)
    {node : Artifact} (found : registry.find? node.id = some node)
    (executing : m.states node.id = .executing)
    (disk : next.disk = (discardLeftover node (m.before node.id) m.disk).2)
    (states : next.states = update m.states node.id .failed)
    (before : next.before = update m.before node.id none) :
    Guarded registry order origin next := by
  have dated : ∀ id, id ≠ node.id → next.before id = m.before id := by
    intro id apart
    rw [before, update_of_ne apart]
  by_cases kind : node.kind = .file
  · have noted := guarded.before node found kind executing
    -- What an attempt has written is told from the old output by its date: it is newer than the
    -- time noted at the launch.
    cases guarded.fate node found kind with
    | untouched same =>
        have sameTime : m.disk.mtimeOf node.path = m.before node.id := by
          rw [noted, mtimeOf_eq guarded.free, mtimeOf_eq free]
          exact congrArg (·.bind Entry.mtime?) same
        have left := disk.trans (discardLeftover_kept guarded.free sameTime)
        exact guarded.still kept found states dated left (fun _ => .untouched same) nofun
    | @rewritten content mtime _ written late =>
        have newer : m.before node.id ≠ some mtime := by
          rw [noted, mtimeOf_eq free]
          intro same
          obtain ⟨entry, present, old⟩ := Option.bind_eq_some_iff.mp same
          have early := timed _ entry mtime present old
          omega
        have removed := disk.trans (discardLeftover_removed kind written newer)
        refine guarded.moved kept found states dated ?_ ?_ ?_ nofun
        · rw [removed]
          exact Artifact.spares_remove orderly found m.disk
        · rw [removed]
          exact linkFree_remove guarded.free node.path
        · intro _
          have gone : next.disk.bare? node.location = none := by
            rw [removed, bare?_remove]
            exact if_pos rfl
          exact .removed rfl gone
    | renewed succeeded =>
        rw [executing] at succeeded
        cases succeeded
    | removed failed =>
        rw [executing] at failed
        cases failed
  · have left := disk.trans (discardLeftover_other kind _ m.disk)
    exact guarded.still kept found states dated left (fun isFile => absurd isFile kind) nofun

theorem step (guarded : Guarded registry order origin m) (orderly : registry.Orderly)
    (free : origin.LinkFree) (timed : origin.Timed) (step : Moment.Next registry .ownFile m next) :
    Guarded registry order origin next := by
  have kept := guarded.toKept.step orderly.canonical orderly.globFree step
  rcases step with advances | suffers
  · cases advances with
    | skip ready clean =>
        refine guarded.still kept ready.found rfl (fun _ _ => rfl) rfl ?_ nofun
        exact fun kind => .untouched (guarded.untouched ready kind)
    | @launch node verdicts commands before called external dated =>
        refine guarded.still kept called.found rfl (fun _ apart => update_of_ne apart ..) rfl ?_ ?_
        · exact fun kind => .untouched (guarded.untouched called.toReady kind)
        · intro kind _
          have same := guarded.untouched called.toReady kind
          have noted : before = origin.mtimeOf node.path := by
            rw [outputTime_file kind] at dated
            cases dated
            rw [mtimeOf_eq guarded.free, mtimeOf_eq free]
            exact congrArg (·.bind Entry.mtime?) same
          rw [← noted]
          exact update_self ..
    | perform called internal done =>
        exact guarded.perform orderly kept called.toReady done rfl rfl
    | work works => exact guarded.work orderly works kept
    | @succeed id node finished executing =>
        obtain ⟨rfl, found, _⟩ := guarded.assigned id _ finished
        exact guarded.succeed kept found executing rfl rfl rfl
  · cases suffers with
    | @spoil node verdicts events disk failure called internal failed =>
        have same := runInternal_failed failed
        refine guarded.still kept called.found rfl (fun _ _ => rfl) same ?_ nofun
        exact fun kind => .untouched (guarded.untouched called.toReady kind)
    | fail found executing =>
        exact guarded.fail orderly free timed kept found executing rfl rfl rfl
    | crash =>
        exact ⟨kept, guarded.free, guarded.clock, guarded.sources, guarded.fate, guarded.before⟩

end Guarded

structure Renewed (origin : VirtualDisk) (m : Moment) (node : Artifact) : Prop where
  succeeded : m.states node.id = .succeeded
  late : ∃ mtime, m.disk.mtimeOf node.path = some mtime ∧ origin.clock ≤ mtime

section Staleness

open Freshness

variable {registry : Registry} {order : List NodeId} {origin : VirtualDisk} {m : Moment}
  {node : Artifact}

theorem Guarded.settled (guarded : Guarded registry order origin m) (free : origin.LinkFree)
    (tidy : ∀ id ∈ order, m.states id ≠ .executing) (member : node.id ∈ order)
    (found : registry.find? node.id = some node) (kind : node.kind = .file) :
    m.disk.mtimeOf node.path = none ∨ Renewed origin m node ∨
      m.disk.mtimeOf node.path = origin.mtimeOf node.path := by
  have dated := mtimeOf_eq guarded.free node.path
  cases guarded.fate node found kind with
  | untouched same =>
      refine .inr (.inr ?_)
      rw [dated, mtimeOf_eq free]
      exact congrArg (·.bind Entry.mtime?) same
  | rewritten executing => exact absurd executing (tidy node.id member)
  | @renewed entry mtime succeeded made old late =>
      refine .inr (.inl ⟨succeeded, mtime, ?_, late⟩)
      rw [dated]
      exact Option.bind_eq_some_iff.mpr ⟨entry, made, old⟩
  | removed _ gone => exact .inl ((mtimeOf_eq_none_iff guarded.free node.path).mpr gone)

theorem stale_of_renewed (free : origin.LinkFree) (timed : origin.Timed)
    (found : registry.find? node.id = some node) (kind : node.kind = .file) {dep : Artifact}
    (needed : dep.id ∈ node.nodePrerequisites) (registered : registry.find? dep.id = some dep)
    (depKind : dep.kind = .file) (renewed : Renewed origin m dep)
    (old : m.disk.mtimeOf node.path = origin.mtimeOf node.path) :
    Stale registry m.disk node.id := by
  obtain ⟨late, dated, after⟩ := renewed.late
  cases own : origin.mtimeOf node.path with
  | none => exact .noFile found kind (old.trans own)
  | some mtime =>
      have present := own
      rw [mtimeOf_eq free] at present
      obtain ⟨entry, there, written⟩ := Option.bind_eq_some_iff.mp present
      have early := timed _ entry mtime there written
      refine .newerOutput found kind needed registered depKind ?_
      rw [dated, old, own]
      exact decide_eq_true (Nat.lt_of_lt_of_le early after)

theorem Guarded.stale (guarded : Guarded registry order origin m) (orderly : registry.Orderly)
    (ordered : Plan.Ordered registry order) (free : origin.LinkFree) (timed : origin.Timed)
    (tidy : ∀ id ∈ order, m.states id ≠ .executing) {id : NodeId}
    (stale : Stale registry origin id) (member : id ∈ order)
    (found : registry.find? id = some node) (kind : node.kind ≠ .directory) :
    Stale registry m.disk id ∨ node.kind = .file ∧ Renewed origin m node := by
  -- Induction on why the node was out of date. When its own output is the old one, the reason has
  -- either stayed, or a prerequisite has been made anew.
  induction stale generalizing node with
  | phony ownFound isPhony => exact .inl (.phony ownFound isPhony)
  | noDirectory ownFound isDirectory =>
      rw [ownFound] at found
      cases found
      exact absurd isDirectory kind
  | @noFile own ownFound isFile missing =>
      rw [ownFound] at found
      cases found
      rcases guarded.settled free tidy member ownFound isFile with gone | renewed | same
      · exact .inl (.noFile ownFound isFile gone)
      · exact .inr ⟨isFile, renewed⟩
      · exact .inl (.noFile ownFound isFile (same.trans missing))
  | @newerSource own dep ownFound isFile needed unregistered plain newer =>
      rw [ownFound] at found
      cases found
      rcases guarded.settled free tidy member ownFound isFile with gone | renewed | same
      · exact .inl (.noFile ownFound isFile gone)
      · exact .inr ⟨isFile, renewed⟩
      · refine .inl ?_
        have registered := Registry.mem_of_find? ownFound
        have present : origin.bare? (NodeId.location dep) ≠ none := by
          intro absent
          rw [(mtimeOf_eq_none_iff free ⟨dep⟩).mpr absent] at newer
          cases newer
        have source := guarded.sources own registered dep needed unregistered present
        have sourceTime : m.disk.mtimeOf ⟨dep⟩ = origin.mtimeOf ⟨dep⟩ := by
          rw [mtimeOf_eq guarded.free, mtimeOf_eq free]
          exact congrArg (·.bind Entry.mtime?) source
        refine .newerSource ownFound isFile needed unregistered ?_ ?_
        · rw [Bool.eq_false_iff, ne_eq, isDir_iff guarded.free]
          rw [Bool.eq_false_iff, ne_eq, isDir_iff free] at plain
          rintro ⟨mtime, isDir⟩
          exact plain ⟨mtime, source.symm.trans isDir⟩
        · rw [sourceTime, same]
          exact newer
  | @newerOutput own dep ownFound isFile needed registered depKind newer =>
      rw [ownFound] at found
      cases found
      rcases guarded.settled free tidy member ownFound isFile with gone | renewed | same
      · exact .inl (.noFile ownFound isFile gone)
      · exact .inr ⟨isFile, renewed⟩
      · refine .inl ?_
        have contained : registry.contains dep.id = true :=
          (Registry.contains_iff (orderly.canonical.found registered)).mpr ⟨_, registered⟩
        have depMember := ordered.closed member ownFound needed contained
        rcases guarded.settled free tidy depMember registered depKind
          with depGone | renewed | depSame
        · exact .inherited ownFound isFile needed registered (by simp [depKind])
            (.noFile registered depKind depGone)
        · exact stale_of_renewed free timed ownFound isFile needed registered depKind renewed same
        · refine .newerOutput ownFound isFile needed registered depKind ?_
          rw [depSame, same]
          exact newer
  | @inherited own dep ownFound isFile needed registered depKind stale ih =>
      rw [ownFound] at found
      cases found
      rcases guarded.settled free tidy member ownFound isFile with gone | renewed | same
      · exact .inl (.noFile ownFound isFile gone)
      · exact .inr ⟨isFile, renewed⟩
      · refine .inl ?_
        have contained : registry.contains dep.id = true :=
          (Registry.contains_iff (orderly.canonical.found registered)).mpr ⟨_, registered⟩
        have depMember := ordered.closed member ownFound needed contained
        rcases ih depMember registered depKind with still | ⟨depFile, renewed⟩
        · exact .inherited ownFound isFile needed registered depKind still
        · exact stale_of_renewed free timed ownFound isFile needed registered depFile renewed same

end Staleness

section Aborted

open Freshness

theorem preview_world {W : Type} [Disk W] {registry : Registry} {plan : Plan} (world : W) :
    (preview registry plan world).session.world = world := by
  unfold preview
  dsimp only
  split <;> rfl

variable {W V : Type} [Disk W] [Mounted W] [Disk V] [Mounted V]

/-- An aborted run never makes a file look up to date: whoever carries the tasks out, as many at a
time as he likes, a file that is dirty before the run and whose node does not succeed is dirty
after it. -/
theorem dirty_after_abort {registry : Registry} (orderly : registry.Orderly) {staff : Staff W V}
    (follows : staff.Follows .ownFile) (settings : RunSettings) {targets : List NodeId}
    {plan : Plan} (planned : Plan.make registry targets = .ok plan) {world : W}
    (made : (Mounted.disk world).Made) (free : (Mounted.disk world).LinkFree)
    (supplied : registry.Supplied plan.order (Mounted.disk world)) {failure : Failure}
    (aborted : (run staff registry settings targets world).outcome = .failed failure)
    {node : Artifact} (member : node.id ∈ plan.order)
    (found : registry.find? node.id = some node) (kind : node.kind = .file)
    (dirty : (isDirty registry world .none node.id).1 = .ok true)
    (unfinished : (run staff registry settings targets world).session.states.get node.id ≠
      .succeeded) :
    (isDirty registry (run staff registry settings targets world).session.world .none node.id).1 =
      .ok true := by
  have sound := Plan.make_sound orderly.canonical planned
  by_cases wet : settings.dryRun = false
  · have begun : Guarded registry plan.order (Mounted.disk world)
        (.start plan (Mounted.disk world)) := .start sound free
    have kept : ∀ m next, Guarded registry plan.order (Mounted.disk world) m →
        Moment.Next registry .ownFile m next →
          Guarded registry plan.order (Mounted.disk world) next :=
      fun m next guarded step => guarded.step orderly free made.timed step
    have answered : ∀ m, Guarded registry plan.order (Mounted.disk world) m →
        Moment.Answered registry m :=
      fun m guarded => guarded.toKept.answered orderly (guarded.supplied orderly free supplied)
    obtain ⟨last, reaches⟩ := run_reaches orderly follows wet planned world kept answered begun
    have guarded := Moment.kept_of_next kept begun reaches.steps
    have tidy := reaches.tidy (by rw [aborted]; nofun)
    have stale : Stale registry (Mounted.disk world) node.id := by
      rw [isDirty_mounted orderly.globFree] at dirty
      obtain ⟨_, answer, _⟩ := isDirty_planned orderly.canonical orderly.globFree sound.ordered
        supplied member (Verdicts.right_none registry _)
      rw [answer] at dirty
      simpa using dirty
    -- The node has not succeeded, so its own file cannot be a new one.
    have still : Stale registry last.disk node.id := by
      have isFile : node.kind ≠ .directory := by rw [kind]; nofun
      rcases guarded.stale orderly sound.ordered free made.timed tidy stale member found isFile
        with still | ⟨_, renewed⟩
      · exact still
      · refine absurd ?_ unfinished
        rw [← reaches.states]
        exact renewed.succeeded
    rw [isDirty_mounted orderly.globFree, ← reaches.disk]
    obtain ⟨_, answer, _⟩ := isDirty_planned orderly.canonical orderly.globFree sound.ordered
      (guarded.supplied orderly free supplied) member (Verdicts.right_none registry last.disk)
    rw [answer]
    simpa using still
  · -- A dry run leaves the world alone.
    have untouched : (run staff registry settings targets world).session.world = world := by
      rw [Bool.not_eq_false] at wet
      unfold run
      rw [planned]
      show (carryOut staff registry settings plan world).session.world = world
      rw [carryOut, wet]
      exact preview_world world
    rw [untouched]
    exact dirty

def halfway : Staff VirtualDisk VirtualDisk where
  executor :=
    ⟨fun invocation disk =>
      (.exited 1, if invocation.kind = .file then disk.write ⟨invocation.node⟩ [] else disk)⟩
  crew :=
    ⟨fun _ disk => disk, id, fun running busy disk => ⟨oldestTask running busy, .crashed, disk⟩⟩
  gather disk := disk
  dismiss disk := (disk, [])

theorem halfway_follows : halfway.Follows .ownFile where
  executor := by
    refine ⟨fun _ _ => nofun, ?_⟩
    intro invocation disk _
    show ReflTransGen _ disk (if invocation.kind = .file then _ else disk)
    split
    · rename_i kind
      exact .single ⟨kind, [], rfl⟩
    · exact .refl
  crew := by
    refine ⟨fun _ _ => True, ⟨?_, ?_, ?_, fun _ _ _ _ => trivial, fun _ _ _ _ => trivial⟩,
      fun _ => trivial⟩
    · exact fun _ _ _ _ _ => ⟨_, .refl, trivial⟩
    · exact fun _ tasks _ => ⟨tasks, .refl, trivial⟩
    · exact fun _ tasks _ _ _ _ _ => ⟨tasks, .refl, trivial, nofun⟩
  gather _ := rfl
  dismiss _ := rfl

def chain : Registry where
  nodes := [
    (Artifact.file "mid" (.run [⟨"make", [], ⟨[]⟩, none, none⟩])).dependsOn "in",
    (Artifact.file "out" (.run [⟨"make", [], ⟨[]⟩, none, none⟩])).dependsOn "mid"]

def chainPlan : Plan where
  order := ["mid", "out"]
  deps := [("out", ["mid"]), ("mid", [])]
  states := ⟨[("out", .evaluating), ("mid", .evaluating)]⟩

def outdated : VirtualDisk :=
  ((VirtualDisk.new.write ⟨"mid"⟩ []).write ⟨"out"⟩ []).write ⟨"in"⟩ []

theorem chain_orderly : chain.Orderly where
  ids := by decide
  prerequisites := by decide
  globFree := by decide
  unlinked := by decide
  apart := by decide

theorem chain_supplied : chain.Supplied chainPlan.order outdated := by
  intro node found _ _ dep needed missing
  have listed : dep = "in" ∨ chain.contains dep = true := by
    have either : ∀ node ∈ chain.nodes, ∀ dep ∈ node.nodePrerequisites,
        dep = "in" ∨ chain.contains dep = true := by decide
    exact either node (Registry.mem_of_find? found) dep needed
  rcases listed with rfl | contained
  · decide
  · rw [missing] at contained
    cases contained

theorem dirty_after_abort_chain :
    (run halfway chain {} ["out"] outdated).outcome = .failed (.actionFailed "mid" 1) ∧
      (isDirty chain outdated .none "out").1 = .ok true ∧
      (isDirty chain (run halfway chain {} ["out"] outdated).session.world .none "out").1 =
        .ok true := by
  have planned : Plan.make chain ["out"] = .ok chainPlan := by rfl
  have mounted : Mounted.disk outdated = outdated := rfl
  have made : (Mounted.disk outdated).Made := by
    rw [mounted]
    exact ⟨[.add ⟨"mid"⟩ [], .add ⟨"out"⟩ [], .add ⟨"in"⟩ []], rfl⟩
  have free : (Mounted.disk outdated).LinkFree := by
    rw [mounted]
    exact linkFree_write (linkFree_write (linkFree_write linkFree_new _ _) _ _) _ _
  have supplied : chain.Supplied chainPlan.order (Mounted.disk outdated) := by
    rw [mounted]
    exact chain_supplied
  have aborted : (run halfway chain {} ["out"] outdated).outcome =
      .failed (.actionFailed "mid" 1) := by decide +kernel
  have dirty : (isDirty chain outdated .none "out").1 = .ok true := by decide +kernel
  have unfinished : (run halfway chain {} ["out"] outdated).session.states.get "out" ≠
      .succeeded := by decide +kernel
  -- The second node, looked up.
  obtain ⟨out, found, kind, named⟩ : ∃ out : Artifact, chain.find? out.id = some out ∧
      out.kind = .file ∧ out.id = "out" :=
    ⟨(Artifact.file "out" (.run [⟨"make", [], ⟨[]⟩, none, none⟩])).dependsOn "mid",
      by decide, by decide, by decide⟩
  have still := dirty_after_abort chain_orderly halfway_follows {} planned made free supplied
    aborted (named ▸ by decide) found kind (by rw [named]; exact dirty)
    (by rw [named]; exact unfinished)
  rw [named] at still
  exact ⟨aborted, dirty, still⟩

end Aborted

end Run

end ArtifactPipeline
