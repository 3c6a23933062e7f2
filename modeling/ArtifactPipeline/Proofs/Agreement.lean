import ArtifactPipeline.Proofs.RunMoments

set_option autoImplicit false

namespace ArtifactPipeline

inductive Outline where
  | file (content : List UInt8)
  | dir
  | link (target : Path)
  deriving DecidableEq, Repr

def Entry.outline : Entry → Outline
  | .file content _ => .file content
  | .dir _ _ => .dir
  | .link target => .link target

namespace VirtualDisk

def outline? (disk : VirtualDisk) (loc : Location) : Option Outline :=
  (disk.bare? loc).map Entry.outline

theorem outline?_eq {disk other : VirtualDisk} {loc : Location}
    (same : disk.bare? loc = other.bare? loc) : disk.outline? loc = other.outline? loc :=
  congrArg (·.map Entry.outline) same

theorem outline?_eq_get? (disk : VirtualDisk) (loc : Location) :
    disk.outline? loc = (disk.get? loc).map Entry.outline := by
  rw [outline?, bare?, Option.map_map]
  congr 1
  funext entry
  cases entry <;> rfl

theorem outline?_write_self (disk : VirtualDisk) (path : Path) (content : List UInt8) :
    (disk.write path content).outline? (.ofPath path) = some (.file content) := by
  rw [outline?, bare?_write_self]
  rfl

end VirtualDisk

namespace Rehearsal

def leftBy (old : Option Outline) (command : Command) : List UInt8 :=
  let output := outputOf command.program
  match command.stdout with
  | none => Text.utf8 output
  | some redirect =>
      let header := (redirect.header.map fun header => header ++ "\n").getD ""
      match redirect.append, old with
      | true, some (.file content) =>
          Text.utf8 ((Text.decodeUtf8 content).toOption.getD "" ++ header ++ output)
      | _, _ => Text.utf8 (header ++ output)

def leftByAll (old : Option Outline) (commands : List Command) : Option Outline :=
  commands.foldl (fun old command => some (.file (leftBy old command))) old

theorem leftByAll_append (old : Option Outline) (commands : List Command) (command : Command) :
    leftByAll old (commands ++ [command]) =
      some (.file (leftBy (leftByAll old commands) command)) := by
  rw [leftByAll, List.foldl_append]
  rfl

def Own (node : Artifact) (command : Command) : Prop :=
  ∀ redirect, command.stdout = some redirect →
    node.kind = .file ∧ redirect.path.same node.path = true

theorem write_same (disk : VirtualDisk) {path other : Path} (same : path.same other = true)
    (content : List UInt8) : disk.write path content = disk.write other content := by
  have components : path.components = other.components := eq_of_beq same
  rw [VirtualDisk.write, VirtualDisk.write, Location.ofPath, Location.ofPath, components]

theorem leadIn_own {disk : VirtualDisk} {redirect : Redirect} {path : Path}
    (solid : disk.Solid (.ofPath path)) (same : redirect.path.same path = true) {lead : String}
    (led : leadIn disk redirect = .ok lead) (command : Command)
    (redirected : command.stdout = some redirect) :
    Text.utf8 (lead ++ outputOf command.program) =
      leftBy (disk.outline? (.ofPath path)) command := by
  have place : Location.ofPath redirect.path = .ofPath path := by
    have components : redirect.path.components = path.components := eq_of_beq same
    rw [Location.ofPath, Location.ofPath, components]
  unfold leadIn at led
  unfold leftBy
  rw [redirected]
  dsimp only
  -- Without appending nothing is read; with it the old content, if there is any, leads.
  cases appended : redirect.append with
  | false =>
      rw [appended] at led
      simp only [Bool.false_and, Bool.false_eq_true, if_false, Except.ok.injEq] at led
      rw [← led]
  | true =>
      rw [appended, Bool.true_and] at led
      rw [VirtualDisk.outline?_eq_get?, ← place]
      rw [← place] at solid
      have dated := solid.mtimeOf_eq_none_iff
      cases found : disk.get? (.ofPath redirect.path) with
      | none =>
          have absent : disk.present redirect.path = false := by
            rw [VirtualDisk.present, dated.mpr (VirtualDisk.get?_eq_none_iff.mp found)]
            rfl
          rw [absent] at led
          simp only [Bool.false_eq_true, if_false, Except.ok.injEq] at led
          rw [← led]
          rfl
      | some entry =>
          have there : disk.present redirect.path = true := by
            rw [VirtualDisk.present, Option.isSome_iff_ne_none]
            intro undated
            have absent := VirtualDisk.get?_eq_none_iff.mpr (dated.mp undated)
            rw [found] at absent
            cases absent
          rw [there, if_pos rfl, VirtualDisk.readText, VirtualDisk.readFrom, found] at led
          cases entry with
          | dir names mtime => cases led
          | link target =>
              refine absurd ?_ (solid target)
              rw [VirtualDisk.bare?, found]
              rfl
          | file content mtime =>
              dsimp only at led
              cases decoded : Text.decodeUtf8 content with
              | error fault =>
                  rw [decoded] at led
                  cases led
              | ok old =>
                  rw [decoded] at led
                  cases led
                  simp [Entry.outline, decoded, Except.toOption]

theorem produce_own {disk after : VirtualDisk} {node : Artifact} {command : Command}
    (solid : node.kind = .file → disk.Solid (.ofPath node.path)) (own : Own node command)
    (done : produce disk ⟨node.id, node.kind, command⟩ = .ok after) :
    node.kind = .file ∧
        after = disk.write node.path (leftBy (disk.outline? (.ofPath node.path)) command) ∨
      node.kind ≠ .file ∧ after = disk := by
  unfold produce at done
  dsimp only at done
  -- A redirect of its own has written the file already, so nothing is written twice.
  cases redirected : command.stdout with
  | none =>
      have elsewhere : redirectsTo command node.path = false := by
        rw [redirectsTo, redirected]
        rfl
      rw [redirected] at done
      dsimp only [redirectOutput] at done
      by_cases kind : node.kind = .file
      · refine .inl ⟨kind, ?_⟩
        have plain : leftBy (disk.outline? (.ofPath node.path)) command =
            Text.utf8 (outputOf command.program) := by
          rw [leftBy, redirected]
        rw [plain]
        have condition : (node.kind == .file && !redirectsTo command ⟨node.id⟩) = true := by
          rw [kind, show redirectsTo command ⟨node.id⟩ = false from elsewhere]
          rfl
        rw [condition, if_pos rfl] at done
        cases done
        rfl
      · refine .inr ⟨kind, ?_⟩
        have condition : (node.kind == .file && !redirectsTo command ⟨node.id⟩) = false := by
          simp [kind]
        rw [condition] at done
        cases done
        rfl
  | some redirect =>
      obtain ⟨kind, same⟩ := own redirect redirected
      refine .inl ⟨kind, ?_⟩
      have here : redirectsTo command ⟨node.id⟩ = true := by
        rw [redirectsTo, redirected]
        exact same
      rw [redirected] at done
      dsimp only [redirectOutput] at done
      cases led : leadIn disk redirect with
      | error fault =>
          rw [led] at done
          cases done
      | ok lead =>
          rw [led, here] at done
          simp only [Bool.not_true, Bool.and_false, Bool.false_eq_true, if_false,
            Except.ok.injEq] at done
          rw [← done, write_same disk same, leadIn_own (solid kind) same led command redirected]

end Rehearsal

/-- Commands that are rehearsed: each leaves its output, all at once. -/
def Conduct.rehearsal : Conduct where
  meddles _ _ _ := False
  completes invocation disk after := Rehearsal.produce disk invocation = .ok after

namespace Rehearsal

theorem prompt_worker : (worker []).Prompt := by
  intro invocation stage
  exact ⟨_, _, rfl⟩

theorem execute_eq (invocation : Invocation) (stage : Stage) :
    ∃ calls finished, (worker []).executor.execute invocation stage =
      match produce stage.disk invocation with
      | .ok disk => (.success, ⟨disk, calls, finished⟩)
      | .error fault => (.refused (.disk fault), ⟨stage.disk, calls, finished⟩) := by
  refine ⟨stage.calls ++ [invocation], stage.finished ++ [invocation.node], ?_⟩
  have performed : (worker []).executor.execute invocation stage =
      let performed := perform ⟨invocation, {}⟩ .success
        { stage with calls := stage.calls ++ [invocation] }
      (performed.1, performed.2.finish invocation.node) := rfl
  rw [performed, perform]
  dsimp only [if_true]
  cases produce stage.disk invocation <;> rfl

theorem executor_follows : (worker []).executor.Follows .rehearsal where
  success := by
    intro invocation stage success
    obtain ⟨calls, finished, executed⟩ := execute_eq invocation stage
    rw [executed] at success ⊢
    refine ⟨stage.disk, .refl, ?_⟩
    cases produced : produce stage.disk invocation with
    | error fault =>
        rw [produced] at success
        cases success
    | ok disk => exact produced
  trouble := by
    intro invocation stage trouble
    obtain ⟨calls, finished, executed⟩ := execute_eq invocation stage
    rw [executed] at trouble ⊢
    cases produced : produce stage.disk invocation with
    | error fault => exact .refl
    | ok disk =>
        rw [produced] at trouble
        exact absurd rfl trouble

theorem staff_follows : (worker []).staff.Follows .rehearsal :=
  Worker.staff_follows executor_follows prompt_worker

theorem staff_upholds : (worker []).staff.Upholds .rehearsal :=
  Worker.staff_upholds executor_follows prompt_worker

end Rehearsal

def Registry.OwnRedirects (registry : Registry) : Prop :=
  ∀ node ∈ registry.nodes, ∀ command ∈ Run.commandsOf node.action, Rehearsal.Own node command

def Registry.Quiet (registry : Registry) (loc : Location) : Prop :=
  ∀ node, registry.find? node.id = some node → node.kind = .file → node.location ≠ loc

theorem Registry.Orderly.quiet_source {registry : Registry} (orderly : registry.Orderly)
    {user : Artifact} (userMember : user ∈ registry.nodes) {dep : NodeId}
    (needed : dep ∈ user.nodePrerequisites) (unregistered : registry.find? dep = none) :
    registry.Quiet (NodeId.location dep) := by
  intro node found _ same
  exact orderly.location_ne_source userMember needed unregistered found same.symm

/-- Directories that are made on account of a node: itself, or the one its file lies in. -/
def Artifact.Bases (node : Artifact) (base : Location) : Prop :=
  node.action = .createDir ∧ base = node.location ∨
    node.kind = .file ∧ Run.commandsOf node.action ≠ [] ∧ node.location.dir? = some base

inductive Artifact.Changes (node : Artifact) (before after : VirtualDisk) : Prop where
  | nothing (same : after = before)
  | write {content : List UInt8} (kind : node.kind = .file)
      (commanded : Run.commandsOf node.action ≠ [])
      (written : after = before.write node.path content)
  | createDir {mtime : Nat} (action : node.action = .createDir)
      (touches : node.Touches none (some node.location) before after)
      (own : after.bare? node.location = some (.dir [] mtime))

namespace Artifact.Changes

open VirtualDisk

variable {registry : Registry} {node : Artifact} {before after : VirtualDisk}

theorem free (changes : node.Changes before after) (free : before.LinkFree) : after.LinkFree := by
  cases changes with
  | nothing same => exact same ▸ free
  | write _ _ written => exact written ▸ linkFree_write free _ _
  | createDir _ touches => exact touches.linkFree free nofun

theorem spares (changes : node.Changes before after) (orderly : registry.Orderly)
    (found : registry.find? node.id = some node) : node.Spares registry before after := by
  cases changes with
  | nothing same => exact same ▸ Artifact.spares_refl registry node before
  | write _ _ written => exact written ▸ (node.touches_write before _).spares orderly found
  | createDir _ touches => exact touches.spares orderly found

theorem present (changes : node.Changes before after) {loc : Location}
    (present : before.bare? loc ≠ none) : after.bare? loc ≠ none := by
  cases changes with
  | nothing same => exact same ▸ present
  | @write content _ _ written =>
      subst written
      by_cases here : loc = node.location
      · have own : (before.write node.path content).bare? node.location = _ :=
          bare?_write_self before node.path content
        rw [here, own]
        nofun
      · refine (node.touches_write before content).present ?_ present
        exact fun same => here (Option.some.inj same).symm
  | createDir _ touches => exact touches.present nofun present

theorem cases (changes : node.Changes before after) {loc : Location}
    (elsewhere : node.kind = .file → node.location ≠ loc) :
    after.bare? loc = before.bare? loc ∨
      ∃ base mtime, node.Bases base ∧ before.Opens base loc ∧
        after.bare? loc = some (.dir [] mtime) := by
  cases changes with
  | nothing same => exact .inl (by rw [same])
  | @write content kind commanded written =>
      subst written
      have different : some node.location ≠ some loc := fun same =>
        elsewhere kind (Option.some.inj same)
      rcases (node.touches_write before content).cases different with
        same | ⟨base, mtime, isBase, opens, _, _, isDir⟩
      · exact .inl same
      · exact .inr ⟨base, mtime, .inr ⟨kind, commanded, isBase⟩, opens, isDir⟩
  | createDir action touches =>
      have nowhere : (none : Option Location) ≠ some loc := nofun
      rcases touches.cases nowhere with same | ⟨base, mtime, isBase, opens, _, _, isDir⟩
      · exact .inl same
      · exact .inr ⟨base, mtime, .inl ⟨action, (Option.some.inj isBase).symm⟩, opens, isDir⟩

theorem stays (changes : node.Changes before after) (found : registry.find? node.id = some node)
    {loc : Location} (quiet : registry.Quiet loc) (present : before.bare? loc ≠ none) :
    after.bare? loc = before.bare? loc := by
  rcases changes.cases (quiet node found) with same | ⟨_, _, _, opens, _⟩
  · exact same
  · exact absurd opens.absent present

theorem listed (changes : node.Changes before after) {loc dir : Location}
    (above : loc.dir? = some dir) (absent : before.bare? loc = none)
    (present : after.bare? loc ≠ none) : after.bare? dir ≠ none := by
  -- A base that opens the location opens the directory above it too, unless that is there.
  have opened : ∀ {site base : Option Location}, site ≠ some dir →
      node.Touches site base before after →
      (∃ base', base = some base' ∧ before.Opens base' loc) → after.bare? dir ≠ none := by
    rintro site base elsewhere touches ⟨base, rfl, opens⟩
    by_cases missing : before.bare? dir = none
    · obtain ⟨mtime, _, _, made⟩ := touches.made base dir rfl (opens.dir above missing)
      simp [made]
    · exact touches.present elsewhere missing
  cases changes with
  | nothing same => exact absurd absent (same ▸ present)
  | @write content _ _ written =>
      subst written
      have touches := node.touches_write before content
      by_cases isOwn : node.location = dir
      · have own : (before.write node.path content).bare? node.location = _ :=
          bare?_write_self before node.path content
        rw [← isOwn, own]
        nofun
      · have elsewhere : some node.location ≠ some dir := fun same => isOwn (Option.some.inj same)
        by_cases here : node.location = loc
        · exact touches.base_present (here ▸ above) elsewhere
        · rcases touches.cases (fun same => here (Option.some.inj same)) with
            same | ⟨base, _, isBase, opens, _⟩
          · rw [same] at present
            exact absurd absent present
          · exact opened elsewhere touches ⟨base, isBase, opens⟩
  | createDir _ touches =>
      rcases touches.cases nofun with same | ⟨base, _, isBase, opens, _⟩
      · rw [same] at present
        exact absurd absent present
      · have nowhere : (none : Option Location) ≠ some dir := nofun
        exact opened nowhere touches ⟨base, isBase, opens⟩

end Artifact.Changes

namespace Run

open Function Relation VirtualDisk Freshness

/-- What every moment of a rehearsal has in common, also after something went wrong: what was there
on the disk `origin`, on which the run began, stays where no files are made, and tasks consist of
commands of their nodes. -/
structure Steady (registry : Registry) (order : List NodeId) (origin : VirtualDisk) (m : Moment) :
    Prop extends Moment.Kept registry order m where
  free : m.disk.LinkFree
  stays : ∀ loc, registry.Quiet loc → origin.bare? loc ≠ none →
    m.disk.bare? loc = origin.bare? loc
  commanded : ∀ id assignment, m.tasks id = some assignment →
    ∃ finished, commandsOf assignment.node.action = finished ++ assignment.left

namespace Steady

variable {registry : Registry} {order : List NodeId} {origin : VirtualDisk} {m next : Moment}

theorem start {plan : Plan} (sound : plan.Sound registry) (free : origin.LinkFree) :
    Steady registry plan.order origin (.start plan origin) where
  toKept := Moment.kept_start sound origin
  free := free
  stays := fun _ _ _ => rfl
  commanded := nofun

theorem source (steady : Steady registry order origin m) (orderly : registry.Orderly)
    (free : origin.LinkFree) {user : Artifact} (userMember : user ∈ registry.nodes) {dep : NodeId}
    (needed : dep ∈ user.nodePrerequisites) (unregistered : registry.find? dep = none)
    (present : origin.present ⟨dep⟩ = true) :
    m.disk.bare? (NodeId.location dep) = origin.bare? (NodeId.location dep) := by
  refine steady.stays _ (orderly.quiet_source userMember needed unregistered) ?_
  intro absent
  rw [VirtualDisk.present, (mtimeOf_eq_none_iff free ⟨dep⟩).mpr absent] at present
  cases present

theorem supplied (steady : Steady registry order origin m) (orderly : registry.Orderly)
    (free : origin.LinkFree) (supplied : registry.Supplied order origin) :
    registry.Supplied order m.disk := by
  intro node found member kind dep needed missing
  have registered := Registry.mem_of_find? found
  have unregistered : registry.find? dep = none := by
    have spelled := (orderly.prerequisites node registered dep needed).spelled
    rw [← Registry.get?_eq_find? spelled]
    simpa [Registry.contains] using missing
  have there := supplied node found member kind dep needed missing
  have same := steady.source orderly free registered needed unregistered there
  have sameTime : m.disk.mtimeOf ⟨dep⟩ = origin.mtimeOf ⟨dep⟩ := by
    rw [mtimeOf_eq steady.free, mtimeOf_eq free]
    exact congrArg (·.bind Entry.mtime?) same
  rw [VirtualDisk.present, sameTime]
  exact there

theorem moved (steady : Steady registry order origin m) (kept : Moment.Kept registry order next)
    (free : next.disk.LinkFree)
    (stays : ∀ loc, registry.Quiet loc → m.disk.bare? loc ≠ none →
      next.disk.bare? loc = m.disk.bare? loc)
    (commanded : ∀ id assignment, next.tasks id = some assignment →
      m.tasks id = some assignment ∨
        ∃ finished, commandsOf assignment.node.action = finished ++ assignment.left) :
    Steady registry order origin next where
  toKept := kept
  free := free
  stays := by
    intro loc quiet present
    have same := steady.stays loc quiet present
    rw [stays loc quiet (same ▸ present), same]
  commanded := by
    intro id assignment assigned
    rcases commanded id assignment assigned with earlier | split
    · exact steady.commanded id assignment earlier
    · exact split

theorem changed (steady : Steady registry order origin m) (kept : Moment.Kept registry order next)
    {node : Artifact} (found : registry.find? node.id = some node)
    (changes : node.Changes m.disk next.disk)
    (commanded : ∀ id assignment, next.tasks id = some assignment →
      m.tasks id = some assignment ∨
        ∃ finished, commandsOf assignment.node.action = finished ++ assignment.left) :
    Steady registry order origin next :=
  steady.moved kept (changes.free steady.free) (fun _ quiet => changes.stays found quiet) commanded

theorem advances (steady : Steady registry order origin m) (orderly : registry.Orderly)
    (redirects : registry.OwnRedirects) (kept : Moment.Kept registry order next)
    (advances : Moment.Advances registry .rehearsal m next) :
    Steady registry order origin next := by
  cases advances with
  | skip ready => exact steady.changed kept ready.found (.nothing rfl) fun _ _ => .inl
  | @launch node verdicts commands before called external =>
      refine steady.changed kept called.found (.nothing rfl) ?_
      intro id assignment assigned
      dsimp only at assigned
      rw [update_apply] at assigned
      split_ifs at assigned
      · cases assigned
        exact .inr ⟨[], by rw [external]; rfl⟩
      · exact .inl assigned
  | perform called internal done =>
      have unlinked := orderly.unlinked _ (Registry.mem_of_find? called.found)
      refine steady.changed kept called.found ?_ fun _ _ => .inl
      rcases runInternal_done unlinked done with ⟨_, same⟩ | ⟨action, mtime, touches, own⟩
      · exact .nothing same
      · exact .createDir action touches own
  | work works =>
      cases works with
      | meddle _ meddles => exact absurd meddles id
      | @complete id node command left disk assigned completes =>
          obtain ⟨rfl, found, _⟩ := steady.assigned id _ assigned
          obtain ⟨finished, split⟩ := steady.commanded _ _ assigned
          have commanded : command ∈ commandsOf node.action := by simp [split]
          have own := redirects node (Registry.mem_of_find? found) command commanded
          have changes : node.Changes m.disk disk := by
            rcases Rehearsal.produce_own (fun _ => steady.free _) own completes with
              ⟨kind, written⟩ | ⟨_, same⟩
            · exact .write kind (List.ne_nil_of_mem commanded) written
            · exact .nothing same
          refine steady.changed kept found changes ?_
          intro other assignment later
          dsimp only at later
          rw [update_apply] at later
          split_ifs at later
          · cases later
            exact .inr ⟨finished ++ [command], by simp [split]⟩
          · exact .inl later
  | @succeed id node finished executing =>
      have found := (steady.assigned id _ finished).2.1
      exact steady.moved kept steady.free (fun _ _ _ => rfl)
        fun _ _ assigned => .inl (Assignments.of_update_none assigned)

theorem suffers (steady : Steady registry order origin m)
    (kept : Moment.Kept registry order next) (suffers : Moment.Suffers registry m next) :
    Steady registry order origin next := by
  cases suffers with
  | @spoil node verdicts events disk failure called internal failed =>
      have same := runInternal_failed failed
      exact steady.changed kept called.found (.nothing same) fun _ _ => .inl
  | @fail node found executing =>
      have tasks : ∀ other assignment, update m.tasks node.id none other = some assignment →
          m.tasks other = some assignment ∨
            ∃ finished, commandsOf assignment.node.action = finished ++ assignment.left :=
        fun _ _ assigned => .inl (Assignments.of_update_none assigned)
      rcases discardLeftover_cases node (m.before node.id) m.disk with same | ⟨kind, removed⟩
      · refine steady.moved kept ?_ ?_ tasks
        · show (discardLeftover node _ m.disk).2.LinkFree
          rw [same]
          exact steady.free
        · intro loc _ _
          show (discardLeftover node _ m.disk).2.bare? loc = _
          rw [same]
      · refine steady.moved kept ?_ ?_ tasks
        · show (discardLeftover node _ m.disk).2.LinkFree
          rw [removed]
          exact linkFree_remove steady.free node.path
        · intro loc quiet _
          show (discardLeftover node _ m.disk).2.bare? loc = _
          rw [removed, bare?_remove, if_neg]
          exact fun here => quiet node found kind here.symm
  | @crash id executing =>
      exact steady.moved kept steady.free (fun _ _ _ => rfl)
        fun _ _ assigned => .inl (Assignments.of_update_none assigned)

theorem step (steady : Steady registry order origin m) (orderly : registry.Orderly)
    (redirects : registry.OwnRedirects) (step : Moment.Next registry .rehearsal m next) :
    Steady registry order origin next := by
  have kept := steady.toKept.step orderly.canonical orderly.globFree step
  rcases step with advances | suffers
  · exact steady.advances orderly redirects kept advances
  · exact steady.suffers kept suffers

end Steady

/-- What has been decided in a run agrees with what was out of date on the disk `origin`, on which
the run began, and what is up to date is left alone. -/
structure Judged (registry : Registry) (order : List NodeId) (origin : VirtualDisk) (m : Moment) :
    Prop extends Steady registry order origin m where
  spared : ∀ node, registry.find? node.id = some node → node.kind = .file →
    m.verdicts.get? node.id ≠ some true →
      m.disk.bare? node.location = origin.bare? node.location
  begun : ∀ id, m.states id = .executing ∨ m.states id = .succeeded →
    m.verdicts.get? id = some true
  skipped : ∀ id, m.states id = .skipped → m.verdicts.get? id = some false
  ruled : ∀ id dirty, m.verdicts.get? id = some dirty → id ∈ order
  right : ∀ node, registry.find? node.id = some node → node.kind ≠ .directory → ∀ dirty,
    m.verdicts.get? node.id = some dirty → (dirty = true ↔ Stale registry origin node.id)
  executed : ∀ id, id ∈ m.executed ↔ m.states id = .succeeded

namespace Judged

variable {registry : Registry} {order : List NodeId} {origin : VirtualDisk} {m next : Moment}

theorem start {plan : Plan} (sound : plan.Sound registry) (free : origin.LinkFree) :
    Judged registry plan.order origin (.start plan origin) where
  toSteady := Steady.start sound free
  spared := fun _ _ _ _ => rfl
  begun := by
    intro id state
    have waiting : plan.states.get id = .executing ∨ plan.states.get id = .succeeded := state
    rw [sound.states_get] at waiting
    split at waiting <;> rcases waiting with impossible | impossible <;> cases impossible
  skipped := by
    intro id state
    have waiting : plan.states.get id = .skipped := state
    rw [sound.states_get] at waiting
    split at waiting <;> cases waiting
  ruled := nofun
  right := nofun
  executed := by
    intro id
    refine ⟨nofun, ?_⟩
    intro state
    have waiting : plan.states.get id = .succeeded := state
    rw [sound.states_get] at waiting
    split at waiting <;> cases waiting

theorem spared_mtime (judged : Judged registry order origin m) (free : origin.LinkFree)
    {node : Artifact} (found : registry.find? node.id = some node) (kind : node.kind = .file)
    (uncalled : m.verdicts.get? node.id ≠ some true) :
    m.disk.mtimeOf node.path = origin.mtimeOf node.path := by
  rw [mtimeOf_eq judged.free, mtimeOf_eq free]
  exact congrArg (·.bind Entry.mtime?) (judged.spared node found kind uncalled)

open Classical in
theorem dirtiedBy_eq (judged : Judged registry order origin m) (orderly : registry.Orderly)
    (free : origin.LinkFree) (supplied : registry.Supplied order origin) {node : Artifact}
    (ready : Moment.Ready registry m node) (kind : node.kind = .file) (own : Option Nat)
    {dep : NodeId} (needed : dep ∈ node.nodePrerequisites) :
    dirtiedBy registry m.disk m.known own dep =
      dirtiedBy registry origin (fun id => decide (Stale registry origin id)) own dep := by
  have member := Registry.mem_of_find? ready.found
  have spelled := (orderly.prerequisites node member dep needed).spelled
  unfold dirtiedBy
  cases registered : registry.find? dep with
  | none =>
      have missing : registry.contains dep = false := by
        rw [Registry.contains, Registry.get?_eq_find? spelled, registered]
        rfl
      have planned : node.id ∈ order := judged.planned node.id (by simp [ready.waiting])
      have there := supplied node ready.found planned kind dep needed missing
      have same := judged.toSteady.source orderly free member needed registered there
      have sameTime : m.disk.mtimeOf ⟨dep⟩ = origin.mtimeOf ⟨dep⟩ := by
        rw [mtimeOf_eq judged.free, mtimeOf_eq free]
        exact congrArg (·.bind Entry.mtime?) same
      have sameKind : m.disk.isDir ⟨dep⟩ = origin.isDir ⟨dep⟩ := by
        rw [Bool.eq_iff_iff, isDir_iff judged.free, isDir_iff free]
        show (∃ mtime, m.disk.bare? (NodeId.location dep) = _) ↔
          ∃ mtime, origin.bare? (NodeId.location dep) = _
        rw [same]
      simp only [sameTime, sameKind]
  | some prerequisite =>
      have named := Registry.id_of_find? registered
      subst named
      have contained : registry.contains prerequisite.id = true :=
        (Registry.contains_iff spelled).mpr ⟨_, registered⟩
      have satisfied := ready.supported prerequisite.id needed contained
      have decided : m.verdicts.get? prerequisite.id = some (m.known prerequisite.id) := by
        refine judged.decided _ (judged.planned _ fun unvisited => ?_) fun waiting => ?_
        · rw [unvisited] at satisfied
          cases satisfied
        · rw [waiting] at satisfied
          cases satisfied
      dsimp only
      cases depKind : prerequisite.kind with
      | directory => rfl
      | phony =>
          have about := judged.right prerequisite registered (by simp [depKind]) _ decided
          dsimp only
          rw [Bool.eq_iff_iff, decide_eq_true_iff]
          exact about
      | file =>
          have about := judged.right prerequisite registered (by simp [depKind]) _ decided
          dsimp only
          -- A stale prerequisite makes the node dirty in any case; the file of a clean one has not
          -- been touched, so that its date is still the old one.
          by_cases stale : Stale registry origin prerequisite.id
          · rw [about.mpr stale, decide_eq_true stale]
            rfl
          · have clean : m.known prerequisite.id = false :=
              Bool.eq_false_iff.mpr fun dirty => stale (about.mp dirty)
            have untouched : m.disk.mtimeOf ⟨prerequisite.id⟩ = origin.mtimeOf ⟨prerequisite.id⟩ :=
              judged.spared_mtime free registered depKind (by simp [decided, clean])
            rw [clean, decide_eq_false stale, untouched]

theorem ruling (judged : Judged registry order origin m) (orderly : registry.Orderly)
    (free : origin.LinkFree) (supplied : registry.Supplied order origin) {node : Artifact}
    (ready : Moment.Ready registry m node) (kind : node.kind ≠ .directory) :
    dirtyGiven registry m.disk m.known node = true ↔ Stale registry origin node.id := by
  classical
  rw [stale_iff ready.found, ← Bool.eq_iff_iff]
  unfold dirtyGiven
  cases own : node.kind with
  | phony => rfl
  | directory => exact absurd own kind
  | file =>
      have undecided := judged.undecided node.id ready.waiting
      have untouched := judged.spared_mtime free ready.found own (by rw [undecided]; nofun)
      dsimp only
      rw [untouched]
      congr 1
      rw [Bool.eq_iff_iff, List.any_eq_true, List.any_eq_true]
      refine exists_congr fun dep => and_congr_right fun needed => ?_
      rw [judged.dirtiedBy_eq orderly free supplied ready own _ needed]

theorem moved (judged : Judged registry order origin m) (orderly : registry.Orderly)
    (steady : Steady registry order origin next) {node : Artifact}
    (found : registry.find? node.id = some node) (member : node.id ∈ order) {state : NodeState}
    {dirty : Bool}
    (states : next.states = update m.states node.id state)
    (others : ∀ id, id ≠ node.id → next.verdicts.get? id = m.verdicts.get? id)
    (answer : next.verdicts.get? node.id = some dirty)
    (lasting : m.verdicts.get? node.id = some true → dirty = true)
    (right : node.kind ≠ .directory → (dirty = true ↔ Stale registry origin node.id))
    (begun : state = .executing ∨ state = .succeeded → dirty = true)
    (skipped : state = .skipped → dirty = false)
    (unfinished : m.states node.id ≠ .succeeded)
    (executed : ∀ id, id ∈ next.executed ↔ id ∈ m.executed ∨ id = node.id ∧ state = .succeeded)
    (changes : node.Changes m.disk next.disk) (idle : dirty = false → next.disk = m.disk) :
    Judged registry order origin next where
  toSteady := steady
  spared := by
    intro other otherFound kind uncalled
    by_cases own : other.id = node.id
    · rw [own, found] at otherFound
      cases otherFound
      rw [answer] at uncalled
      have clean : dirty = false := Bool.eq_false_iff.mpr fun isDirty => uncalled (by rw [isDirty])
      rw [idle clean]
      refine judged.spared node found kind fun called => ?_
      rw [lasting called] at clean
      cases clean
    · rw [others other.id own] at uncalled
      rw [(changes.spares orderly found).files other (Registry.mem_of_find? otherFound) kind own]
      exact judged.spared other otherFound kind uncalled
  begun := by
    intro id started
    rw [states] at started
    by_cases own : id = node.id
    · subst own
      rw [update_self] at started
      rw [answer, begun started]
    · rw [update_of_ne own] at started
      rw [others id own]
      exact judged.begun id started
  skipped := by
    intro id passed
    rw [states] at passed
    by_cases own : id = node.id
    · subst own
      rw [update_self] at passed
      rw [answer, skipped passed]
    · rw [update_of_ne own] at passed
      rw [others id own]
      exact judged.skipped id passed
  ruled := by
    intro id ruling decided
    by_cases own : id = node.id
    · exact own ▸ member
    · rw [others id own] at decided
      exact judged.ruled id ruling decided
  right := by
    intro other otherFound kind ruling decided
    by_cases own : other.id = node.id
    · rw [own, found] at otherFound
      cases otherFound
      rw [answer] at decided
      cases decided
      exact right kind
    · rw [others other.id own] at decided
      exact judged.right other otherFound kind ruling decided
  executed := by
    intro id
    rw [executed, judged.executed, states]
    by_cases own : id = node.id
    · subst own
      rw [update_self]
      simp [unfinished]
    · rw [update_of_ne own]
      simp [own]

end Judged

def outcome (node : Artifact) (old : Option Outline) : Option Outline :=
  if node.action = .createDir then some .dir
  else Rehearsal.leftByAll old (commandsOf node.action)

def Partway (origin disk : VirtualDisk) (node : Artifact) (left : List Command) : Prop :=
  node.action ≠ .createDir ∧ ∃ finished, commandsOf node.action = finished ++ left ∧
    (node.kind = .file →
      disk.outline? node.location =
          Rehearsal.leftByAll (origin.outline? node.location) finished ∧
        (finished ≠ [] → ∀ base, node.location.dir? = some base → disk.bare? base ≠ none))

structure Built (registry : Registry) (origin : VirtualDisk) (m : Moment) : Prop where
  progress : ∀ node, registry.find? node.id = some node → ∀ left,
    m.tasks node.id = some ⟨node, left⟩ → Partway origin m.disk node left
  outcome : ∀ node, registry.find? node.id = some node → node.kind = .file →
    m.states node.id = .succeeded →
      m.disk.outline? node.location = outcome node (origin.outline? node.location)

namespace Built

variable {registry : Registry} {order : List NodeId} {origin : VirtualDisk} {m next : Moment}

theorem start {plan : Plan} (sound : plan.Sound registry) :
    Built registry origin (.start plan origin) where
  progress := nofun
  outcome := by
    intro node _ _ state
    have waiting : plan.states.get node.id = .succeeded := state
    rw [sound.states_get] at waiting
    split at waiting <;> cases waiting

theorem moved (built : Built registry origin m) (orderly : registry.Orderly) {node : Artifact}
    (found : registry.find? node.id = some node) (changes : node.Changes m.disk next.disk)
    (states : ∀ id, id ≠ node.id → next.states id = m.states id)
    (tasks : ∀ id, id ≠ node.id → next.tasks id = m.tasks id)
    (progress : ∀ left, next.tasks node.id = some ⟨node, left⟩ →
      Partway origin next.disk node left)
    (ended : node.kind = .file → next.states node.id = .succeeded →
      next.disk.outline? node.location = Run.outcome node (origin.outline? node.location)) :
    Built registry origin next := by
  have spares := changes.spares orderly found
  refine ⟨?_, ?_⟩
  · intro other otherFound left assigned
    by_cases own : other.id = node.id
    · rw [own, found] at otherFound
      cases otherFound
      exact progress left assigned
    · rw [tasks other.id own] at assigned
      obtain ⟨external, finished, split, written⟩ := built.progress other otherFound left assigned
      refine ⟨external, finished, split, ?_⟩
      intro kind
      obtain ⟨content, based⟩ := written kind
      have same := spares.files other (Registry.mem_of_find? otherFound) kind own
      refine ⟨(outline?_eq same).trans content, ?_⟩
      exact fun some_ base above => changes.present (based some_ base above)
  · intro other otherFound kind succeeded
    by_cases own : other.id = node.id
    · rw [own, found] at otherFound
      cases otherFound
      exact ended kind succeeded
    · rw [states other.id own] at succeeded
      have same := spares.files other (Registry.mem_of_find? otherFound) kind own
      exact (outline?_eq same).trans (built.outcome other otherFound kind succeeded)

end Built

/-- Where no files are made there are the directories that the called nodes need, besides what was
there on the disk `origin`. -/
structure Shaped (registry : Registry) (origin : VirtualDisk) (m : Moment) : Prop where
  quiet : ∀ loc, registry.Quiet loc → m.disk.bare? loc = origin.bare? loc ∨
    origin.bare? loc = none ∧ ∃ mtime, m.disk.bare? loc = some (.dir [] mtime)
  lasting : ∀ loc, origin.bare? loc ≠ none → m.disk.bare? loc ≠ none
  opened : ∀ loc, registry.Quiet loc → origin.bare? loc = none → m.disk.bare? loc ≠ none →
    ∃ node base, registry.find? node.id = some node ∧ m.verdicts.get? node.id = some true ∧
      node.Bases base ∧ origin.Opens base loc
  listed : ∀ loc dir, loc.dir? = some dir → m.disk.bare? loc ≠ none → origin.bare? loc = none →
    m.disk.bare? dir ≠ none
  based : ∀ node base, registry.find? node.id = some node → node.Bases base →
    m.states node.id = .succeeded → m.disk.bare? base ≠ none
  passed : ∀ node, registry.find? node.id = some node → node.kind = .directory →
    m.states node.id = .skipped → m.disk.bare? node.location ≠ none

namespace Shaped

variable {registry : Registry} {order : List NodeId} {origin : VirtualDisk} {m next : Moment}

theorem start {plan : Plan} (sound : plan.Sound registry) :
    Shaped registry origin (.start plan origin) where
  quiet := fun _ _ => .inl rfl
  lasting := fun _ present => present
  opened := fun _ _ absent present => absurd absent present
  listed := fun _ _ _ present absent => absurd absent present
  based := by
    intro node base _ _ state
    have waiting : plan.states.get node.id = .succeeded := state
    rw [sound.states_get] at waiting
    split at waiting <;> cases waiting
  passed := by
    intro node _ _ state
    have waiting : plan.states.get node.id = .skipped := state
    rw [sound.states_get] at waiting
    split at waiting <;> cases waiting

theorem moved (shaped : Shaped registry origin m) {node : Artifact}
    (found : registry.find? node.id = some node) (changes : node.Changes m.disk next.disk)
    (called : next.disk = m.disk ∨ next.verdicts.get? node.id = some true)
    (verdicts : ∀ id, m.verdicts.get? id = some true → next.verdicts.get? id = some true)
    (states : ∀ id, id ≠ node.id → next.states id = m.states id)
    (based : ∀ base, node.Bases base → next.states node.id = .succeeded →
      next.disk.bare? base ≠ none)
    (passed : node.kind = .directory → next.states node.id = .skipped →
      next.disk.bare? node.location ≠ none) : Shaped registry origin next where
  quiet := by
    intro loc quiet
    rcases changes.cases (quiet node found) with same | ⟨_, mtime, _, opens, isDir⟩
    · rw [same]
      exact shaped.quiet loc quiet
    · refine .inr ⟨?_, mtime, isDir⟩
      rcases shaped.quiet loc quiet with same | ⟨absent, _⟩
      · rw [← same]
        exact opens.absent
      · exact absent
  lasting := fun loc present => changes.present (shaped.lasting loc present)
  opened := by
    intro loc quiet absent present
    have before (there : m.disk.bare? loc ≠ none) :
        ∃ node base, registry.find? node.id = some node ∧
          next.verdicts.get? node.id = some true ∧ node.Bases base ∧ origin.Opens base loc := by
      obtain ⟨other, base, otherFound, ruled, bases, opens⟩ :=
        shaped.opened loc quiet absent there
      exact ⟨other, base, otherFound, verdicts other.id ruled, bases, opens⟩
    -- What was not there before is above a base of this node, and the disk at the beginning opens
    -- it too: nothing that is there is ever taken away.
    rcases changes.cases (quiet node found) with same | ⟨base, _, bases, opens, _⟩
    · exact before (same ▸ present)
    · rcases called with still | called
      · exact before (still ▸ present)
      · refine ⟨node, base, found, called, bases, opens.of_absent ?_⟩
        intro between _ missing
        by_contra there
        exact shaped.lasting between there missing
  listed := by
    intro loc dir above present absent
    by_cases there : m.disk.bare? loc = none
    · exact changes.listed above there present
    · exact changes.present (shaped.listed loc dir above there absent)
  based := by
    intro other base otherFound bases succeeded
    by_cases own : other.id = node.id
    · rw [own, found] at otherFound
      cases otherFound
      exact based base bases succeeded
    · rw [states other.id own] at succeeded
      exact changes.present (shaped.based other base otherFound bases succeeded)
  passed := by
    intro other otherFound kind skipped
    by_cases own : other.id = node.id
    · rw [own, found] at otherFound
      cases otherFound
      exact passed kind skipped
    · rw [states other.id own] at skipped
      exact changes.present (shaped.passed other otherFound kind skipped)

end Shaped

structure Rehearsed (registry : Registry) (order : List NodeId) (origin : VirtualDisk)
    (m : Moment) : Prop extends
    Judged registry order origin m, Built registry origin m, Shaped registry origin m

namespace Rehearsed

variable {registry : Registry} {order : List NodeId} {origin : VirtualDisk} {m next : Moment}

theorem start {plan : Plan} (sound : plan.Sound registry) (free : origin.LinkFree) :
    Rehearsed registry plan.order origin (.start plan origin) :=
  { Judged.start sound free, Built.start sound, Shaped.start sound with }

theorem asked (rehearsed : Rehearsed registry order origin m) (orderly : registry.Orderly)
    (free : origin.LinkFree) (supplied : registry.Supplied order origin) {node : Artifact}
    (ready : Moment.Ready registry m node) {dirty : Bool} {verdicts : Verdicts}
    (answer : isDirty registry m.disk m.verdicts node.id = (.ok dirty, verdicts)) :
    node.id ∈ order ∧ verdicts.get? node.id = some dirty ∧
      (∀ other, other ≠ node.id → verdicts.get? other = m.verdicts.get? other) ∧
      (node.kind ≠ .directory → (dirty = true ↔ Stale registry origin node.id)) ∧
      (node.kind = .directory → dirty = !m.disk.isDir node.path) := by
  have inPlace := rehearsed.toSteady.supplied orderly free supplied
  obtain ⟨member, given, decided, others⟩ :=
    rehearsed.toKept.recorded orderly.canonical orderly.globFree ready answer
  refine ⟨member, decided, others, ?_, ?_⟩
  · intro kind
    rw [given]
    exact rehearsed.toJudged.ruling orderly free supplied ready kind
  · intro kind
    rw [given, dirtyGiven, kind]

theorem moved (rehearsed : Rehearsed registry order origin m) (orderly : registry.Orderly)
    (steady : Steady registry order origin next) {node : Artifact}
    (found : registry.find? node.id = some node) (member : node.id ∈ order) {state : NodeState}
    {dirty : Bool} (states : next.states = update m.states node.id state)
    (others : ∀ id, id ≠ node.id → next.verdicts.get? id = m.verdicts.get? id)
    (answer : next.verdicts.get? node.id = some dirty)
    (lasting : m.verdicts.get? node.id = some true → dirty = true)
    (right : node.kind ≠ .directory → (dirty = true ↔ Stale registry origin node.id))
    (begun : state = .executing ∨ state = .succeeded → dirty = true)
    (skipped : state = .skipped → dirty = false)
    (unfinished : m.states node.id ≠ .succeeded)
    (executed : ∀ id, id ∈ next.executed ↔ id ∈ m.executed ∨ id = node.id ∧ state = .succeeded)
    (changes : node.Changes m.disk next.disk) (idle : dirty = false → next.disk = m.disk)
    (tasks : ∀ id, id ≠ node.id → next.tasks id = m.tasks id)
    (progress : ∀ left, next.tasks node.id = some ⟨node, left⟩ →
      Partway origin next.disk node left)
    (ended : state = .succeeded →
      (node.kind = .file →
        next.disk.outline? node.location = outcome node (origin.outline? node.location)) ∧
      ∀ base, node.Bases base → next.disk.bare? base ≠ none)
    (passed : state = .skipped → node.kind = .directory →
      next.disk.bare? node.location ≠ none) : Rehearsed registry order origin next := by
  have own : next.states node.id = state := by rw [states, update_self]
  have elsewhere : ∀ id, id ≠ node.id → next.states id = m.states id := by
    intro id apart
    rw [states, update_of_ne apart]
  have judged : Judged registry order origin next :=
    rehearsed.toJudged.moved orderly steady found member states others answer lasting right begun
      skipped unfinished executed changes idle
  have built : Built registry origin next := by
    refine rehearsed.toBuilt.moved orderly found changes elsewhere tasks progress ?_
    intro kind succeeded
    exact (ended (own.symm.trans succeeded)).1 kind
  have shaped : Shaped registry origin next := by
    refine rehearsed.toShaped.moved found changes ?_ ?_ elsewhere ?_ ?_
    · cases isDirty : dirty with
      | false => exact .inl (idle isDirty)
      | true => exact .inr (isDirty ▸ answer)
    · intro id called
      by_cases same : id = node.id
      · subst same
        rw [answer, lasting called]
      · rw [others id same]
        exact called
    · intro base bases succeeded
      exact (ended (own.symm.trans succeeded)).2 base bases
    · intro kind passedOver
      exact passed (own.symm.trans passedOver) kind
  exact ⟨judged, built, shaped⟩

theorem fresh (rehearsed : Rehearsed registry order origin m) {node : Artifact}
    (ready : Moment.Ready registry m node) :
    m.verdicts.get? node.id ≠ some true ∧ m.states node.id ≠ .succeeded ∧
      ∀ left, m.tasks node.id ≠ some ⟨node, left⟩ := by
  refine ⟨?_, ?_, ?_⟩
  · rw [rehearsed.undecided node.id ready.waiting]
    nofun
  · rw [ready.waiting]
    nofun
  · intro left
    rw [rehearsed.toKept.idle ready]
    nofun

theorem skip (rehearsed : Rehearsed registry order origin m) (orderly : registry.Orderly)
    (free : origin.LinkFree) (supplied : registry.Supplied order origin)
    (steady : Steady registry order origin next) {node : Artifact}
    (ready : Moment.Ready registry m node)
    (clean : isDirty registry m.disk m.verdicts node.id = (.ok false, next.verdicts))
    (states : next.states = update m.states node.id .skipped)
    (place : next.toWorkplace = m.toWorkplace) (executed : next.executed = m.executed) :
    Rehearsed registry order origin next := by
  obtain ⟨member, decided, others, right, directory⟩ :=
    rehearsed.asked orderly free supplied ready clean
  obtain ⟨uncalled, unfinished, taskless⟩ := rehearsed.fresh ready
  have disk : next.disk = m.disk := congrArg Workplace.disk place
  have tasks : next.tasks = m.tasks := congrArg Workplace.tasks place
  refine rehearsed.moved orderly steady ready.found member states others decided
    (fun called => absurd called uncalled) right ?_ (fun _ => rfl) unfinished ?_ (.nothing disk)
    (fun _ => disk) (fun id _ => by rw [tasks]) ?_ nofun ?_
  · rintro (impossible | impossible) <;> cases impossible
  · intro id
    simp [executed]
  · intro left assigned
    rw [tasks] at assigned
    exact absurd assigned (taskless left)
  · intro _ kind
    have isDir := directory kind
    rw [eq_comm, Bool.not_eq_false', isDir_iff rehearsed.free] at isDir
    obtain ⟨mtime, there⟩ := isDir
    rw [disk]
    show m.disk.bare? (.ofPath node.path) ≠ none
    rw [there]
    nofun

theorem launch (rehearsed : Rehearsed registry order origin m) (orderly : registry.Orderly)
    (free : origin.LinkFree) (supplied : registry.Supplied order origin)
    (steady : Steady registry order origin next) {node : Artifact} {commands : List Command}
    (called : Moment.Called registry m node next.verdicts) (external : node.action = .run commands)
    (states : next.states = update m.states node.id .executing) (disk : next.disk = m.disk)
    (tasks : next.tasks = update m.tasks node.id (some ⟨node, commands⟩))
    (executed : next.executed = m.executed) : Rehearsed registry order origin next := by
  obtain ⟨member, decided, others, right, _⟩ :=
    rehearsed.asked orderly free supplied called.toReady called.dirty
  obtain ⟨uncalled, unfinished, _⟩ := rehearsed.fresh called.toReady
  refine rehearsed.moved orderly steady called.found member states others decided (fun _ => rfl)
    right (fun _ => rfl) nofun unfinished ?_ (.nothing disk) nofun ?_ ?_ nofun nofun
  · intro id
    simp [executed]
  · intro id apart
    rw [tasks, update_of_ne apart]
  · intro left assigned
    rw [tasks, update_self] at assigned
    cases assigned
    refine ⟨by rw [external]; nofun, [], by rw [external]; rfl, ?_⟩
    intro kind
    refine ⟨?_, fun some_ => absurd rfl some_⟩
    rw [disk]
    exact outline?_eq (rehearsed.spared node called.found kind uncalled)

theorem perform (rehearsed : Rehearsed registry order origin m) (orderly : registry.Orderly)
    (free : origin.LinkFree) (supplied : registry.Supplied order origin)
    (steady : Steady registry order origin next) {node : Artifact} {events : List Event}
    (called : Moment.Called registry m node next.verdicts)
    (internal : ∀ commands, node.action ≠ .run commands)
    (done : runInternal node m.disk = (.ok (), events, next.disk))
    (states : next.states = update m.states node.id .succeeded) (tasks : next.tasks = m.tasks)
    (executed : next.executed = m.executed ++ [node.id]) :
    Rehearsed registry order origin next := by
  obtain ⟨member, decided, others, right, _⟩ :=
    rehearsed.asked orderly free supplied called.toReady called.dirty
  obtain ⟨uncalled, unfinished, taskless⟩ := rehearsed.fresh called.toReady
  have unlinked := orderly.unlinked node (Registry.mem_of_find? called.found)
  have commandless : commandsOf node.action = [] := by
    cases action : node.action with
    | run commands => exact absurd action (internal commands)
    | none | createDir | symlink => rfl
  have made : node.Changes m.disk next.disk ∧
      (node.kind = .file → next.disk.outline? node.location =
        outcome node (origin.outline? node.location)) ∧
      ∀ base, node.Bases base → next.disk.bare? base ≠ none := by
    -- Either nothing happens or the directory of the node is made.
    rcases runInternal_done unlinked done with ⟨other, same⟩ | ⟨action, mtime, touches, own⟩
    · refine ⟨.nothing same, ?_, ?_⟩
      · intro kind
        rw [outcome, if_neg other, commandless, same]
        exact outline?_eq (rehearsed.spared node called.found kind uncalled)
      · rintro base (⟨action, _⟩ | ⟨_, commanded, _⟩)
        · exact absurd action other
        · exact absurd commandless commanded
    · refine ⟨.createDir action touches own, ?_, ?_⟩
      · intro _
        rw [outcome, if_pos action, outline?, own]
        rfl
      · rintro base (⟨_, rfl⟩ | ⟨_, commanded, _⟩)
        · rw [own]
          nofun
        · exact absurd commandless commanded
  refine rehearsed.moved orderly steady called.found member states others decided (fun _ => rfl)
    right (fun _ => rfl) nofun unfinished ?_ made.1 nofun (fun id _ => by rw [tasks]) ?_
    (fun _ => made.2) nofun
  · intro id
    simp [executed]
  · intro left assigned
    rw [tasks] at assigned
    exact absurd assigned (taskless left)

theorem work (rehearsed : Rehearsed registry order origin m) (orderly : registry.Orderly)
    (redirects : registry.OwnRedirects) {place : Workplace}
    (works : Conduct.rehearsal.Works m.toWorkplace place)
    (steady : Steady registry order origin { m with toWorkplace := place }) :
    Rehearsed registry order origin { m with toWorkplace := place } := by
  cases works with
  | meddle _ meddles => exact absurd meddles id
  | @complete id node command left disk assigned completes =>
      obtain ⟨named, found, executing⟩ := rehearsed.assigned id _ assigned
      dsimp only at named
      subst named
      obtain ⟨external, finished, split, written⟩ := rehearsed.progress node found _ assigned
      have commanded : command ∈ commandsOf node.action := by simp [split]
      have own := redirects node (Registry.mem_of_find? found) command commanded
      have answer := rehearsed.begun node.id (.inl executing)
      have unfinished : m.states node.id ≠ .succeeded := by rw [executing]; nofun
      have regrouped : commandsOf node.action = (finished ++ [command]) ++ left := by simp [split]
      have made : node.Changes m.disk disk ∧ Partway origin disk node left := by
        rcases Rehearsal.produce_own (fun _ => rehearsed.free _) own completes with
          ⟨kind, rfl⟩ | ⟨kind, rfl⟩
        · refine ⟨.write kind (List.ne_nil_of_mem commanded) rfl, external, _, regrouped, ?_⟩
          intro _
          refine ⟨?_, ?_⟩
          · have content := outline?_write_self m.disk node.path
              (Rehearsal.leftBy (m.disk.outline? (.ofPath node.path)) command)
            rw [Rehearsal.leftByAll_append, ← (written kind).1]
            exact content
          · intro _ base above
            refine (node.touches_write m.disk _).base_present above ?_
            intro same
            rw [← Option.some.inj same] at above
            exact Location.dir?_ne_self above
        · exact ⟨.nothing rfl, external, _, regrouped, fun isFile => absurd isFile kind⟩
      -- The node keeps its state: its file has got one command further.
      refine rehearsed.moved orderly steady found (rehearsed.ruled _ _ answer)
        (update_eq_self node.id m.states).symm (fun _ _ => rfl) answer (fun _ => rfl)
        (fun kind => rehearsed.right node found kind true answer) (fun _ => rfl) ?_ unfinished ?_
        made.1 nofun (fun id apart => update_of_ne apart ..) ?_ ?_ ?_
      · rw [executing]
        nofun
      · intro id
        rw [executing]
        simp
      · intro remaining later
        dsimp only at later
        rw [update_self] at later
        cases later
        exact made.2
      · exact fun succeeded => absurd succeeded unfinished
      · rw [executing]
        nofun

theorem succeed (rehearsed : Rehearsed registry order origin m) (orderly : registry.Orderly)
    (steady : Steady registry order origin next) {node : Artifact}
    (finished : m.tasks node.id = some ⟨node, []⟩) (place : next.disk = m.disk)
    (verdicts : next.verdicts = m.verdicts)
    (tasks : next.tasks = update m.tasks node.id none)
    (states : next.states = update m.states node.id .succeeded)
    (executed : next.executed = m.executed ++ [node.id]) :
    Rehearsed registry order origin next := by
  obtain ⟨_, found, executing⟩ := rehearsed.assigned node.id _ finished
  obtain ⟨external, done, split, written⟩ := rehearsed.progress node found _ finished
  rw [List.append_nil] at split
  have answer := rehearsed.begun node.id (.inl executing)
  have unfinished : m.states node.id ≠ .succeeded := by rw [executing]; nofun
  refine rehearsed.moved orderly steady found (rehearsed.ruled _ _ answer) states
    (fun _ _ => by rw [verdicts]) (by rw [verdicts]; exact answer) (fun _ => rfl)
    (fun kind => rehearsed.right node found kind true answer) (fun _ => rfl) nofun unfinished ?_
    (.nothing place) nofun ?_ ?_ ?_ nofun
  · intro id
    simp [executed]
  · intro id apart
    rw [tasks, update_of_ne apart]
  · intro left assigned
    rw [tasks, update_self] at assigned
    cases assigned
  · intro _
    rw [place]
    refine ⟨?_, ?_⟩
    · intro kind
      rw [outcome, if_neg external, split]
      exact (written kind).1
    · rintro base (⟨action, _⟩ | ⟨kind, commanded, above⟩)
      · exact absurd action external
      · exact (written kind).2 (split ▸ commanded) base above

theorem step (rehearsed : Rehearsed registry order origin m) (orderly : registry.Orderly)
    (free : origin.LinkFree) (supplied : registry.Supplied order origin)
    (redirects : registry.OwnRedirects) (advances : Moment.Advances registry .rehearsal m next) :
    Rehearsed registry order origin next := by
  have inPlace := rehearsed.toSteady.supplied orderly free supplied
  have steady := rehearsed.toSteady.advances orderly redirects
    (rehearsed.toKept.advances orderly.canonical orderly.globFree advances) advances
  cases advances with
  | skip ready clean => exact rehearsed.skip orderly free supplied steady ready clean rfl rfl rfl
  | launch called external _ =>
      exact rehearsed.launch orderly free supplied steady called external rfl rfl rfl rfl
  | perform called internal done =>
      exact rehearsed.perform orderly free supplied steady called internal done rfl rfl rfl
  | work works => exact rehearsed.work orderly redirects works steady
  | @succeed id node finished executing =>
      obtain ⟨rfl, _, _⟩ := rehearsed.assigned id _ finished
      exact rehearsed.succeed orderly steady finished rfl rfl rfl rfl rfl

theorem steps (rehearsed : Rehearsed registry order origin m) (orderly : registry.Orderly)
    (free : origin.LinkFree) (supplied : registry.Supplied order origin)
    (redirects : registry.OwnRedirects)
    (run : ReflTransGen (Moment.Advances registry .rehearsal) m next) :
    Rehearsed registry order origin next := by
  induction run with
  | refl => exact rehearsed
  | tail _ step ih => exact ih.step orderly free supplied redirects step

end Rehearsed

structure Finished (registry : Registry) (order : List NodeId) (origin : VirtualDisk)
    (m : Moment) : Prop extends Rehearsed registry order origin m where
  satisfied : ∀ id ∈ order, (m.states id).isSatisfied = true

namespace Finished

variable {registry : Registry} {order : List NodeId} {origin : VirtualDisk} {m other : Moment}
  {node : Artifact}

theorem skipped_or_succeeded (finished : Finished registry order origin m)
    (member : node.id ∈ order) :
    m.states node.id = .skipped ∨ m.states node.id = .succeeded := by
  have satisfied := finished.satisfied node.id member
  cases state : m.states node.id with
  | skipped => exact .inl rfl
  | succeeded => exact .inr rfl
  | unvisited | evaluating | executing | failed =>
      rw [state] at satisfied
      cases satisfied

theorem succeeded_of_called (finished : Finished registry order origin m)
    (called : m.verdicts.get? node.id = some true) : m.states node.id = .succeeded := by
  rcases finished.skipped_or_succeeded (finished.ruled _ _ called) with skipped | succeeded
  · rw [finished.skipped node.id skipped] at called
    cases called
  · exact succeeded

theorem succeeded_iff (finished : Finished registry order origin m)
    (found : registry.find? node.id = some node) (kind : node.kind ≠ .directory) :
    m.states node.id = .succeeded ↔ node.id ∈ order ∧ Stale registry origin node.id := by
  constructor
  · intro succeeded
    have called := finished.begun node.id (.inr succeeded)
    exact ⟨finished.ruled _ _ called, (finished.right node found kind true called).mp rfl⟩
  · rintro ⟨member, stale⟩
    rcases finished.skipped_or_succeeded member with skipped | succeeded
    · have clean := finished.skipped node.id skipped
      cases (finished.right node found kind false clean).mpr stale
    · exact succeeded

theorem outline_file (finished : Finished registry order origin m)
    (found : registry.find? node.id = some node) (kind : node.kind = .file) :
    m.states node.id = .succeeded ∧
        m.disk.outline? node.location = outcome node (origin.outline? node.location) ∨
      m.states node.id ≠ .succeeded ∧
        m.disk.outline? node.location = origin.outline? node.location := by
  by_cases succeeded : m.states node.id = .succeeded
  · exact .inl ⟨succeeded, finished.outcome node found kind succeeded⟩
  · refine .inr ⟨succeeded, outline?_eq (finished.spared node found kind ?_)⟩
    exact fun called => succeeded (finished.succeeded_of_called called)

theorem present_of_present (finished : Finished registry order origin m)
    (otherFinished : Finished registry order origin other) {loc : Location}
    (quiet : registry.Quiet loc) (absent : origin.bare? loc = none)
    (present : m.disk.bare? loc ≠ none) : other.disk.bare? loc ≠ none := by
  obtain ⟨node, base, found, called, bases, opens⟩ := finished.opened loc quiet absent present
  have there : other.disk.bare? base ≠ none := by
    by_cases kind : node.kind = .directory
    · rcases otherFinished.skipped_or_succeeded (finished.ruled _ _ called) with skipped | succeeded
      · -- The other run found the directory there.
        rcases bases with ⟨_, rfl⟩ | ⟨isFile, _⟩
        · exact otherFinished.passed node found kind skipped
        · rw [kind] at isFile
          cases isFile
      · exact otherFinished.based node base found bases succeeded
    · have succeeded := finished.succeeded_of_called called
      rw [finished.succeeded_iff found kind, ← otherFinished.succeeded_iff found kind] at succeeded
      exact otherFinished.based node base found bases succeeded
  exact opens.reached otherFinished.listed there

theorem outline_eq (finished : Finished registry order origin m)
    (otherFinished : Finished registry order origin other) (loc : Location) :
    m.disk.outline? loc = other.disk.outline? loc := by
  by_cases quiet : registry.Quiet loc
  · rcases finished.quiet loc quiet with same | ⟨absent, mtime, isDir⟩
    · rcases otherFinished.quiet loc quiet with otherSame | ⟨absent, mtime, isDir⟩
      · exact outline?_eq (same.trans otherSame.symm)
      · have present : other.disk.bare? loc ≠ none := by rw [isDir]; nofun
        refine absurd (same.trans absent) ?_
        exact otherFinished.present_of_present finished quiet absent present
    · have present : m.disk.bare? loc ≠ none := by rw [isDir]; nofun
      have there := finished.present_of_present otherFinished quiet absent present
      rcases otherFinished.quiet loc quiet with otherSame | ⟨_, otherMtime, otherDir⟩
      · exact absurd (otherSame.trans absent) there
      · rw [outline?, outline?, isDir, otherDir]
        rfl
  · obtain ⟨node, found, kind, rfl⟩ : ∃ node, registry.find? node.id = some node ∧
        node.kind = .file ∧ node.location = loc := by
      unfold Registry.Quiet at quiet
      push Not at quiet
      exact quiet
    have isFile : node.kind ≠ .directory := by rw [kind]; nofun
    have both : m.states node.id = .succeeded ↔ other.states node.id = .succeeded := by
      rw [finished.succeeded_iff found isFile, otherFinished.succeeded_iff found isFile]
    rcases finished.outline_file found kind with ⟨succeeded, made⟩ | ⟨passed, kept⟩
    · rcases otherFinished.outline_file found kind with ⟨_, otherMade⟩ | ⟨otherPassed, _⟩
      · rw [made, otherMade]
      · exact absurd (both.mp succeeded) otherPassed
    · rcases otherFinished.outline_file found kind with ⟨otherSucceeded, _⟩ | ⟨_, otherKept⟩
      · exact absurd (both.mpr otherSucceeded) passed
      · rw [kept, otherKept]

end Finished

section Agreement

variable {W V : Type} [Disk W] [Mounted W] [Disk V] [Mounted V] {registry : Registry}

theorem run_finished (orderly : registry.Orderly) (redirects : registry.OwnRedirects)
    {staff : Staff W V} (follows : staff.Follows .rehearsal) {settings : RunSettings}
    (wet : settings.dryRun = false) {targets : List NodeId} {plan : Plan}
    (planned : Plan.make registry targets = .ok plan) {world : W}
    (free : (Mounted.disk world).LinkFree)
    (supplied : registry.Supplied plan.order (Mounted.disk world)) {report : Report}
    (completed : (run staff registry settings targets world).outcome = .completed report) :
    ∃ last, Finished registry plan.order (Mounted.disk world) last ∧
      last.disk = Mounted.disk (run staff registry settings targets world).session.world ∧
      report.executed = last.executed := by
  have sound := Plan.make_sound orderly.canonical planned
  have kept : ∀ m next, Steady registry plan.order (Mounted.disk world) m →
      Moment.Next registry .rehearsal m next →
        Steady registry plan.order (Mounted.disk world) next :=
    fun m next steady step => steady.step orderly redirects step
  have answered : ∀ m, Steady registry plan.order (Mounted.disk world) m →
      Moment.Answered registry m :=
    fun m steady => steady.toKept.answered orderly (steady.supplied orderly free supplied)
  obtain ⟨last, reaches⟩ :=
    run_reaches orderly follows wet planned world kept answered (Steady.start sound free)
  obtain ⟨advances, executed, satisfied⟩ := reaches.completed report completed
  have rehearsed :=
    (Rehearsed.start sound free).steps orderly free supplied redirects advances
  exact ⟨last, ⟨rehearsed, satisfied⟩, reaches.disk, executed⟩

end Agreement

end Run

def Registry.filesAndPhonies (registry : Registry) (ids : List NodeId) : List NodeId :=
  ids.filter fun id => (registry.find? id).any fun node => node.kind != .directory

theorem Registry.mem_filesAndPhonies {registry : Registry} {ids : List NodeId} {id : NodeId} :
    id ∈ registry.filesAndPhonies ids ↔
      id ∈ ids ∧ ∃ node, registry.find? node.id = some node ∧ node.id = id ∧
        node.kind ≠ .directory := by
  rw [filesAndPhonies, List.mem_filter, Option.any_eq_true]
  refine and_congr_right fun _ => ?_
  constructor
  · rintro ⟨node, found, kind⟩
    exact ⟨node, find?_self found, id_of_find? found, by simpa using kind⟩
  · rintro ⟨node, found, rfl, kind⟩
    exact ⟨node, found, by simpa using kind⟩

namespace Run

open VirtualDisk Freshness

section Agreement

variable {W V W' V' : Type} [Disk W] [Mounted W] [Disk V] [Mounted V] [Disk W'] [Mounted W']
  [Disk V'] [Mounted V'] {registry : Registry}

theorem Finished.mem_executed {order : List NodeId} {origin : VirtualDisk} {last : Moment}
    (finished : Finished registry order origin last) (id : NodeId) :
    id ∈ registry.filesAndPhonies last.executed ↔
      id ∈ registry.filesAndPhonies order ∧ Stale registry origin id := by
  rw [Registry.mem_filesAndPhonies, Registry.mem_filesAndPhonies]
  constructor
  · rintro ⟨executed, node, found, rfl, kind⟩
    rw [finished.executed, finished.succeeded_iff found kind] at executed
    exact ⟨⟨executed.1, node, found, rfl, kind⟩, executed.2⟩
  · rintro ⟨⟨member, node, found, rfl, kind⟩, stale⟩
    refine ⟨?_, node, found, rfl, kind⟩
    rw [finished.executed, finished.succeeded_iff found kind]
    exact ⟨member, stale⟩

/-- Runs agree that begin with the same files and are completed, whoever carries the tasks out, as
many at a time and in whatever order he likes: they execute the same files and phonies and leave
the same things behind. -/
theorem completed_runs_agree (orderly : registry.Orderly) (redirects : registry.OwnRedirects)
    {staff : Staff W V} (follows : staff.Follows .rehearsal) {other : Staff W' V'}
    (otherFollows : other.Follows .rehearsal) {settings otherSettings : RunSettings}
    (wet : settings.dryRun = false) (otherWet : otherSettings.dryRun = false)
    {targets : List NodeId} {plan : Plan} (planned : Plan.make registry targets = .ok plan)
    {world : W} {otherWorld : W'} (same : Mounted.disk otherWorld = Mounted.disk world)
    (free : (Mounted.disk world).LinkFree)
    (supplied : registry.Supplied plan.order (Mounted.disk world)) {report otherReport : Report}
    (completed : (run staff registry settings targets world).outcome = .completed report)
    (otherCompleted : (run other registry otherSettings targets otherWorld).outcome =
      .completed otherReport) :
    (∀ id, id ∈ registry.filesAndPhonies report.executed ↔
      id ∈ registry.filesAndPhonies otherReport.executed) ∧
    ∀ loc, (Mounted.disk (run staff registry settings targets world).session.world).outline? loc =
      (Mounted.disk (run other registry otherSettings targets otherWorld).session.world).outline?
        loc := by
  obtain ⟨last, finished, disk, executed⟩ :=
    run_finished orderly redirects follows wet planned free supplied completed
  obtain ⟨otherLast, otherFinished, otherDisk, otherExecuted⟩ :=
    run_finished orderly redirects otherFollows otherWet planned (same ▸ free) (same ▸ supplied)
      otherCompleted
  rw [same] at otherFinished
  -- What a finished run has executed, and what it leaves, depend on the disk it began with only.
  refine ⟨?_, ?_⟩
  · intro id
    rw [executed, otherExecuted, finished.mem_executed, otherFinished.mem_executed]
  · intro loc
    rw [← disk, ← otherDisk]
    exact finished.outline_eq otherFinished loc

def shelf : Registry where
  nodes := [
    .directory "out",
    (Artifact.file "out/a" (.run [⟨"make", ["a"], ⟨[]⟩, none, none⟩])).dependsOnAll ["out", "in"],
    (Artifact.file "out/b" (.run [⟨"make", ["b"], ⟨[]⟩, none, none⟩])).dependsOnAll ["out", "in"],
    (Artifact.phony "all" .none).dependsOnAll ["out/a", "out/b"]]

def shelfPlan : Plan where
  order := ["out", "out/a", "out/b", "all"]
  deps := [("all", ["out/a", "out/b"]), ("out/b", ["out"]), ("out/a", ["out"]), ("out", [])]
  states := ⟨[("all", .evaluating), ("out/a", .evaluating), ("out", .evaluating),
    ("out/b", .evaluating)]⟩

def stocked : Rehearsal.Stage where
  disk := VirtualDisk.new.write ⟨"in"⟩ []

theorem shelf_orderly : shelf.Orderly where
  ids := by decide
  prerequisites := by decide
  globFree := by decide
  unlinked := by decide
  apart := by decide

theorem shelf_ownRedirects : shelf.OwnRedirects := by
  intro node member command commanded redirect redirected
  have unredirected : ∀ node ∈ shelf.nodes, ∀ command ∈ commandsOf node.action,
      command.stdout = none := by decide
  rw [unredirected node member command commanded] at redirected
  cases redirected

theorem shelf_supplied : shelf.Supplied shelfPlan.order (Mounted.disk stocked) := by
  intro node found _ _ dep needed missing
  have listed : ∀ node ∈ shelf.nodes, ∀ dep ∈ node.nodePrerequisites,
      dep = "in" ∨ shelf.contains dep = true := by decide
  rcases listed node (Registry.mem_of_find? found) dep needed with rfl | contained
  · decide
  · rw [missing] at contained
    cases contained

theorem stocked_linkFree : (Mounted.disk stocked).LinkFree :=
  linkFree_write linkFree_new _ _

theorem completed_runs_agree_shelf :
    (run (Rehearsal.worker []).staff shelf {} ["all"] stocked).outcome =
        .completed ⟨["out", "out/a", "out/b", "all"], []⟩ ∧
      (run (Rehearsal.worker []).staff shelf { jobs := 2 } ["all"] stocked).outcome =
        .completed ⟨["out", "out/a", "out/b", "all"], []⟩ ∧
      ∀ loc,
        (Mounted.disk (run (Rehearsal.worker []).staff shelf {} ["all"] stocked).session.world).outline?
            loc =
          (Mounted.disk (run (Rehearsal.worker []).staff shelf { jobs := 2 } ["all"]
            stocked).session.world).outline? loc := by
  have planned : Plan.make shelf ["all"] = .ok shelfPlan := by rfl
  have alone : (run (Rehearsal.worker []).staff shelf {} ["all"] stocked).outcome =
      .completed ⟨["out", "out/a", "out/b", "all"], []⟩ := by decide +kernel
  have sideBySide : (run (Rehearsal.worker []).staff shelf { jobs := 2 } ["all"] stocked).outcome =
      .completed ⟨["out", "out/a", "out/b", "all"], []⟩ := by
    unfold run
    rw [planned]
    exact Coordinator.inParallel_of_advance 7 (by decide +kernel)
  exact ⟨alone, sideBySide,
    (completed_runs_agree shelf_orderly shelf_ownRedirects Rehearsal.staff_follows
      Rehearsal.staff_follows rfl rfl planned rfl stocked_linkFree shelf_supplied alone
      sideBySide).2⟩

end Agreement

section Sequence
variable {W : Type} [Disk W] {registry : Registry}

theorem inSequence_executed {executor : Executor W} {order : List NodeId} {session : Session W}
    {report : Report}
    (completed : (inSequence registry executor order session).1 = .completed report) :
    ∃ more, report.executed = session.report.executed ++ more ∧ more.Sublist order := by
  induction order generalizing session with
  | nil =>
      cases completed
      exact ⟨[], by simp, .slnil⟩
  | cons id rest ih =>
      obtain ⟨next, continues, onward⟩ := continues_of_completed completed
      rw [onward] at completed
      obtain ⟨more, executed, sublist⟩ := ih completed
      cases continues with
      | skipped => exact ⟨more, executed, sublist.cons id⟩
      | executed attempt =>
          refine ⟨id :: more, ?_, sublist.cons_cons id⟩
          rw [executed, Session.reportExecuted, List.append_assoc, attempt.report]
          rfl

end Sequence

section DryRun

variable {W V : Type} [Disk W] [Mounted W] [Disk V] [Mounted V] {registry : Registry}

open Classical in
theorem previewAll_executed (orderly : registry.Orderly) {order : List NodeId}
    (ordered : Plan.Ordered registry order) {world : W}
    (supplied : registry.Supplied order (Mounted.disk world)) {rest : List NodeId}
    (members : ∀ id ∈ rest, id ∈ order) {preview : Preview}
    (right : preview.verdicts.Right registry (Mounted.disk world)) :
    (previewAll registry world rest preview).1 = .ok () ∧
      (previewAll registry world rest preview).2.report.executed =
        preview.report.executed ++
          rest.filter fun id => decide (Stale registry (Mounted.disk world) id) := by
  induction rest generalizing preview with
  | nil => simp [previewAll]
  | cons id rest ih =>
      have member := members id (by simp)
      obtain ⟨node, found, rfl⟩ := ordered.registered member
      have resolved := Registry.resolve_of_find? (orderly.canonical.found found) found
      obtain ⟨after, answer, stillRight⟩ :=
        isDirty_planned orderly.canonical orderly.globFree ordered supplied member right
      rw [← isDirty_mounted orderly.globFree] at answer
      unfold previewAll
      rw [resolved]
      dsimp only
      rw [answer]
      dsimp only
      have later : ∀ preview : Preview, preview.verdicts = after →
          (previewAll registry world rest preview).1 = .ok () ∧
            (previewAll registry world rest preview).2.report.executed =
              preview.report.executed ++
                rest.filter fun id => decide (Stale registry (Mounted.disk world) id) := by
        intro preview verdicts
        exact ih (fun other listed => members other (by simp [listed])) (verdicts ▸ stillRight)
      by_cases stale : Stale registry (Mounted.disk world) node.id
      · obtain ⟨fine, executed⟩ := later
          (previewNode { preview with verdicts := after } node node.id true) rfl
        rw [decide_eq_true stale]
        refine ⟨fine, executed.trans ?_⟩
        simp [previewNode, stale]
      · obtain ⟨fine, executed⟩ := later
          (previewNode { preview with verdicts := after } node node.id false) rfl
        rw [decide_eq_false stale]
        refine ⟨fine, executed.trans ?_⟩
        simp [previewNode, stale]

theorem eq_filter_of_sublist {ids order : List NodeId} {p : NodeId → Bool}
    (sublist : ids.Sublist order) (distinct : order.Nodup)
    (members : ∀ id, id ∈ ids ↔ id ∈ order ∧ p id = true) : ids = order.filter p := by
  have all : ids.filter p = ids := by
    rw [List.filter_eq_self]
    exact fun id member => ((members id).mp member).2
  have inside : ids.Sublist (order.filter p) := all ▸ sublist.filter p
  refine inside.eq_of_length_le ?_
  refine (List.Nodup.subperm (distinct.filter p) ?_).length_le
  intro id member
  exact (members id).mpr (List.mem_filter.mp member)

/-- A dry run foretells the sequential run: when the latter is completed, so is the former, and
says in order which files and phonies are executed. -/
theorem dry_run_foretells (orderly : registry.Orderly) (redirects : registry.OwnRedirects)
    {staff : Staff W V} (follows : staff.Follows .rehearsal) {settings : RunSettings}
    (wet : settings.dryRun = false) (alone : settings.jobs ≤ 1) {targets : List NodeId}
    {plan : Plan} (planned : Plan.make registry targets = .ok plan) {world : W}
    (free : (Mounted.disk world).LinkFree)
    (supplied : registry.Supplied plan.order (Mounted.disk world)) {report : Report}
    (completed : (run staff registry settings targets world).outcome = .completed report) :
    ∃ foretold,
      (run staff registry { settings with dryRun := true } targets world).outcome =
        .completed foretold ∧
      registry.filesAndPhonies foretold.executed = registry.filesAndPhonies report.executed := by
  classical
  have sound := Plan.make_sound orderly.canonical planned
  obtain ⟨last, finished, _, executed⟩ :=
    run_finished orderly redirects follows wet planned free supplied completed
  have inOrder : report.executed.Sublist plan.order := by
    unfold run carryOut at completed
    rw [planned, wet] at completed
    simp only [Bool.false_eq_true, if_false, if_pos alone] at completed
    obtain ⟨more, all, sublist⟩ := inSequence_executed completed
    rw [all]
    exact sublist
  have begun : (Preview.start plan.order.length).verdicts.Right registry (Mounted.disk world) :=
    Verdicts.right_none registry _
  obtain ⟨fine, foretold⟩ :=
    previewAll_executed orderly sound.ordered supplied (fun _ listed => listed) begun
  refine ⟨(dryRun registry plan world).2.report, ?_, ?_⟩
  · unfold run
    rw [planned]
    show (preview registry plan world).outcome = _
    unfold preview
    have ended : (dryRun registry plan world).1 = .ok () := fine
    dsimp only
    rw [ended]
  · rw [show (dryRun registry plan world).2.report.executed = _ from foretold]
    -- Both lists go through the plan in order, and have the same members.
    have distinct : (registry.filesAndPhonies plan.order).Nodup := sound.nodup.filter _
    have sublist : (registry.filesAndPhonies report.executed).Sublist
        (registry.filesAndPhonies plan.order) := inOrder.filter _
    have members := finished.mem_executed
    rw [← executed] at members
    rw [eq_filter_of_sublist sublist distinct
      (fun id => (members id).trans (and_congr_right fun _ => decide_eq_true_iff.symm))]
    simp only [Registry.filesAndPhonies, Preview.start, Report.empty, List.nil_append,
      List.filter_filter]
    exact List.filter_congr fun id _ => Bool.and_comm _ _

theorem dry_run_foretells_shelf :
    (run (Rehearsal.worker []).staff shelf {} ["all"] stocked).outcome =
        .completed ⟨["out", "out/a", "out/b", "all"], []⟩ ∧
      ∃ foretold,
        (run (Rehearsal.worker []).staff shelf { dryRun := true } ["all"] stocked).outcome =
          .completed foretold ∧
        shelf.filesAndPhonies foretold.executed = ["out/a", "out/b", "all"] := by
  have planned : Plan.make shelf ["all"] = .ok shelfPlan := by rfl
  have completed : (run (Rehearsal.worker []).staff shelf {} ["all"] stocked).outcome =
      .completed ⟨["out", "out/a", "out/b", "all"], []⟩ := by decide +kernel
  obtain ⟨foretold, dry, same⟩ := dry_run_foretells shelf_orderly shelf_ownRedirects
    Rehearsal.staff_follows rfl (by decide) planned stocked_linkFree shelf_supplied completed
  refine ⟨completed, foretold, dry, same.trans ?_⟩
  decide

end DryRun

end Run

end ArtifactPipeline
