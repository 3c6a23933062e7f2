import ArtifactPipeline.Proofs.Dirtiness
import ArtifactPipeline.Proofs.FailureDrain
import ArtifactPipeline.Proofs.Inquiry

set_option autoImplicit false

namespace ArtifactPipeline

open Function Relation

class Listing (W : Type) [Disk W] [Mounted W] : Prop where
  isFile_eq : ∀ (world : W) path, Disk.isFile world path = Disk.isFile (Mounted.disk world) path
  readDir_eq : ∀ (world : W) path, Disk.readDir world path = Disk.readDir (Mounted.disk world) path
  extent_eq : ∀ world : W, Disk.extent world = Disk.extent (Mounted.disk world)

namespace Listing

instance : Listing VirtualDisk where
  isFile_eq _ _ := rfl
  readDir_eq _ _ := rfl
  extent_eq _ := rfl

instance {W κ : Type} [Disk W] [Mounted W] [Listing W] : Listing (Pool W κ) where
  isFile_eq pool path := isFile_eq pool.world path
  readDir_eq pool path := readDir_eq pool.world path
  extent_eq pool := extent_eq pool.world

variable {W : Type} [Disk W] [Mounted W] [Listing W]

theorem collect_eq (world : W) (tokens : List Glob.Token) (fuel : Nat) (walk : Glob.Walk) :
    Glob.collect world tokens fuel walk = Glob.collect (Mounted.disk world) tokens fuel walk := by
  have looked : Glob.lookAt world tokens = Glob.lookAt (Mounted.disk world) tokens := by
    funext walk path
    simp only [Glob.lookAt, Mounted.isDir_eq world, Mounted.isLink_eq world, isFile_eq world]
  induction fuel generalizing walk with
  | zero => rfl
  | succ fuel ih => simp only [Glob.collect, readDir_eq world, looked, ih]

theorem expand_eq (world : W) (pattern : String) :
    Glob.expand world pattern = Glob.expand (Mounted.disk world) pattern := by
  simp only [Glob.expand, Mounted.isDir_eq world, extent_eq world, collect_eq world]

end Listing

namespace Inquiry

open Freshness

section Listing

variable {W : Type} [Disk W] [Mounted W] [Listing W]

theorem ofPrerequisites_listing (registry : Registry) (world : W) (node : Artifact)
    (own : Option Nat) (dirty : Bool) (prerequisites : List Prerequisite) :
    ofPrerequisites registry world node own dirty prerequisites =
      ofPrerequisites registry (Mounted.disk world) node own dirty prerequisites := by
  have sameMatches (go : Bool → Inquiry) (paths : List Path) (dirty : Bool) :
      ofMatches world own go dirty paths =
        ofMatches (Mounted.disk world) own go dirty paths := by
    induction paths generalizing dirty with
    | nil => rfl
    | cons path rest ih => simp only [ofMatches, modified_mounted world, ih]
  induction prerequisites generalizing dirty with
  | nil => rfl
  | cons prerequisite rest ih =>
      cases prerequisite with
      | node id =>
          simp only [ofPrerequisites, ofPrerequisite, sourceIsNewer, modified_mounted world,
            Mounted.isDir_eq world, ih]
      | glob pattern => simp only [ofPrerequisites, Listing.expand_eq world, sameMatches, ih]

theorem ofNode_listing (registry : Registry) (world : W) (node : Artifact) :
    ofNode registry world node = ofNode registry (Mounted.disk world) node := by
  simp only [ofNode, modified_mounted world, Mounted.isDir_eq world,
    ofPrerequisites_listing registry world]

end Listing

end Inquiry

namespace Freshness

section Listing

variable {W : Type} [Disk W] [Mounted W] [Listing W]

theorem ruling_listing (registry : Registry) (world : W) (depth : Nat) :
    ruling registry world depth = ruling registry (Mounted.disk world) depth := by
  induction depth with
  | zero =>
      funext underway verdicts node
      simp only [ruling]
  | succ depth ih =>
      funext underway verdicts node
      simp only [ruling, ← Inquiry.follow_ofNode, Inquiry.ofNode_listing registry world, ih]

theorem isDirty_listing (registry : Registry) (world : W) (verdicts : Verdicts) (id : String) :
    isDirty registry world verdicts id = isDirty registry (Mounted.disk world) verdicts id := by
  simp only [isDirty, ruling_listing registry world]

end Listing

end Freshness

namespace Inquiry

open Freshness

/-- Whatever the answers are, the inquiry ends with a failure for this reason. -/
def Fails (reason : Failure → Prop) : Inquiry → Prop
  | settled (.ok _) => False
  | settled (.error failure) => reason failure
  | noting _ rest => rest.Fails reason
  | asking _ rest => ∀ dirty, (rest dirty).Fails reason

section Fails

variable {registry : Registry} {disk : VirtualDisk} {node : Artifact} {own : Option Nat}
  {reason : Failure → Prop}

theorem fails_ofPrerequisite {id : NodeId} {go : Bool → Inquiry}
    (missing : registry.get? id = none → disk.mtimeOf ⟨id⟩ = none →
      reason (.missingPrerequisite node.id (NodeId.canonical id)))
    (later : ∀ now, (go now).Fails reason) :
    (ofPrerequisite registry disk node own id go).Fails reason := by
  unfold ofPrerequisite
  split
  · rename_i unregistered
    rw [sourceIsNewer, modified_eq]
    cases time : disk.mtimeOf ⟨id⟩ with
    | none => exact missing unregistered time
    | some mtime => exact later _
  · intro dirty
    dsimp only
    split
    · exact later _
    · exact later _
    · split_ifs
      · exact later _
      · exact later _

theorem fails_ofMatches {go : Bool → Inquiry} (later : ∀ dirty, (go dirty).Fails reason)
    (paths : List Path) (dirty : Bool) : (ofMatches disk own go dirty paths).Fails reason := by
  induction paths generalizing dirty with
  | nil => exact later dirty
  | cons path rest ih =>
      rw [ofMatches, modified_eq]
      dsimp only
      split_ifs
      · exact ih true
      · exact ih dirty

theorem fails_ofPrerequisites {front back : List Prerequisite} {dep : NodeId}
    (compiled : ∀ pattern, .glob pattern ∈ front → ∃ tokens, Glob.compile pattern = .ok tokens)
    (unregistered : registry.get? dep = none) (missing : disk.mtimeOf ⟨dep⟩ = none)
    (named : ∀ id, .node id ∈ front ++ [.node dep] → registry.get? id = none →
      disk.mtimeOf ⟨id⟩ = none → reason (.missingPrerequisite node.id (NodeId.canonical id)))
    (dirty : Bool) :
    (ofPrerequisites registry disk node own dirty (front ++ .node dep :: back)).Fails reason := by
  induction front generalizing dirty with
  | nil =>
      rw [List.nil_append, ofPrerequisites, ofPrerequisite, unregistered]
      simp only [sourceIsNewer, modified_eq, missing]
      exact named dep (by simp) unregistered missing
  | cons prerequisite front ih =>
      have later := ih (fun pattern member => compiled pattern (List.mem_cons_of_mem _ member))
        (fun id member => named id (List.mem_cons_of_mem _ member))
      cases prerequisite with
      | node id => exact fails_ofPrerequisite (named id (by simp)) fun now => later _
      | glob pattern =>
          obtain ⟨tokens, fine⟩ := compiled pattern (by simp)
          obtain ⟨paths, expanded⟩ : ∃ paths, Glob.expand disk pattern = .ok paths :=
            expand_ok fine
          rw [List.cons_append, ofPrerequisites, expanded]
          exact fails_ofMatches later paths dirty

end Fails

theorem follow_fails {W : Type} [Disk W] (registry : Registry) (disk : W) (depth : Nat)
    (underway : List NodeId) (user : Artifact) {reason : Failure → Prop} {inquiry : Inquiry}
    (fails : inquiry.Fails reason) {verdicts : Verdicts}
    (known : inquiry.All fun next => (verdicts.get? next.id).isSome = true) :
    ∃ failure, reason failure ∧
      (inquiry.follow (ruling registry disk depth underway) (noteFor user) verdicts).1 =
        .error failure := by
  induction inquiry generalizing verdicts with
  | settled answer =>
      cases answer with
      | ok dirty => exact fails.elim
      | error failure => exact ⟨failure, fails, rfl⟩
  | noting path rest ih =>
      have noted : rest.All fun next =>
          ((noteFor user path verdicts).get? next.id).isSome = true := known
      exact ih fails noted
  | asking next rest ih =>
      obtain ⟨dirty, decided⟩ := Option.isSome_iff_exists.mp known.1
      rw [follow, ruling_remembered decided]
      exact ih dirty (fails dirty) (known.2 dirty)

end Inquiry

namespace Freshness

theorem isDirty_entered {W : Type} [Disk W] {registry : Registry} (canonical : registry.Canonical)
    {node : Artifact} (found : registry.find? node.id = some node) {verdicts : Verdicts}
    (undecided : verdicts.get? node.id = none) (disk : W) :
    ∃ depth, isDirty registry disk verdicts node.id =
      match (Inquiry.ofNode registry disk node).follow (ruling registry disk depth [node.id])
          (Inquiry.noteFor node) verdicts with
      | (.error failure, verdicts) => (.error failure, verdicts)
      | (.ok dirty, verdicts) => (.ok dirty, verdicts.record node.id dirty) := by
  have several : 0 < registry.size := List.length_pos_of_mem (Registry.mem_of_find? found)
  obtain ⟨depth, size⟩ := Nat.exists_eq_add_one_of_ne_zero several.ne'
  refine ⟨depth, ?_⟩
  rw [isDirty, Registry.resolve_of_find? (canonical.found found) found, size]
  exact ruling_entered undecided List.not_mem_nil

end Freshness

namespace Run

structure Due (registry : Registry) (states : NodeId → NodeState) (node : Artifact) : Prop where
  found : registry.find? node.id = some node
  waiting : states node.id = .evaluating
  supported : ∀ dep ∈ node.nodePrerequisites, registry.contains dep = true →
    (states dep).isSatisfied = true

/-- The oracle has been asked about the nodes that do not wait any more, and about no others. -/
structure Heard (states : NodeId → NodeState) (verdicts : Verdicts) : Prop where
  waiting : ∀ id, states id = .evaluating → verdicts.get? id = none
  begun : ∀ id, (states id).isBegun = true → (verdicts.get? id).isSome = true

theorem heard_start {registry : Registry} {plan : Plan} (sound : plan.Sound registry) :
    Heard plan.states.get .none where
  waiting _ _ := rfl
  begun id begun := by
    rw [sound.isBegun_get id] at begun
    cases begun

section Heard

variable {W : Type} [Disk W] {registry : Registry} {states : NodeId → NodeState}
  {verdicts after : Verdicts} {node : Artifact}

theorem Heard.known (heard : Heard states verdicts) (canonical : registry.Canonical)
    (due : Due registry states node) (disk : W) :
    (Inquiry.ofNode registry disk node).All
      fun next => (verdicts.get? next.id).isSome = true := by
  refine Inquiry.all_ofNode fun id needed next known => ?_
  have listed := Freshness.mem_nodePrerequisites.mpr needed
  have spelled := canonical.prerequisites node (Registry.mem_of_find? due.found) id listed
  rw [Registry.get?_eq_find? spelled] at known
  have satisfied := due.supported id listed ((Registry.contains_iff spelled).mpr ⟨next, known⟩)
  rw [Registry.id_of_find? known]
  exact heard.begun id (NodeState.isBegun_of_isSatisfied satisfied)

theorem Heard.asked (heard : Heard states verdicts) (canonical : registry.Canonical)
    (due : Due registry states node) (disk : W) :
    match Freshness.isDirty registry disk verdicts node.id with
    | (.ok dirty, after) => ∀ id, after.get? id = (verdicts.record node.id dirty).get? id
    | (.error _, after) => ∀ id, after.get? id = verdicts.get? id := by
  obtain ⟨depth, entered⟩ :=
    Freshness.isDirty_entered canonical due.found (heard.waiting _ due.waiting) disk
  have kept := Inquiry.follow_remembered registry disk depth [node.id] node
    (heard.known canonical due disk)
  rw [entered]
  generalize (Inquiry.ofNode registry disk node).follow _ _ verdicts = followed at kept ⊢
  obtain ⟨failure | dirty, after⟩ := followed
  · exact kept
  · intro id
    rw [Verdicts.get?_record, Verdicts.get?_record, ← kept id]

theorem Heard.answered (heard : Heard states verdicts) (canonical : registry.Canonical)
    (due : Due registry states node) {disk : W} {dirty : Bool}
    (answer : Freshness.isDirty registry disk verdicts node.id = (.ok dirty, after))
    (state : NodeState) (begun : state.isBegun = true) :
    Heard (update states node.id state) after := by
  have recorded := heard.asked canonical due disk
  rw [answer] at recorded
  constructor
  · intro id waiting
    rw [update_apply] at waiting
    rw [recorded, Verdicts.get?_record]
    split_ifs at waiting with same
    · rw [waiting] at begun
      cases begun
    · rw [heard.waiting id waiting, if_neg same]
      rfl
  · intro id begunLater
    rw [recorded, Verdicts.get?_record]
    by_cases same : id = node.id
    · simp [same]
    · rw [update_of_ne same] at begunLater
      obtain ⟨known, decided⟩ := Option.isSome_iff_exists.mp (heard.begun id begunLater)
      simp [decided]

theorem Heard.unanswered (heard : Heard states verdicts) (canonical : registry.Canonical)
    (due : Due registry states node) {disk : W} {failure : Failure}
    (answer : Freshness.isDirty registry disk verdicts node.id = (.error failure, after)) :
    Heard states after := by
  have kept := heard.asked canonical due disk
  rw [answer] at kept
  exact ⟨fun id waiting => by rw [kept, heard.waiting id waiting],
    fun id begun => by rw [kept]; exact heard.begun id begun⟩

theorem Heard.moved (heard : Heard states verdicts) {id : NodeId}
    (before : (states id).isBegun = true) (state : NodeState) (begun : state.isBegun = true) :
    Heard (update states id state) verdicts where
  waiting other waiting := by
    rw [update_apply] at waiting
    split_ifs at waiting
    · rw [waiting] at begun
      cases begun
    · exact heard.waiting other waiting
  begun other begunLater := by
    by_cases same : other = id
    · rw [same]
      exact heard.begun id before
    · rw [update_of_ne same] at begunLater
      exact heard.begun other begunLater

end Heard

structure Lacks (registry : Registry) (disk : VirtualDisk) (node : Artifact) (dep : NodeId) :
    Prop where
  needed : dep ∈ node.nodePrerequisites
  unregistered : registry.contains dep = false
  missing : disk.present ⟨dep⟩ = false

section Sources

variable {W : Type} [Disk W] [Mounted W] [Listing W] {registry : Registry}
  {states : NodeId → NodeState} {verdicts after : Verdicts} {node : Artifact}

theorem Heard.not_lacks (heard : Heard states verdicts) (canonical : registry.Canonical)
    (due : Due registry states node) (kind : node.kind = .file) {world : W} {dirty : Bool}
    (answer : Freshness.isDirty registry world verdicts node.id = (.ok dirty, after))
    (dep : NodeId) : ¬Lacks registry (Mounted.disk world) node dep := by
  intro lacks
  rw [Freshness.isDirty_listing] at answer
  have present := Freshness.present_of_isDirty canonical due.found (heard.waiting _ due.waiting)
    answer kind lacks.needed lacks.unregistered
  rw [lacks.missing] at present
  cases present

theorem Heard.lacking (heard : Heard states verdicts) (canonical : registry.Canonical)
    (due : Due registry states node) (kind : node.kind = .file) {world : W}
    {front back : List Prerequisite} {dep : NodeId}
    (split : node.prerequisites = front ++ .node dep :: back)
    (compiled : ∀ pattern, .glob pattern ∈ front → ∃ tokens, Glob.compile pattern = .ok tokens)
    (lacks : Lacks registry (Mounted.disk world) node dep) :
    ∃ source, Lacks registry (Mounted.disk world) node source ∧
      (Freshness.isDirty registry world verdicts node.id).1 =
        .error (.missingPrerequisite node.id source) := by
  have unregistered {id : NodeId} : registry.get? id = none ↔ registry.contains id = false := by
    simp [Registry.contains]
  have missing {id : NodeId} : (Mounted.disk world).mtimeOf ⟨id⟩ = none ↔
      (Mounted.disk world).present ⟨id⟩ = false := by
    simp [VirtualDisk.present]
  -- The walk over the prerequisites ends at the first missing source, whatever it asks before.
  have fails : (Inquiry.ofNode registry (Mounted.disk world) node).Fails fun failure =>
      ∃ source, Lacks registry (Mounted.disk world) node source ∧
        failure = .missingPrerequisite node.id source := by
    simp only [Inquiry.ofNode, kind, Freshness.modified_eq, split]
    refine Inquiry.fails_ofPrerequisites compiled (unregistered.mpr lacks.unregistered)
      (missing.mpr lacks.missing) (fun id earlier unknown absent => ?_) _
    have needed : id ∈ node.nodePrerequisites := by
      rw [Freshness.mem_nodePrerequisites, split, List.append_cons]
      exact List.mem_append_left _ earlier
    refine ⟨id, ⟨needed, unregistered.mp unknown, missing.mp absent⟩, ?_⟩
    rw [canonical.prerequisites node (Registry.mem_of_find? due.found) id needed]
  obtain ⟨depth, entered⟩ := Freshness.isDirty_entered canonical due.found
    (heard.waiting _ due.waiting) (Mounted.disk world)
  obtain ⟨failure, ⟨source, lacking, rfl⟩, failed⟩ := Inquiry.follow_fails registry
    (Mounted.disk world) depth [node.id] node fails (heard.known canonical due (Mounted.disk world))
  refine ⟨source, lacking, ?_⟩
  rw [Freshness.isDirty_listing, entered]
  generalize (Inquiry.ofNode registry (Mounted.disk world) node).follow _ _ verdicts = followed
    at failed ⊢
  obtain ⟨answer, after⟩ := followed
  cases failed
  rfl

end Sources

namespace Coordinator

variable {V : Type} [Disk V] {registry : Registry} {plan : Plan} {jobs : Nat} {crew : Crew V}
  {c next : Coordinator V} {node : Artifact} {id : NodeId} {rest : List NodeId}

theorem Chosen.due (chosen : Chosen registry plan jobs c node id rest)
    (lists : Lists plan c c.session.states.get) (canonical : registry.Canonical)
    (sound : plan.Sound registry) : id = node.id ∧ Due registry c.session.states.get node := by
  obtain ⟨same, found, waiting, supported⟩ := lists.chosen canonical sound chosen
  exact ⟨same, found, waiting, supported⟩

theorem heard_of_step (heard : Heard c.session.states.get c.session.verdicts)
    (lists : Lists plan c c.session.states.get) (canonical : registry.Canonical)
    (sound : plan.Sound registry) (stepped : c.step registry plan jobs crew = .going next) :
    Heard next.session.states.get next.session.verdicts := by
  generalize going : Progress.going next = progress at stepped
  have begins {node : Artifact} {id : NodeId} {rest : List NodeId} {verdicts : Verdicts}
      (opened : Opened registry plan jobs c node id rest verdicts) {state : NodeState}
      (begun : state.isBegun = true) {states : NodeStates}
      (moved : states.get = update c.session.states.get id state) : Heard states.get verdicts := by
    obtain ⟨rfl, due⟩ := opened.toChosen.due lists canonical sound
    rw [moved]
    exact heard.answered canonical due opened.answer state begun
  have ends {id : NodeId} (executing : c.session.states.get id = .executing) {state : NodeState}
      (begun : state.isBegun = true) :
      Heard (c.session.states.set id state).get c.session.verdicts := by
    rw [NodeStates.get_set_eq_update]
    exact heard.moved (by rw [executing]; rfl) state begun
  cases turn_of_step stepped with
  | passOver | crash =>
      cases going
      exact heard
  | skip chosen answer =>
      cases going
      obtain ⟨rfl, due⟩ := chosen.due lists canonical sound
      have after := heard.answered canonical due answer .skipped rfl
      rwa [← NodeStates.get_set_eq_update] at after
  | puzzle chosen answer =>
      cases going
      obtain ⟨rfl, due⟩ := chosen.due lists canonical sound
      exact heard.unanswered canonical due answer
  | launch opened =>
      cases going
      exact begins opened rfl (NodeStates.get_set_eq_update ..)
  | perform opened =>
      cases going
      exact begins opened rfl (NodeStates.get_set_set ..)
  | spoil opened =>
      cases going
      exact begins opened rfl (NodeStates.get_set_set ..)
  | succeed joined result =>
      cases going
      exact ends (joined.executing (by simp [result])) rfl
  | failure joined _ result cleaned =>
      cases going
      rw [cleaned]
      split <;> exact ends (joined.executing (by simp [result])) rfl
  | finish => exact absurd going.symm finish_ne_going
  | breakDown => cases going
  | unprepared => cases going
  | stray => cases going

theorem waiting_of_step (stepped : c.step registry plan jobs crew = .going next) {id : NodeId}
    (waiting : c.session.states.get id = .evaluating) :
    next.session.states.get id = .evaluating ∨
      ∃ node rest, Chosen registry plan jobs c node id rest := by
  have moved {other : NodeId} {state : NodeState}
      (own : id = other → ∃ node rest, Chosen registry plan jobs c node id rest) :
      update c.session.states.get other state id = .evaluating ∨
        ∃ node rest, Chosen registry plan jobs c node id rest := by
    by_cases same : id = other
    · exact .inr (own same)
    · rw [update_of_ne same]
      exact .inl waiting
  -- The node of a task that ends is executing, and does not wait.
  have busy {other : NodeId} (executing : c.session.states.get other = .executing) : id ≠ other := by
    rintro rfl
    cases waiting.symm.trans executing
  have moves := moves_of_step stepped
  generalize next.session.states.get = states at moves
  cases moves with
  | still => exact .inl waiting
  | skip chosen => exact moved fun same => ⟨_, _, same ▸ chosen⟩
  | launch opened | perform opened | spoil opened =>
      exact moved fun same => ⟨_, _, same ▸ opened.toChosen⟩
  | succeed ends result =>
      exact moved fun same => absurd same (busy (ends.executing (by simp [result])))
  | fail executing => exact moved fun same => absurd same (busy executing)

variable [Mounted V] {world : V} {launched : List NodeId}

theorem Leads.heard (canonical : registry.Canonical) (sound : plan.Sound registry)
    (room : 0 < jobs)
    (leads : Leads registry plan jobs crew (Coordinator.start plan world) launched c) :
    Heard c.session.states.get c.session.verdicts := by
  generalize origin : Coordinator.start plan world = a at leads
  induction leads with
  | refl =>
      subst origin
      exact heard_start sound
  | step leads stepped ih =>
      subst origin
      have lists := (leads.tended canonical sound room).1.lists
      have heard := heard_of_step ih lists canonical sound stepped
      exact heard

theorem Leads.failed (canonical : registry.Canonical) (sound : plan.Sound registry)
    (room : 0 < jobs)
    (leads : Leads registry plan jobs crew (Coordinator.start plan world) launched c)
    {failure : Failure} (known : c.failure = some failure) :
    (inParallel registry crew jobs plan world).1 = .failed failure := by
  obtain ⟨more, last, onward, ended⟩ := drive_ends (Leads.refl c)
  obtain ⟨-, still, -⟩ := onward.failure_kept known
  rw [← leads.drive_eq] at ended
  have tended := ((leads.trans onward).tended canonical sound room).1
  obtain ⟨-, closing⟩ := finish_of_ended tended.lists canonical sound still ended
  obtain ⟨session, finished⟩ := tended.finish_failed canonical sound still
  rw [finished] at closing
  exact (Progress.ended.inj closing).1.symm

theorem Leads.unanswered (canonical : registry.Canonical) (sound : plan.Sound registry)
    (room : 0 < jobs)
    (leads : Leads registry plan jobs crew (Coordinator.start plan world) launched c)
    (chosen : Chosen registry plan jobs c node id rest) {verdicts : Verdicts} {failure : Failure}
    (answer : Freshness.isDirty registry c.session.world c.session.verdicts id =
      (.error failure, verdicts)) :
    (inParallel registry crew jobs plan world).1 = .failed failure := by
  have stepped : c.step registry plan jobs crew =
      if failure.isBreakdown then .ended (.failed failure) { c.session with verdicts }
      else .going (fail { c with rest, session := { c.session with verdicts } } failure) := by
    unfold Coordinator.step
    rw [chosen.calm, chosen.next]
    simp only [chosen.room, chosen.ready, if_true, handle, chosen.resolved, Session.ask_eq, answer]
  split_ifs at stepped with grave
  · rw [inParallel, leads.drive_eq, drive_of_ended stepped]
  · exact (leads.step stepped).failed canonical sound room (by simp [stirred, fail, chosen.calm])

omit [Mounted V] in
theorem Leads.visited (sound : plan.Sound registry)
    (leads : Leads registry plan jobs crew (Coordinator.start plan world) launched c)
    (planned : id ∈ plan.order) (moved : c.session.states.get id ≠ .evaluating) :
    ∃ front point node rest,
      Leads registry plan jobs crew (Coordinator.start plan world) front point ∧
        Chosen registry plan jobs point node id rest := by
  generalize origin : Coordinator.start plan world = a at leads
  induction leads with
  | refl =>
      subst origin
      have waits : plan.states.get id = .evaluating := by rw [sound.states_get, if_pos planned]
      exact absurd waits moved
  | @step between next front leads stepped ih =>
      subst origin
      by_cases waiting : between.session.states.get id = .evaluating
      · obtain ⟨node, rest, chosen⟩ := (waiting_of_step stepped waiting).resolve_left moved
        exact ⟨front, between, node, rest, leads, chosen⟩
      · exact ih waiting

omit [Mounted V] in
theorem states_of_completed {report : Report} {session : Session V}
    (ended : c.step registry plan jobs crew = .ended (.completed report) session) :
    session.states = c.session.states := by
  generalize closing : Progress.ended (.completed report) session = progress at ended
  cases turn_of_step ended with
  | finish =>
      rw [finish] at closing
      split at closing
      · split at closing <;> cases closing
      · split_ifs at closing
        · cases closing
          rfl
        · cases closing
  | passOver | skip | puzzle | launch | perform | spoil | succeed | failure | crash => cases closing
  | breakDown | unprepared | stray => cases closing

theorem visited_of_completed (canonical : registry.Canonical) (sound : plan.Sound registry)
    (room : 0 < jobs) (found : registry.find? node.id = some node) (planned : node.id ∈ plan.order)
    {report : Report}
    (completed : (inParallel registry crew jobs plan world).1 = .completed report) :
    ∃ launched c rest, Leads registry plan jobs crew (Coordinator.start plan world) launched c ∧
      Chosen registry plan jobs c node node.id rest := by
  rcases inParallel_ends canonical sound room crew world with ⟨failure, failed, -⟩ | ended
  · rw [completed] at failed
    cases failed
  · obtain ⟨-, -, -, satisfied⟩ := ended
    obtain ⟨launched, last, leads, stepped⟩ := drive_ends (Leads.refl (.start plan world))
    have done : last.step registry plan jobs crew =
        .ended (.completed report) (inParallel registry crew jobs plan world).2 :=
      completed ▸ stepped
    -- A completed run leaves no planned node waiting, so the node was chosen on the way.
    have moved : last.session.states.get node.id ≠ .evaluating := by
      rw [← states_of_completed done]
      intro waiting
      have fine := satisfied node.id planned
      rw [waiting] at fine
      cases fine
    obtain ⟨front, point, known, rest, towards, chosen⟩ := leads.visited sound planned moved
    have resolved := Registry.resolve_of_find? (canonical.found found) found
    rw [chosen.resolved] at resolved
    cases resolved
    exact ⟨front, point, rest, towards, chosen⟩

end Coordinator

section Sequence

variable {W : Type} [Disk W] {registry : Registry} {executor : Executor W}

/-- A sequential run before `rest` is handled: the nodes of `done` have finished well. -/
structure Turns (done rest : List NodeId) (session : Session W) : Prop where
  heard : Heard session.states.get session.verdicts
  finished : ∀ id ∈ done, (session.states.get id).isSatisfied = true
  waiting : ∀ id ∈ rest, session.states.get id = .evaluating

section Turns

variable {plan : Plan} {done rest : List NodeId} {id : NodeId} {session next : Session W}

omit [Disk W] in
theorem turns_start (sound : plan.Sound registry) (world : W) :
    Turns [] plan.order (.start world plan.states) where
  heard := heard_start sound
  finished _ member := by cases member
  waiting id member := by
    change plan.states.get id = _
    rw [sound.states_get, if_pos member]

omit [Disk W] in
theorem Turns.due (turns : Turns done (id :: rest) session) (sound : plan.Sound registry)
    (split : plan.order = done ++ id :: rest) :
    ∃ node : Artifact, node.id = id ∧ Due registry session.states.get node := by
  obtain ⟨node, found, rfl⟩ := sound.ordered.registered (by simp [split] : id ∈ plan.order)
  refine ⟨node, rfl, found, turns.waiting _ (by simp), fun dep needed registered => ?_⟩
  exact turns.finished dep
    (sound.ordered.preceded done node.id rest split dep ⟨node, found, needed, registered⟩)

theorem Turns.pass (turns : Turns done (id :: rest) session) (canonical : registry.Canonical)
    (sound : plan.Sound registry) (split : plan.order = done ++ id :: rest)
    (passes : Passes registry id session next) : Turns (done ++ [id]) rest next := by
  obtain ⟨node, rfl, due⟩ := turns.due sound split
  obtain ⟨⟨dirty, answer⟩, state, satisfied, moved⟩ := passes
  have distinct := sound.nodup
  rw [split, List.nodup_append, List.nodup_cons] at distinct
  constructor
  · rw [moved]
    exact turns.heard.answered canonical due answer state
      (NodeState.isBegun_of_isSatisfied satisfied)
  · exact moved ▸ NodeState.satisfied_update turns.finished satisfied
  · exact moved ▸ NodeState.waiting_update turns.waiting distinct.2.1.1

theorem Turns.front {front : List NodeId} (turns : Turns done (front ++ rest) session)
    (canonical : registry.Canonical) (sound : plan.Sound registry)
    (split : plan.order = done ++ (front ++ rest)) (executor : Executor W) :
    (∃ after, Turns (done ++ front) rest after ∧
      inSequence registry executor front session =
        (.completed after.report, after.note (.finished false)) ∧
      inSequence registry executor (front ++ rest) session =
        inSequence registry executor rest after) ∨
    ((∀ report, (inSequence registry executor front session).1 ≠ .completed report) ∧
      inSequence registry executor (front ++ rest) session =
        inSequence registry executor front session) := by
  induction front generalizing done session with
  | nil => exact .inl ⟨session, by simpa using turns, rfl, rfl⟩
  | cons id front ih =>
      rcases inSequence_proceeds registry executor id session with
        ⟨next, continues, onward⟩ | ⟨outcome, last, halts, ends⟩
      · rw [List.cons_append, onward, onward]
        have later := ih (turns.pass canonical sound split continues.passes) (by simp [split])
        rwa [List.append_assoc, List.singleton_append] at later
      · rw [List.cons_append, ends, ends]
        exact .inr ⟨halts.incomplete, rfl⟩

end Turns

end Sequence

section Visits

variable {W V : Type} [Disk W] [Mounted W] [Listing W] [Disk V] [Mounted V] [Listing V]
  {staff : Staff W V} {registry : Registry} {settings : RunSettings} {plan : Plan} {world : W}
  {node : Artifact} {disk : VirtualDisk}

/-- The run comes to a node, with the disk like this: in sequence, when the nodes before it have
finished well, and in parallel when it is the next node. -/
inductive Visits (staff : Staff W V) (registry : Registry) (settings : RunSettings) (plan : Plan)
    (world : W) (node : Artifact) : VirtualDisk → Prop where
  | inSequence {done rest : List NodeId} {report : Report} {session : Session W}
      (alone : settings.jobs ≤ 1) (split : plan.order = done ++ node.id :: rest)
      (before : Run.inSequence registry staff.executor done (.start world plan.states) =
        (.completed report, session)) :
      Visits staff registry settings plan world node (Mounted.disk session.world)
  | inParallel {launched : List NodeId} {c : Coordinator V} {rest : List NodeId}
      (several : 1 < settings.jobs)
      (leads : Coordinator.Leads registry plan settings.jobs staff.crew
        (.start plan (staff.gather world)) launched c)
      (chosen : c.Chosen registry plan settings.jobs node node.id rest) :
      Visits staff registry settings plan world node (Mounted.disk c.session.world)

theorem Visits.asked (visits : Visits staff registry settings plan world node disk)
    (canonical : registry.Canonical) (sound : plan.Sound registry)
    (wet : settings.dryRun = false) (found : registry.find? node.id = some node) :
    ∃ states verdicts, Heard states verdicts ∧ Due registry states node ∧
      ∀ failure, (Freshness.isDirty registry disk verdicts node.id).1 = .error failure →
        (carryOut staff registry settings plan world).outcome = .failed failure := by
  simp only [carryOut, wet, Bool.false_eq_true, if_false]
  -- Either way the node is due when it is asked about, and an answer that fails ends the run.
  cases visits with
  | @inSequence done rest report session alone split before =>
      rw [if_pos alone]
      have opening : Turns [] (done ++ node.id :: rest) (.start world plan.states) :=
        split ▸ turns_start sound world
      rcases opening.front canonical sound split staff.executor with
        ⟨after, turns, completed, onward⟩ | ⟨incomplete, -⟩
      · rw [before] at completed
        obtain ⟨-, rfl⟩ := Prod.mk.inj completed
        obtain ⟨same, named, due⟩ := turns.due sound split
        rw [show same = node from
          Option.some.inj ((named ▸ due.found).symm.trans found)] at due
        refine ⟨_, _, turns.heard, due, fun failure unanswered => ?_⟩
        have resolved := Registry.resolve_of_find? (canonical.found found) found
        rw [← Freshness.isDirty_listing] at unanswered
        have answer : Freshness.isDirty registry after.world after.verdicts node.id =
            (.error failure, _) := Prod.ext unanswered rfl
        rw [settled, split, onward]
        exact inSequence_unanswered resolved answer rest
      · rw [before] at incomplete
        exact absurd rfl (incomplete report)
  | @inParallel launched c rest several leads chosen =>
      rw [if_neg (by omega)]
      have room : 0 < settings.jobs := by omega
      have lists := (leads.tended canonical sound room).1.lists
      obtain ⟨-, due⟩ := chosen.due lists canonical sound
      refine ⟨_, _, leads.heard canonical sound room, due, fun failure unanswered => ?_⟩
      rw [← Freshness.isDirty_listing] at unanswered
      exact leads.unanswered canonical sound room chosen (Prod.ext unanswered rfl)

omit [Listing W] [Listing V] in
theorem visits_of_completed (canonical : registry.Canonical) (sound : plan.Sound registry)
    (wet : settings.dryRun = false) {report : Report}
    (completed : (carryOut staff registry settings plan world).outcome = .completed report)
    (planned : node.id ∈ plan.order) (found : registry.find? node.id = some node) :
    ∃ disk, Visits staff registry settings plan world node disk := by
  simp only [carryOut, wet, Bool.false_eq_true, if_false] at completed
  split at completed
  · rename_i alone
    obtain ⟨done, rest, split⟩ := List.append_of_mem planned
    have opening : Turns [] (done ++ node.id :: rest) (.start world plan.states) :=
      split ▸ turns_start sound world
    rcases opening.front canonical sound split staff.executor with
      ⟨after, -, before, -⟩ | ⟨incomplete, same⟩
    · exact ⟨_, .inSequence alone split before⟩
    · rw [settled, split, same] at completed
      exact absurd completed (incomplete report)
  · rename_i several
    have room : 0 < settings.jobs := by omega
    obtain ⟨launched, c, rest, leads, chosen⟩ :=
      Coordinator.visited_of_completed canonical sound room found planned completed
    exact ⟨_, .inParallel (by omega) leads chosen⟩

/-- No run passes over a missing source of a file. A completed run has come to every planned file,
and each time all its sources were there; and a run that comes to a file without one of them fails
with a missing source of it, unless a glob before it cannot be read. -/
theorem sources_attended (canonical : registry.Canonical) (wet : settings.dryRun = false)
    {targets : List NodeId} (planned : Plan.make registry targets = .ok plan) :
    let outcome := (run staff registry settings targets world).outcome
    (∀ report, outcome = .completed report → ∀ node : Artifact, node.id ∈ plan.order →
      registry.find? node.id = some node → node.kind = .file →
        (∃ disk, Visits staff registry settings plan world node disk) ∧
        ∀ disk, Visits staff registry settings plan world node disk →
          ∀ dep, ¬Lacks registry disk node dep) ∧
    ∀ node : Artifact, registry.find? node.id = some node → node.kind = .file → ∀ disk,
      Visits staff registry settings plan world node disk → ∀ front dep back,
        node.prerequisites = front ++ .node dep :: back →
        (∀ pattern, .glob pattern ∈ front → ∃ tokens, Glob.compile pattern = .ok tokens) →
        Lacks registry disk node dep →
          ∃ source, Lacks registry disk node source ∧
            outcome = .failed (.missingPrerequisite node.id source) := by
  have sound := Plan.make_sound canonical planned
  have carried : (run staff registry settings targets world).outcome =
      (carryOut staff registry settings plan world).outcome := by rw [run, planned]
  dsimp only
  rw [carried]
  refine ⟨fun report completed node member found kind => ?_, ?_⟩
  · refine ⟨visits_of_completed canonical sound wet completed member found, ?_⟩
    intro disk visits dep
    obtain ⟨states, verdicts, heard, due, ends⟩ := visits.asked canonical sound wet found
    rcases answer : Freshness.isDirty registry disk verdicts node.id with ⟨failure | dirty, after⟩
    · rw [ends failure (by rw [answer])] at completed
      cases completed
    · exact heard.not_lacks canonical due kind answer dep
  · intro node found kind disk visits front dep back split compiled lacks
    obtain ⟨states, verdicts, heard, due, ends⟩ := visits.asked canonical sound wet found
    have absent : Lacks registry (Mounted.disk disk) node dep := lacks
    obtain ⟨source, lacking, failed⟩ := heard.lacking canonical due kind split compiled absent
    exact ⟨source, lacking, ends _ failed⟩

section Mistyped

open Coordinator (desk clerk)

theorem visits_first {plan : Plan} {rest : List NodeId} (first : plan.order = node.id :: rest) :
    Visits clerk.staff registry {} plan disk node disk := by
  have before : inSequence registry clerk.staff.executor [] (.start disk plan.states) =
      (.completed .empty, (Session.start disk plan.states).note (.finished false)) := rfl
  exact .inSequence (by decide) first before

theorem sources_attended_desk :
    let stocked := (VirtualDisk.new.write ⟨"in"⟩ []).write ⟨"report"⟩ []
    (run clerk.staff desk {} ["report"] VirtualDisk.new).outcome =
        .failed (.missingPrerequisite "report" "in") ∧
      (run clerk.staff desk {} ["report"] stocked).outcome = .completed ⟨[], ["report"]⟩ ∧
      ∃ plan node disk, Visits clerk.staff desk {} plan stocked node disk ∧
        ¬Lacks desk disk node "in" := by
  intro stocked
  let plan : Plan := ⟨["report"], [("report", [])], ⟨[("report", .evaluating)]⟩⟩
  let report := (Artifact.file "report" (.run [⟨"refuse", [], ⟨[]⟩, none, none⟩])).dependsOn "in"
  have canonical : desk.Canonical := ⟨by decide, by decide⟩
  have planned : Plan.make desk ["report"] = .ok plan := by rfl
  have found : desk.find? report.id = some report := by rfl
  refine ⟨?fails, by decide +kernel, ?completes⟩
  case fails =>
    have visits : Visits clerk.staff desk {} plan VirtualDisk.new report VirtualDisk.new :=
      visits_first rfl
    have lacks : Lacks desk VirtualDisk.new report "in" := ⟨by decide, by decide, by decide⟩
    obtain ⟨source, ⟨needed, -, -⟩, failed⟩ := (sources_attended canonical rfl planned).2 report
      found rfl _ visits [] "in" [] rfl (by simp) lacks
    rw [failed, List.mem_singleton.mp needed]
    rfl
  case completes =>
    have completed : (run clerk.staff desk {} ["report"] stocked).outcome =
        .completed ⟨[], ["report"]⟩ := by decide +kernel
    obtain ⟨⟨disk, visits⟩, fine⟩ := (sources_attended canonical rfl planned).1 _ completed report
      (by decide) found rfl
    exact ⟨plan, report, disk, visits, fine disk visits "in"⟩

def attic : Registry where
  nodes := [(Artifact.directory "out").dependsOn "src/typo"]

def cellar : Registry where
  nodes := [
    ((Artifact.file "out" (.run [⟨"make", [], ⟨[]⟩, none, none⟩])).dependsOnGlob "[").dependsOn
      "src/typo"]

def hall : Registry where
  nodes := [
    Artifact.phony "./ ./ a" .none,
    (Artifact.file "./ a" (.run [⟨"make", [], ⟨[]⟩, none, none⟩])).dependsOn "src/typo",
    Artifact.phony "a" .none]

def yard : Registry where
  nodes := [(Artifact.phony "exp:all" .none).dependsOn "src/typo"]

/-- Not every missing prerequisite is met with a failure that says so: directories are made and
phony nodes are done without them, an unreadable glob before them is what the run fails with, and of
ids that are respelled when they are looked up the wrong node is handled. -/
theorem sources_passed_over :
    (∃ plan node, Plan.make attic ["out"] = .ok plan ∧ attic.find? "out" = some node ∧
      Visits clerk.staff attic {} plan VirtualDisk.new node VirtualDisk.new ∧
      Lacks attic VirtualDisk.new node "src/typo" ∧
      (run clerk.staff attic {} ["out"] VirtualDisk.new).outcome = .completed ⟨["out"], []⟩) ∧
    (∃ plan node, Plan.make cellar ["out"] = .ok plan ∧ cellar.find? "out" = some node ∧
      node.kind = .file ∧
      Visits clerk.staff cellar {} plan VirtualDisk.new node VirtualDisk.new ∧
      Lacks cellar VirtualDisk.new node "src/typo" ∧
      (run clerk.staff cellar {} ["out"] VirtualDisk.new).outcome = .failed (.invalidGlob "[")) ∧
    (∃ plan node, Plan.make hall ["./ ./ a"] = .ok plan ∧ hall.find? " a" = some node ∧
      node.kind = .file ∧
      Visits clerk.staff hall {} plan VirtualDisk.new node VirtualDisk.new ∧
      Lacks hall VirtualDisk.new node "src/typo" ∧
      (run clerk.staff hall {} ["./ ./ a"] VirtualDisk.new).outcome = .completed ⟨[" a"], []⟩) ∧
    (∃ plan node, Plan.make yard ["exp:all"] = .ok plan ∧ yard.find? "exp:all" = some node ∧
      node.kind = .phony ∧
      Visits clerk.staff yard {} plan VirtualDisk.new node VirtualDisk.new ∧
      Lacks yard VirtualDisk.new node "src/typo" ∧
      (run clerk.staff yard {} ["exp:all"] VirtualDisk.new).outcome =
        .completed ⟨["exp:all"], []⟩) := by
  refine ⟨?directory, ?glob, ?spelling, ?phony⟩
  case directory =>
    exact ⟨_, _, rfl, rfl, visits_first rfl, ⟨by decide, by decide, by decide⟩, by decide +kernel⟩
  case glob =>
    exact ⟨_, _, rfl, rfl, rfl, visits_first rfl, ⟨by decide, by decide, by decide⟩,
      by decide +kernel⟩
  case spelling =>
    exact ⟨_, _, rfl, rfl, rfl, visits_first rfl, ⟨by decide, by decide, by decide⟩,
      by decide +kernel⟩
  case phony =>
    exact ⟨_, _, rfl, rfl, rfl, visits_first rfl, ⟨by decide, by decide, by decide⟩,
      by decide +kernel⟩

end Mistyped

end Visits

end Run

end ArtifactPipeline
