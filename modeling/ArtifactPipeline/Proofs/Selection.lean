import ArtifactPipeline.Proofs.Assembly
import ArtifactPipeline.Proofs.CycleSearch

set_option autoImplicit false

namespace ArtifactPipeline

namespace Groups

def Lists (groups : Groups) (member : NodeId) : Prop :=
  ∃ entry ∈ groups.entries, member ∈ entry.2

theorem lists_insertMember {group : String} {id member : NodeId}
    {entries : List (String × List NodeId)}
    (lists : ∃ entry ∈ insertMember group id entries, member ∈ entry.2) :
    member = id ∨ ∃ entry ∈ entries, member ∈ entry.2 := by
  induction entries with
  | nil =>
      obtain ⟨entry, new, listed⟩ := lists
      rw [List.mem_singleton.mp new] at listed
      exact .inl (List.mem_singleton.mp listed)
  | cons first rest ih =>
      obtain ⟨name, members⟩ := first
      rw [insertMember] at lists
      split_ifs at lists
      · obtain ⟨entry, placed, listed⟩ := lists
        rcases List.mem_cons.mp placed with rfl | old
        · exact .inl (List.mem_singleton.mp listed)
        · exact .inr ⟨entry, old, listed⟩
      · obtain ⟨entry, placed, listed⟩ := lists
        rcases List.mem_cons.mp placed with rfl | old
        · dsimp only at listed
          unfold addMember at listed
          split_ifs at listed
          · exact .inr ⟨(name, members), by simp, listed⟩
          · rcases List.mem_append.mp listed with old | new
            · exact .inr ⟨(name, members), by simp, old⟩
            · exact .inl (List.mem_singleton.mp new)
        · exact .inr ⟨entry, List.mem_cons_of_mem _ old, listed⟩
      · obtain ⟨entry, placed, listed⟩ := lists
        rcases List.mem_cons.mp placed with rfl | later
        · exact .inr ⟨(name, members), by simp, listed⟩
        · rcases ih ⟨entry, later, listed⟩ with same | ⟨entry, old, listed⟩
          · exact .inl same
          · exact .inr ⟨entry, List.mem_cons_of_mem _ old, listed⟩

theorem lists_addAll {groups : Groups} {group : String} {ids : List String} {member : NodeId}
    (lists : (groups.addAll group ids).Lists member) :
    groups.Lists member ∨ ∃ id ∈ ids, member = NodeId.canonical id := by
  induction ids generalizing groups with
  | nil => exact .inl lists
  | cons id rest ih =>
      rcases ih lists with earlier | ⟨other, later, same⟩
      · rcases lists_insertMember earlier with same | old
        · exact .inr ⟨id, by simp, same⟩
        · exact .inl old
      · exact .inr ⟨other, List.mem_cons_of_mem _ later, same⟩

end Groups

namespace Registry

theorem ids_register {registry next : Registry} {node : Artifact}
    (registered : registry.register node = .ok next) :
    node.id ∈ next.ids ∧ registry.ids ⊆ next.ids := by
  unfold register offer at registered
  cases known : registry.find? node.id with
  | none =>
      rw [known] at registered
      cases registered
      constructor
      · simp [ids]
      · intro id member
        rw [ids, List.map_append]
        exact List.mem_append_left _ member
  | some old =>
      rw [known] at registered
      dsimp only at registered
      split at registered <;> rename_i offered <;> split at offered <;> cases offered <;>
        cases registered
      exact ⟨mem_ids_of_find? known, fun _ member => member⟩

theorem ids_registerAll {nodes : List Artifact} {registry next : Registry}
    (registered : registry.registerAll nodes = .ok next) :
    (∀ node ∈ nodes, node.id ∈ next.ids) ∧ registry.ids ⊆ next.ids := by
  induction nodes generalizing registry with
  | nil =>
      cases registered
      exact ⟨by simp, fun _ member => member⟩
  | cons node rest ih =>
      rw [registerAll] at registered
      split at registered
      · rename_i between added
        obtain ⟨own, old⟩ := ids_register added
        obtain ⟨others, kept⟩ := ih registered
        refine ⟨fun other member => ?_, fun id member => kept (old member)⟩
        rcases List.mem_cons.mp member with rfl | later
        · exact kept own
        · exact others other later
      · cases registered

theorem registerAll_append {first second : List Artifact} {registry between next : Registry}
    (start : registry.registerAll first = .ok between)
    (rest : between.registerAll second = .ok next) :
    registry.registerAll (first ++ second) = .ok next := by
  induction first generalizing registry with
  | nil =>
      cases start
      exact rest
  | cons node nodes ih =>
      rw [registerAll] at start
      rw [List.cons_append, registerAll]
      split at start
      · exact ih start
      · cases start

theorem Built.registerAll {registry next : Registry} (built : registry.Built)
    {nodes : List Artifact} (registered : registry.registerAll nodes = .ok next) : next.Built := by
  obtain ⟨earlier, start⟩ := built
  exact ⟨earlier ++ nodes, registerAll_append start registered⟩

end Registry

namespace Derived

def Owned (derived : Derived) : Prop :=
  ∀ target ∈ derived.targets, ∃ artifact ∈ derived.artifacts, artifact.id = target

theorem Owned.append {first second : Derived} (owned : first.Owned) (also : second.Owned) :
    (first.append second).Owned := by
  intro target member
  rcases List.mem_append.mp member with left | right
  · obtain ⟨artifact, made, same⟩ := owned target left
    exact ⟨artifact, List.mem_append_left _ made, same⟩
  · obtain ⟨artifact, made, same⟩ := also target right
    exact ⟨artifact, List.mem_append_right _ made, same⟩

theorem owned_last (artifacts : List Artifact) (target : Artifact) :
    Owned ⟨artifacts ++ [target], [target.id]⟩ := by
  intro id member
  exact ⟨target, by simp, (List.mem_singleton.mp member).symm⟩

theorem owned_empty : empty.Owned := by
  intro target member
  cases member

theorem owned_ofDataset {derivation : Derivation} {settings : RunSettings} {dataset : Dataset}
    {derived : Derived} (made : ofDataset derivation settings dataset = .ok derived) :
    derived.Owned := by
  unfold ofDataset at made
  split at made
  · cases made
  rename_i bound bounded
  split at made
  · cases made
  rename_i levels levelled
  split at made
  · cases made
  rename_i order ordered
  cases made
  have boundOwned : bound.Owned := by
    unfold lowerBound at bounded
    split at bounded
    · cases bounded
    · cases bounded
      exact owned_last [] _
  have levelsOwned : levels.Owned := by
    unfold hierarchy at levelled
    split at levelled
    · cases levelled
      exact owned_empty
    · split at levelled
      · cases levelled
      · cases levelled
        exact owned_last [_, _] _
  have orderOwned : order.Owned := by
    unfold dissection at ordered
    split at ordered
    · cases ordered
      exact owned_empty
    · split at ordered
      · cases ordered
      · cases ordered
        exact owned_last [] _
  exact (boundOwned.append levelsOwned).append orderOwned

end Derived

namespace Pipeline

structure Draft.Enlisted (draft : Draft) : Prop where
  built : draft.registry.Built
  joined : ∀ member, draft.groups.Lists member →
    ∃ id ∈ draft.registry.ids, member = NodeId.canonical id

theorem Draft.enlisted_start (namer : OutputNamer) : (Draft.start namer).Enlisted where
  built := ⟨[], rfl⟩
  joined := by
    rintro member ⟨entry, placed, -⟩
    cases placed

theorem Draft.Enlisted.grow {draft next : Draft} (enlisted : draft.Enlisted)
    {artifacts : List Artifact}
    (registered : draft.registry.registerAll artifacts = .ok next.registry)
    (joined : ∀ member, next.groups.Lists member → draft.groups.Lists member ∨
      ∃ artifact ∈ artifacts, member = NodeId.canonical artifact.id) : next.Enlisted where
  built := enlisted.built.registerAll registered
  joined := by
    obtain ⟨new, kept⟩ := Registry.ids_registerAll registered
    intro member listed
    rcases joined member listed with old | ⟨artifact, made, same⟩
    · obtain ⟨id, known, same⟩ := enlisted.joined member old
      exact ⟨id, kept known, same⟩
    · exact ⟨artifact.id, new artifact made, same⟩

namespace Draft

theorem registerAll_eq_ok {draft next : Draft} {artifacts : List Artifact}
    (registered : draft.registerAll artifacts = .ok next) :
    draft.registry.registerAll artifacts = .ok next.registry ∧ next.groups = draft.groups := by
  unfold registerAll at registered
  split at registered
  · cases registered
  · rename_i registry known
    cases registered
    exact ⟨known, rfl⟩

variable {settings : RunSettings} {draft next : Draft}

theorem Enlisted.addRule (enlisted : draft.Enlisted) {rule : RuleEntry}
    (added : draft.addRule settings rule = .ok next) : next.Enlisted := by
  unfold Draft.addRule at added
  split at added
  · cases added
  rename_i artifact made
  split at added
  · rename_i group named
    obtain ⟨registered, same⟩ := registerAll_eq_ok added
    refine enlisted.grow registered fun member listed => ?_
    rw [same] at listed
    simpa using Groups.lists_addAll listed
  · obtain ⟨registered, same⟩ := registerAll_eq_ok added
    exact enlisted.grow registered fun member listed => .inl (same ▸ listed)

theorem Enlisted.addDataset (enlisted : draft.Enlisted) {derivation : Derivation}
    {dataset : Dataset} (added : draft.addDataset derivation settings dataset = .ok next) :
    next.Enlisted := by
  unfold Draft.addDataset at added
  split at added
  · cases added
  rename_i derived made
  split at added
  · cases added
  rename_i between registered
  cases added
  obtain ⟨registered, same⟩ := registerAll_eq_ok registered
  refine enlisted.grow registered fun member listed => ?_
  rcases Groups.lists_addAll listed with old | ⟨target, chosen, rfl⟩
  · exact .inl (same ▸ old)
  · obtain ⟨artifact, member, rfl⟩ := Derived.owned_ofDataset made target chosen
    exact .inr ⟨artifact, member, rfl⟩

theorem Enlisted.addMatrix (enlisted : draft.Enlisted) {expDir : String}
    {datasets : List Dataset} {entry : MatrixEntry}
    (added : draft.addMatrix expDir settings datasets entry = .ok next) : next.Enlisted := by
  unfold Draft.addMatrix at added
  split at added
  · cases added
  rename_i variants namer expanded
  split at added
  · cases added
  rename_i between registered
  cases added
  obtain ⟨registered, same⟩ := registerAll_eq_ok registered
  refine enlisted.grow registered fun member listed => ?_
  rcases Groups.lists_addAll listed with old | ⟨target, chosen, rfl⟩
  · exact .inl (same ▸ old)
  · rw [List.mem_singleton.mp chosen]
    exact .inr ⟨aggregate expDir entry variants, by simp [matrixArtifacts], rfl⟩

end Draft

theorem enlisted_of_build {file : PipelineFile} {settings : RunSettings} {namer after : OutputNamer}
    {pipeline : Pipeline} (made : build file settings namer = .ok (pipeline, after)) :
    pipeline.registry.Built ∧ Graph.validate pipeline.registry = .ok () ∧
      ∀ member, pipeline.groups.Lists member →
        ∃ id ∈ pipeline.registry.ids, member = NodeId.canonical id := by
  have assembled : Ends Draft.Enlisted (fun _ => True) (assemble file settings namer) := by
    have rules : Ends Draft.Enlisted (fun _ => True)
        (file.rules.foldlM (Draft.addRule settings) (Draft.start namer)) :=
      .foldlM (Draft.enlisted_start namer) fun rule _ draft enlisted => by
        cases added : draft.addRule settings rule with
        | error failure => trivial
        | ok next => exact enlisted.addRule added
    unfold assemble
    dsimp only
    split
    · trivial
    · rename_i draft ruled
      rw [ruled] at rules
      have datasets : Ends Draft.Enlisted (fun _ => True)
          ((usableDatasets file settings).foldlM
            (Draft.addDataset file.derivation settings) draft) :=
        .foldlM rules fun dataset _ draft enlisted => by
          cases added : draft.addDataset file.derivation settings dataset with
          | error failure => trivial
          | ok next => exact enlisted.addDataset added
      split
      · trivial
      · rename_i derived prepared
        rw [prepared] at datasets
        exact .foldlM datasets fun entry _ draft enlisted => by
          cases added : draft.addMatrix file.settings.expDir settings
              (usableDatasets file settings) entry with
          | error failure => trivial
          | ok next => exact enlisted.addMatrix added
  unfold build at made
  split at made
  · cases made
  rename_i draft known
  rw [known] at assembled
  split at made
  · cases made
  rename_i valid
  cases made
  exact ⟨assembled.built, valid, assembled.joined⟩

theorem addNew_append (ids first second : List NodeId) :
    addNew ids (first ++ second) = addNew (addNew ids first) second :=
  List.foldl_append

theorem addNew_nil (more : List NodeId) : addNew [] more = more.eraseDups := by
  induction more using List.reverseRecOn with
  | nil => rfl
  | append_singleton front last ih =>
      rw [addNew_append, ih, List.eraseDups_append]
      by_cases again : last ∈ front <;>
        simp [addNew, List.removeAll, List.eraseDups_cons, again]

theorem nodup_addNew {ids : List NodeId} (distinct : ids.Nodup) (more : List NodeId) :
    (addNew ids more).Nodup := by
  induction more generalizing ids with
  | nil => exact distinct
  | cons id rest ih =>
      rw [addNew, List.foldl_cons]
      split_ifs with known
      · exact ih distinct
      · exact ih (List.nodup_append.mpr ⟨distinct, List.nodup_singleton id, by grind⟩)

section SelectAll

variable {α : Type} {select : α → Except Failure (List NodeId)} {names : List α}

theorem selectAll_ok {meaning : α → List NodeId}
    (each : ∀ name ∈ names, select name = .ok (meaning name)) (ids : List NodeId) :
    selectAll select ids names = .ok (addNew ids (names.flatMap meaning)) := by
  induction names generalizing ids with
  | nil => rfl
  | cons name rest ih =>
      rw [selectAll, each name (by simp), List.flatMap_cons, addNew_append]
      exact ih (fun other member => each other (List.mem_cons_of_mem _ member)) _

theorem selectAll_error {name : α} {failure : Failure} (listed : name ∈ names)
    (refused : select name = .error failure) (ids : List NodeId) :
    ∃ failure, selectAll select ids names = .error failure := by
  induction names generalizing ids with
  | nil => cases listed
  | cons first rest ih =>
      rw [selectAll]
      rcases List.mem_cons.mp listed with rfl | later
      · rw [refused]
        exact ⟨failure, rfl⟩
      · cases select first with
        | error other => exact ⟨other, rfl⟩
        | ok more => exact ih later _

end SelectAll

variable (pipeline : Pipeline)

def requested (targets groups : List String) : List String :=
  if targets.isEmpty && groups.isEmpty then pipeline.defaults else targets

def membersOf (group : String) : List NodeId :=
  (pipeline.groups.members? group).getD []

def standsFor (name : String) : List NodeId :=
  if pipeline.registry.contains name then [NodeId.canonical name] else pipeline.membersOf name

/-- All nodes that a request mentions, as often as it does. -/
def mentions (targets groups : List String) : List NodeId :=
  (pipeline.requested targets groups).flatMap pipeline.standsFor ++
    groups.flatMap pipeline.membersOf

/-- Why a request names nothing that could be built. -/
inductive Unanswerable (targets groups : List String) : Prop where
  | nothing (noTargets : targets = []) (noGroups : groups = [])
      (noDefaults : pipeline.defaults = [])
  | target (name : String) (wanted : name ∈ pipeline.requested targets groups)
      (unregistered : pipeline.registry.contains name = false)
      (noGroup : pipeline.groups.contains name = false)
  | group (name : String) (wanted : name ∈ groups)
      (unknown : pipeline.groups.contains name = false)

variable {pipeline}

theorem select_ok {name : String} (known : pipeline.registry.contains name = true ∨
    pipeline.groups.contains name = true) :
    pipeline.select name = .ok (pipeline.standsFor name) := by
  unfold select standsFor membersOf Registry.contains
  cases found : pipeline.registry.get? name with
  | some node =>
      have same : node.id = NodeId.canonical name := Registry.id_of_find? found
      simp [same]
  | none =>
      simp only [Registry.contains, found, Groups.contains, Option.isSome_none,
        Bool.false_eq_true, false_or] at known
      obtain ⟨members, listed⟩ := Option.isSome_iff_exists.mp known
      simp [listed]

theorem select_error {name : String} (unregistered : pipeline.registry.contains name = false)
    (noGroup : pipeline.groups.contains name = false) :
    pipeline.select name = .error (.unknownTarget (NodeId.canonical name)) := by
  simp only [Registry.contains, Groups.contains, Option.isSome_eq_false_iff,
    Option.isNone_iff_eq_none] at unregistered noGroup
  simp [select, unregistered, noGroup]

theorem members_ok {group : String} (known : pipeline.groups.contains group = true) :
    pipeline.groups.members group = .ok (pipeline.membersOf group) := by
  obtain ⟨members, listed⟩ := Option.isSome_iff_exists.mp known
  simp [Groups.members, membersOf, listed]

theorem members_error {group : String} (unknown : pipeline.groups.contains group = false) :
    pipeline.groups.members group = .error (.unknownGroup group) := by
  simp only [Groups.contains, Option.isSome_eq_false_iff, Option.isNone_iff_eq_none] at unknown
  simp [Groups.members, unknown]

theorem resolveTargets_eq {targets groups : List String}
    (something : ¬(targets = [] ∧ groups = [] ∧ pipeline.defaults = [])) :
    pipeline.resolveTargets targets groups =
      match selectAll pipeline.select [] (pipeline.requested targets groups) with
      | .error failure => .error failure
      | .ok ids => selectAll pipeline.groups.members ids groups := by
  have asked : ((targets.isEmpty && groups.isEmpty) && pipeline.defaults.isEmpty) = false := by
    rw [Bool.eq_false_iff]
    intro nothing
    simp only [Bool.and_eq_true, List.isEmpty_iff] at nothing
    exact something ⟨nothing.1.1, nothing.1.2, nothing.2⟩
  unfold resolveTargets requested
  simp only [asked]
  rfl

theorem resolveTargets_error {targets groups : List String}
    (unanswerable : pipeline.Unanswerable targets groups) :
    ∃ failure, pipeline.resolveTargets targets groups = .error failure := by
  by_cases nothing : targets = [] ∧ groups = [] ∧ pipeline.defaults = []
  · exact ⟨.config .nothingRequested, by simp [resolveTargets, nothing]⟩
  rw [resolveTargets_eq nothing]
  cases unanswerable with
  | nothing noTargets noGroups noDefaults =>
      exact absurd ⟨noTargets, noGroups, noDefaults⟩ nothing
  | target name wanted unregistered noGroup =>
      obtain ⟨failure, refused⟩ := selectAll_error wanted (select_error unregistered noGroup) []
      rw [refused]
      exact ⟨failure, rfl⟩
  | group name wanted unknown =>
      cases selectAll pipeline.select [] (pipeline.requested targets groups) with
      | error failure => exact ⟨failure, rfl⟩
      | ok ids => exact selectAll_error wanted (members_error unknown) ids

theorem resolveTargets_ok {targets groups : List String}
    (answerable : ¬pipeline.Unanswerable targets groups) :
    pipeline.resolveTargets targets groups =
      .ok (pipeline.mentions targets groups).eraseDups := by
  have names : ∀ name ∈ pipeline.requested targets groups,
      pipeline.select name = .ok (pipeline.standsFor name) := by
    intro name wanted
    refine select_ok ?_
    by_contra unknown
    rw [not_or, Bool.not_eq_true, Bool.not_eq_true] at unknown
    exact answerable (.target name wanted unknown.1 unknown.2)
  have members : ∀ group ∈ groups,
      pipeline.groups.members group = .ok (pipeline.membersOf group) := by
    intro group wanted
    refine members_ok ?_
    by_contra unknown
    exact answerable (.group group wanted (Bool.not_eq_true _ ▸ unknown))
  rw [resolveTargets_eq fun nothing => answerable (.nothing nothing.1 nothing.2.1 nothing.2.2),
    selectAll_ok names]
  dsimp only
  rw [selectAll_ok members, mentions, ← addNew_append, addNew_nil]

theorem registered_of_mention {targets groups : List String}
    (listed : ∀ member, pipeline.groups.Lists member → member ∈ pipeline.registry.ids)
    {id : NodeId} (mentioned : id ∈ pipeline.mentions targets groups) :
    id ∈ pipeline.registry.ids := by
  have ofGroup : ∀ group, id ∈ pipeline.membersOf group → id ∈ pipeline.registry.ids := by
    intro group member
    unfold membersOf Groups.members? at member
    cases known : pipeline.groups.entries.lookup group with
    | none =>
        rw [known] at member
        cases member
    | some members =>
        rw [known] at member
        obtain ⟨front, back, split, -⟩ := List.lookup_eq_some_iff.mp known
        exact listed id ⟨(group, members), by simp [split], member⟩
  rcases List.mem_append.mp mentioned with ofTargets | ofGroups
  · obtain ⟨name, -, stands⟩ := List.mem_flatMap.mp ofTargets
    unfold standsFor at stands
    split_ifs at stands with registered
    · obtain ⟨node, found⟩ := Option.isSome_iff_exists.mp registered
      rw [List.mem_singleton.mp stands]
      exact Registry.mem_ids_of_find? found
    · exact ofGroup name stands
  · obtain ⟨group, -, member⟩ := List.mem_flatMap.mp ofGroups
    exact ofGroup group member

/-- Every member of a group is registered, and a request fails exactly when it names nothing, or
something that is neither an id nor a group. Otherwise it stands for registered nodes, each once
and in the order of first mention, and these can be planned. -/
theorem selectable_planned (file : PipelineFile) (settings : RunSettings) (namer : OutputNamer)
    {pipeline : Pipeline} {after : OutputNamer}
    (made : build file settings namer = .ok (pipeline, after))
    (canonical : pipeline.registry.Canonical) :
    (∀ member, pipeline.groups.Lists member → member ∈ pipeline.registry.ids) ∧
    ∀ targets groups,
      ((∃ failure, pipeline.resolveTargets targets groups = .error failure) ↔
        pipeline.Unanswerable targets groups) ∧
      ∀ ids, pipeline.resolveTargets targets groups = .ok ids →
        ids = (pipeline.mentions targets groups).eraseDups ∧ ids.Nodup ∧
          (∀ id ∈ ids, id ∈ pipeline.registry.ids) ∧
            ∃ plan, Plan.make pipeline.registry ids = .ok plan := by
  obtain ⟨built, valid, joined⟩ := enlisted_of_build made
  have listed : ∀ member, pipeline.groups.Lists member → member ∈ pipeline.registry.ids := by
    intro member inGroup
    obtain ⟨id, known, rfl⟩ := joined member inGroup
    obtain ⟨node, stored, rfl⟩ := List.mem_map.mp known
    rwa [canonical.ids node stored]
  refine ⟨listed, fun targets groups => ⟨⟨?_, resolveTargets_error⟩, ?_⟩⟩
  · rintro ⟨failure, failed⟩
    by_contra answerable
    rw [resolveTargets_ok answerable] at failed
    cases failed
  · intro ids resolved
    have answerable : ¬pipeline.Unanswerable targets groups := by
      intro unanswerable
      obtain ⟨failure, failed⟩ := resolveTargets_error unanswerable
      rw [failed] at resolved
      cases resolved
    rw [resolveTargets_ok answerable] at resolved
    cases resolved
    have registered : ∀ id ∈ (pipeline.mentions targets groups).eraseDups,
        id ∈ pipeline.registry.ids :=
      fun id member => registered_of_mention listed (List.mem_eraseDups.mp member)
    refine ⟨rfl, addNew_nil _ ▸ nodup_addNew List.nodup_nil _, registered, ?_⟩
    -- The graph was found to be without cycles when the pipeline was built.
    refine (Registry.acyclic_iff canonical).mp
      (Graph.acyclic_of_validate built canonical valid) _ fun id member => ?_
    obtain ⟨node, stored, rfl⟩ := List.mem_map.mp (registered id member)
    exact (Registry.contains_iff (canonical.ids node stored)).mpr
      ⟨node, Registry.find?_of_mem built.nodup stored⟩

def streetRuns : PipelineFile where
  rules := [{ id := "city/graph", commands := [{ args := ["draw"] }], group := some "prep" }]
  datasets := [{ name := "city", path := "city", deps := ["city/graph"] }]
  matrices := [{ name := "speed", commands := [{ args := ["drive"] }] }]

def drive : Command where
  program := "drive"
  args := []
  env := ⟨[]⟩
  cwd := none
  stdout := some ⟨⟨"exp/speed/T-0001.json"⟩, false, none⟩

def streetPipeline : Pipeline where
  registry := ⟨[
    .file "city/graph" (.run [⟨"draw", [], ⟨[]⟩, none, none⟩]),
    ((Artifact.file "city/lower_bound" (.symlink ⟨"travel_time"⟩)).dependsOnAll
      ["city/graph", "city/travel_time"]).described "lower bound weights of city",
    .directory "exp/speed",
    (Artifact.file "exp/speed/T-0001.json" (.run [drive])).dependsOn "exp/speed",
    (Artifact.phony "exp:speed" .none).dependsOn "exp/speed/T-0001.json"]⟩
  groups := ⟨[("exp", ["exp:speed"]), ("prep", ["city/graph", "city/lower_bound"])]⟩
  defaults := []
  variants := [⟨"speed", "city", ⟨[]⟩, 0, "speed", "exp/speed/T-0001.json", drive, []⟩]

theorem selectable_planned_streetRuns :
    build streetRuns {} ⟨"T", 0⟩ = .ok (streetPipeline, ⟨"T", 1⟩) ∧
      streetPipeline.registry.Canonical ∧
      streetPipeline.resolveTargets ["exp", "city/graph/"] ["prep"] =
        .ok ["exp:speed", "city/graph", "city/lower_bound"] ∧
      ∃ plan, Plan.make streetPipeline.registry ["exp:speed", "city/graph", "city/lower_bound"] =
        .ok plan := by
  have made : build streetRuns {} ⟨"T", 0⟩ = .ok (streetPipeline, ⟨"T", 1⟩) := by decide +kernel
  have canonical : streetPipeline.registry.Canonical := ⟨by decide +kernel, by decide +kernel⟩
  have resolved : streetPipeline.resolveTargets ["exp", "city/graph/"] ["prep"] =
      .ok ["exp:speed", "city/graph", "city/lower_bound"] := by decide +kernel
  obtain ⟨-, answers⟩ := selectable_planned streetRuns {} ⟨"T", 0⟩ made canonical
  obtain ⟨-, -, -, planned⟩ := (answers ["exp", "city/graph/"] ["prep"]).2 _ resolved
  exact ⟨made, canonical, resolved, planned⟩

end Pipeline

end ArtifactPipeline
