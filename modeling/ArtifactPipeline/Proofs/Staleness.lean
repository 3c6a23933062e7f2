import ArtifactPipeline.Disk.Virtual
import ArtifactPipeline.Freshness
import ArtifactPipeline.Proofs.PlanOrder
import Mathlib.Data.List.Perm.Subperm

set_option autoImplicit false

namespace ArtifactPipeline

namespace Registry

def GlobFree (registry : Registry) : Prop :=
  ∀ node ∈ registry.nodes, ∀ pattern, Prerequisite.glob pattern ∉ node.prerequisites

instance (registry : Registry) : Decidable registry.GlobFree :=
  decidable_of_iff (∀ node ∈ registry.nodes, ∀ prerequisite ∈ node.prerequisites,
      prerequisite.node?.isSome = true) <| by
    refine forall₂_congr fun node _ => ⟨?_, ?_⟩
    · intro named pattern member
      cases named _ member
    · intro globFree prerequisite member
      cases prerequisite with
      | node => rfl
      | glob pattern => exact absurd member (globFree pattern)

def Supplied (registry : Registry) (ids : List NodeId) (disk : VirtualDisk) : Prop :=
  ∀ node, registry.find? node.id = some node → node.id ∈ ids → node.kind = .file →
    ∀ dep ∈ node.nodePrerequisites, registry.contains dep = false → disk.present ⟨dep⟩ = true

end Registry

namespace Freshness

/-- A node has to be built, for one of six reasons. -/
inductive Stale (registry : Registry) (disk : VirtualDisk) : NodeId → Prop where
  | phony {node : Artifact} (found : registry.find? node.id = some node)
      (kind : node.kind = .phony) : Stale registry disk node.id
  | noDirectory {node : Artifact} (found : registry.find? node.id = some node)
      (kind : node.kind = .directory) (missing : disk.isDir node.path = false) :
      Stale registry disk node.id
  | noFile {node : Artifact} (found : registry.find? node.id = some node)
      (kind : node.kind = .file) (missing : disk.mtimeOf node.path = none) :
      Stale registry disk node.id
  | newerSource {node : Artifact} {dep : NodeId} (found : registry.find? node.id = some node)
      (kind : node.kind = .file) (needed : dep ∈ node.nodePrerequisites)
      (unregistered : registry.find? dep = none) (plain : disk.isDir ⟨dep⟩ = false)
      (newer : newerThan (disk.mtimeOf ⟨dep⟩) (disk.mtimeOf node.path) = true) :
      Stale registry disk node.id
  | newerOutput {node dep : Artifact} (found : registry.find? node.id = some node)
      (kind : node.kind = .file) (needed : dep.id ∈ node.nodePrerequisites)
      (registered : registry.find? dep.id = some dep) (depKind : dep.kind = .file)
      (newer : newerThan (disk.mtimeOf dep.path) (disk.mtimeOf node.path) = true) :
      Stale registry disk node.id
  | inherited {node dep : Artifact} (found : registry.find? node.id = some node)
      (kind : node.kind = .file) (needed : dep.id ∈ node.nodePrerequisites)
      (registered : registry.find? dep.id = some dep) (depKind : dep.kind ≠ .directory)
      (stale : Stale registry disk dep.id) :
      Stale registry disk node.id

/-- Whether a prerequisite makes a node dirty that was last written at `own`. `known` decides about
registered ones. -/
def dirtiedBy (registry : Registry) (disk : VirtualDisk) (known : NodeId → Bool) (own : Option Nat)
    (dep : NodeId) : Bool :=
  match registry.find? dep with
  | none => !disk.isDir ⟨dep⟩ && newerThan (disk.mtimeOf ⟨dep⟩) own
  | some prerequisite =>
      match prerequisite.kind with
      | .directory => false
      | .phony => known dep
      | .file => known dep || newerThan (disk.mtimeOf ⟨dep⟩) own

def dirtyGiven (registry : Registry) (disk : VirtualDisk) (known : NodeId → Bool)
    (node : Artifact) : Bool :=
  match node.kind with
  | .phony => true
  | .directory => !disk.isDir node.path
  | .file =>
      (disk.mtimeOf node.path).isNone ||
        node.nodePrerequisites.any (dirtiedBy registry disk known (disk.mtimeOf node.path))

variable {registry : Registry} {disk : VirtualDisk}

open Classical in
theorem stale_iff {node : Artifact} (found : registry.find? node.id = some node) :
    Stale registry disk node.id ↔
      dirtyGiven registry disk (fun id => decide (Stale registry disk id)) node = true := by
  constructor
  -- A ground of staleness is an occasion for dirtiness, constructor by constructor.
  · intro stale
    generalize same : node.id = id at stale
    cases stale with
    | phony otherFound kind =>
        rw [same, otherFound] at found
        cases found
        simp [dirtyGiven, kind]
    | noDirectory otherFound kind missing =>
        rw [same, otherFound] at found
        cases found
        simp [dirtyGiven, kind, missing]
    | noFile otherFound kind missing =>
        rw [same, otherFound] at found
        cases found
        simp [dirtyGiven, kind, missing]
    | newerSource otherFound kind needed unregistered plain newer =>
        rw [same, otherFound] at found
        cases found
        simp only [dirtyGiven, kind, Bool.or_eq_true, List.any_eq_true]
        exact .inr ⟨_, needed, by simp [dirtiedBy, unregistered, plain, newer]⟩
    | newerOutput otherFound kind needed registered depKind newer =>
        rw [same, otherFound] at found
        cases found
        simp only [dirtyGiven, kind, Bool.or_eq_true, List.any_eq_true]
        refine .inr ⟨_, needed, ?_⟩
        simp only [dirtiedBy, registered, depKind, Bool.or_eq_true]
        exact .inr newer
    | @inherited _ dep otherFound kind needed registered depKind stale =>
        rw [same, otherFound] at found
        cases found
        simp only [dirtyGiven, kind, Bool.or_eq_true, List.any_eq_true]
        refine .inr ⟨_, needed, ?_⟩
        cases other : dep.kind with
        | directory => exact absurd other depKind
        | phony => simp [dirtiedBy, registered, other, stale]
        | file => simp [dirtiedBy, registered, other, stale]
  · intro dirty
    cases kind : node.kind with
    | phony => exact .phony found kind
    | directory => exact .noDirectory found kind (by simpa [dirtyGiven, kind] using dirty)
    | file =>
        simp only [dirtyGiven, kind, Bool.or_eq_true, List.any_eq_true,
          Option.isNone_iff_eq_none] at dirty
        rcases dirty with missing | ⟨dep, needed, dirtied⟩
        · exact .noFile found kind missing
        · unfold dirtiedBy at dirtied
          split at dirtied
          · rename_i unregistered
            simp only [Bool.and_eq_true, Bool.not_eq_true'] at dirtied
            exact .newerSource found kind needed unregistered dirtied.1 dirtied.2
          · rename_i prerequisite registered
            have named := Registry.id_of_find? registered
            subst named
            split at dirtied
            · cases dirtied
            · rename_i depKind
              exact .inherited found kind needed registered (by simp [depKind])
                (by simpa using dirtied)
            · rename_i depKind
              rcases Bool.or_eq_true _ _ |>.mp dirtied with stale | newer
              · exact .inherited found kind needed registered (by simp [depKind])
                  (by simpa using stale)
              · exact .newerOutput found kind needed registered depKind newer

theorem modified_eq (disk : VirtualDisk) (path : Path) :
    modified disk path = .ok (disk.mtimeOf path) := rfl

section Asking

variable {known : NodeId → Bool} {Holds : Verdicts → Prop} {ask : Verdicts → Artifact → Ruling}
  {node : Artifact}

theorem prerequisiteRuling_eq (node : Artifact) (own : Option Nat) {verdicts : Verdicts}
    {dep : NodeId}
    (spelled : NodeId.canonical dep = dep)
    (asked : ∀ prerequisite, registry.find? dep = some prerequisite →
      ∃ after, ask verdicts prerequisite = (.ok (known dep), after) ∧ Holds after)
    (supplied : registry.find? dep = none → disk.present ⟨dep⟩ = true) (holds : Holds verdicts) :
    ∃ after, prerequisiteRuling registry disk ask node own verdicts dep =
      (.ok (dirtiedBy registry disk known own dep), after) ∧ Holds after := by
  unfold prerequisiteRuling dirtiedBy
  rw [Registry.get?_eq_find? spelled]
  cases registered : registry.find? dep with
  | none =>
      refine ⟨verdicts, ?_, holds⟩
      obtain ⟨mtime, dated⟩ := Option.isSome_iff_exists.mp (supplied registered)
      simp only [sourceIsNewer, modified_eq, dated]
      rfl
  | some prerequisite =>
      obtain ⟨after, answered, kept⟩ := asked prerequisite registered
      dsimp only
      rw [answered]
      cases prerequisite.kind with
      | directory => exact ⟨after, rfl, kept⟩
      | phony => exact ⟨after, rfl, kept⟩
      | file =>
          refine ⟨after, ?_, kept⟩
          dsimp only
          rw [modified_eq]
          cases known dep <;> rfl

theorem prerequisitesRuling_eq {own : Option Nat} {prerequisites : List Prerequisite}
    (globFree : ∀ pattern, Prerequisite.glob pattern ∉ prerequisites)
    (spelled : ∀ dep, Prerequisite.node dep ∈ prerequisites → NodeId.canonical dep = dep)
    (asked : ∀ dep, Prerequisite.node dep ∈ prerequisites → ∀ prerequisite,
      registry.find? dep = some prerequisite → ∀ verdicts, Holds verdicts →
        ∃ after, ask verdicts prerequisite = (.ok (known dep), after) ∧ Holds after)
    (supplied : ∀ dep, Prerequisite.node dep ∈ prerequisites → registry.find? dep = none →
      disk.present ⟨dep⟩ = true)
    {verdicts : Verdicts} (holds : Holds verdicts) (dirty : Bool) :
    ∃ after, prerequisitesRuling registry disk ask node own verdicts dirty prerequisites =
      (.ok (dirty ||
        (prerequisites.filterMap Prerequisite.node?).any (dirtiedBy registry disk known own)),
        after) ∧ Holds after := by
  -- `Holds` is what the rulings keep of the remembered verdicts on the way.
  induction prerequisites generalizing verdicts dirty with
  | nil => exact ⟨verdicts, by simp [prerequisitesRuling], holds⟩
  | cons prerequisite rest ih =>
      cases prerequisite with
      | glob pattern => exact absurd List.mem_cons_self (globFree pattern)
      | node dep =>
          obtain ⟨between, first, kept⟩ := prerequisiteRuling_eq node own
            (spelled dep (by simp))
            (fun prerequisite registered => asked dep (by simp) prerequisite registered _ holds)
            (supplied dep (by simp)) holds
          obtain ⟨after, others, finally_⟩ := ih
            (fun pattern member => globFree pattern (by simp [member]))
            (fun dep member => spelled dep (by simp [member]))
            (fun dep member => asked dep (by simp [member]))
            (fun dep member => supplied dep (by simp [member])) kept
            (dirty || dirtiedBy registry disk known own dep)
          refine ⟨after, ?_, finally_⟩
          rw [prerequisitesRuling, first]
          dsimp only
          rw [others]
          simp [Prerequisite.node?, Bool.or_assoc]

theorem mem_nodePrerequisites {node : Artifact} {dep : NodeId} :
    dep ∈ node.nodePrerequisites ↔ Prerequisite.node dep ∈ node.prerequisites := by
  unfold Artifact.nodePrerequisites
  rw [List.mem_filterMap]
  constructor
  · rintro ⟨prerequisite, member, same⟩
    cases prerequisite with
    | node id =>
        cases same
        exact member
    | glob pattern => cases same
  · intro member
    exact ⟨_, member, rfl⟩

theorem evaluate_eq (known : NodeId → Bool) (canonical : registry.Canonical)
    (globFree : registry.GlobFree) (found : registry.find? node.id = some node)
    (asked : ∀ prerequisite, node.kind = .file → prerequisite.id ∈ node.nodePrerequisites →
      registry.find? prerequisite.id = some prerequisite → ∀ verdicts, Holds verdicts →
        ∃ after, ask verdicts prerequisite = (.ok (known prerequisite.id), after) ∧ Holds after)
    (supplied : node.kind = .file → ∀ dep ∈ node.nodePrerequisites,
      registry.contains dep = false → disk.present ⟨dep⟩ = true)
    {verdicts : Verdicts} (holds : Holds verdicts) :
    ∃ after, evaluate registry disk ask verdicts node =
      (.ok (dirtyGiven registry disk known node), after) ∧ Holds after := by
  unfold evaluate dirtyGiven
  cases kind : node.kind with
  | phony => exact ⟨verdicts, rfl, holds⟩
  | directory => exact ⟨verdicts, rfl, holds⟩
  | file =>
      have member := Registry.mem_of_find? found
      have spelled : ∀ dep, Prerequisite.node dep ∈ node.prerequisites →
          NodeId.canonical dep = dep := fun dep needed =>
        canonical.prerequisites node member dep (mem_nodePrerequisites.mpr needed)
      dsimp only
      rw [modified_eq]
      refine prerequisitesRuling_eq (globFree node member) spelled ?_ ?_ holds _
      · intro dep needed prerequisite registered between still
        have named := Registry.id_of_find? registered
        subst named
        exact asked prerequisite kind (mem_nodePrerequisites.mpr needed) registered between still
      · intro dep needed unregistered
        have missing : registry.contains dep = false := by
          rw [Registry.contains, Registry.get?_eq_find? (spelled dep needed), unregistered]
          rfl
        exact supplied kind dep (mem_nodePrerequisites.mpr needed) missing

end Asking

end Freshness

namespace Verdicts

open Freshness

variable {registry : Registry} {disk : VirtualDisk} {verdicts : Verdicts}

theorem get?_record (verdicts : Verdicts) (id other : NodeId) (dirty : Bool) :
    (verdicts.record id dirty).get? other =
      (verdicts.get? other).or (if other = id then some dirty else Option.none) := by
  simp only [get?, record, List.lookup_append, List.lookup_cons, List.lookup_nil]
  by_cases same : other = id
  · simp [same]
  · simp [same, beq_eq_false_iff_ne.2 same]

def Right (registry : Registry) (disk : VirtualDisk) (verdicts : Verdicts) : Prop :=
  ∀ id dirty, verdicts.get? id = some dirty → (dirty = true ↔ Stale registry disk id)

theorem right_none (registry : Registry) (disk : VirtualDisk) :
    none.Right registry disk := by
  intro id dirty decided
  cases decided

theorem Right.record (right : verdicts.Right registry disk) {id : NodeId} {dirty : Bool}
    (about : dirty = true ↔ Stale registry disk id) :
    (verdicts.record id dirty).Right registry disk := by
  intro other answer decided
  rw [get?_record] at decided
  cases earlier : verdicts.get? other with
  | some known =>
      rw [earlier] at decided
      cases decided
      exact right other answer earlier
  | none =>
      rw [earlier] at decided
      by_cases same : other = id
      · subst same
        simp only [if_true, Option.none_or, Option.some.injEq] at decided
        rw [← decided]
        exact about
      · simp [same] at decided

end Verdicts

namespace Freshness

variable {registry : Registry} {disk : VirtualDisk}

open Classical in
theorem ruling_right (canonical : registry.Canonical) (globFree : registry.GlobFree)
    {order : List NodeId} (ordered : Plan.Ordered registry order)
    (supplied : registry.Supplied order disk) {node : Artifact}
    (found : registry.find? node.id = some node) (member : node.id ∈ order) {depth : Nat}
    (deep : order.length ≤ depth) {underway : List NodeId}
    (apart : ∀ id ∈ underway, id ∉ order) {verdicts : Verdicts}
    (right : verdicts.Right registry disk) :
    ∃ after, ruling registry disk depth underway verdicts node =
      (.ok (decide (Stale registry disk node.id)), after) ∧
        after.Right registry disk := by
  -- Induction on the order: the prerequisites of a node stand before it, so that they are
  -- evaluated one level deeper and are not underway.
  induction ordered generalizing node depth underway verdicts with
  | nil => cases member
  | @snoc order last ordered lastFound fresh closed ih =>
      have suppliedEarlier : registry.Supplied order disk :=
        fun other otherFound inOrder => supplied other otherFound (by simp [inOrder])
      have shorter : order.length + 1 ≤ depth := by simpa using deep
      rcases List.mem_append.mp member with earlier | isLast
      · exact ih suppliedEarlier found earlier (by omega)
          (fun id under inOrder => apart id under (by simp [inOrder])) right
      · have named : node.id = last.id := List.mem_singleton.mp isLast
        rw [named, lastFound] at found
        cases found
        unfold ruling
        cases decided : verdicts.get? last.id with
        | some dirty =>
            have about := right _ _ decided
            refine ⟨verdicts, ?_, right⟩
            rw [Prod.mk.injEq, Except.ok.injEq, Bool.eq_iff_iff, decide_eq_true_iff]
            exact ⟨about, rfl⟩
        | none =>
            have outside : last.id ∉ underway := fun under => apart _ under (by simp)
            obtain ⟨deeper, rfl⟩ : ∃ deeper, depth = deeper + 1 := ⟨depth - 1, by omega⟩
            have asked : ∀ prerequisite, last.kind = .file →
                prerequisite.id ∈ last.nodePrerequisites →
                registry.find? prerequisite.id = some prerequisite →
                ∀ between, between.Right registry disk →
                  ∃ after, ruling registry disk deeper (last.id :: underway) between prerequisite =
                    (.ok (decide (Stale registry disk prerequisite.id)), after) ∧
                      after.Right registry disk := by
              intro prerequisite _ needed registered between still
              have known : registry.contains prerequisite.id = true :=
                (Registry.contains_iff (canonical.found registered)).mpr ⟨_, registered⟩
              have before : prerequisite.id ∈ order := closed _ needed known
              refine ih suppliedEarlier registered before (by omega) ?_ still
              intro id under inOrder
              rcases List.mem_cons.mp under with rfl | above
              · exact fresh inOrder
              · exact apart id above (by simp [inOrder])
            obtain ⟨after, answered, kept⟩ :=
              evaluate_eq (fun id => decide (Stale registry disk id)) canonical globFree lastFound
                asked (supplied last lastFound (by simp)) right
            have about : dirtyGiven registry disk (fun id => decide (Stale registry disk id)) last =
                decide (Stale registry disk last.id) := by
              rw [Bool.eq_iff_iff, decide_eq_true_iff]
              exact (stale_iff lastFound).symm
            have recorded : (after.record last.id
                (decide (Stale registry disk last.id))).Right registry disk :=
              kept.record decide_eq_true_iff
            refine ⟨_, ?_, recorded⟩
            simp only [outside, if_false, answered, about]

open Classical in
theorem isDirty_planned (canonical : registry.Canonical) (globFree : registry.GlobFree)
    {order : List NodeId} (ordered : Plan.Ordered registry order)
    (supplied : registry.Supplied order disk) {id : NodeId} (planned : id ∈ order)
    {verdicts : Verdicts} (right : verdicts.Right registry disk) :
    ∃ after, isDirty registry disk verdicts id = (.ok (decide (Stale registry disk id)), after) ∧
      after.Right registry disk := by
  obtain ⟨node, found, named⟩ := ordered.registered planned
  subst named
  have resolved := Registry.resolve_of_find? (canonical.found found) found
  have deep : order.length ≤ registry.size := by
    have inside : order ⊆ registry.ids := by
      intro other member
      obtain ⟨owner, ownerFound, rfl⟩ := ordered.registered member
      exact List.mem_map_of_mem (Registry.mem_of_find? ownerFound)
    have bound := (List.Nodup.subperm ordered.nodup inside).length_le
    simpa [Registry.size, Registry.ids] using bound
  rw [isDirty, resolved]
  exact ruling_right canonical globFree ordered supplied found planned deep (by simp) right

/-- In the course of a run the registered prerequisites of a node have been decided before the
node itself, and nothing else is. -/
theorem isDirty_next (canonical : registry.Canonical) (globFree : registry.GlobFree)
    {node : Artifact} (found : registry.find? node.id = some node) {verdicts : Verdicts}
    (undecided : verdicts.get? node.id = none) (known : NodeId → Bool)
    (decided : ∀ dep ∈ node.nodePrerequisites, registry.contains dep = true →
      verdicts.get? dep = some (known dep))
    (supplied : node.kind = .file → ∀ dep ∈ node.nodePrerequisites,
      registry.contains dep = false → disk.present ⟨dep⟩ = true) :
    isDirty registry disk verdicts node.id =
      (.ok (dirtyGiven registry disk known node),
        verdicts.record node.id (dirtyGiven registry disk known node)) := by
  have resolved := Registry.resolve_of_find? (canonical.found found) found
  obtain ⟨deeper, size⟩ : ∃ deeper, registry.size = deeper + 1 := by
    have filled : 0 < registry.size := List.length_pos_of_mem (Registry.mem_of_find? found)
    exact ⟨registry.size - 1, by omega⟩
  -- No recursion is needed: every registered prerequisite is remembered.
  have asked : ∀ prerequisite, node.kind = .file → prerequisite.id ∈ node.nodePrerequisites →
      registry.find? prerequisite.id = some prerequisite → ∀ between, between = verdicts →
        ∃ after, ruling registry disk deeper [node.id] between prerequisite =
          (.ok (known prerequisite.id), after) ∧ after = verdicts := by
    rintro prerequisite _ needed registered _ rfl
    have contained : registry.contains prerequisite.id = true :=
      (Registry.contains_iff (canonical.found registered)).mpr ⟨_, registered⟩
    refine ⟨_, ?_, rfl⟩
    unfold ruling
    rw [decided _ needed contained]
  obtain ⟨after, answered, rfl⟩ :=
    evaluate_eq known canonical globFree found asked supplied rfl
  rw [isDirty, resolved]
  dsimp only
  rw [size, ruling, undecided]
  simp only [List.not_mem_nil, if_false, answered]

theorem present_of_prerequisitesRuling {ask : Verdicts → Artifact → Ruling} {node : Artifact}
    {own : Option Nat} {prerequisites : List Prerequisite} {verdicts after : Verdicts}
    {dirty answer : Bool}
    (ruled : prerequisitesRuling registry disk ask node own verdicts dirty prerequisites =
      (.ok answer, after)) {dep : NodeId} (needed : Prerequisite.node dep ∈ prerequisites)
    (unregistered : registry.get? dep = none) : disk.present ⟨dep⟩ = true := by
  induction prerequisites generalizing verdicts dirty with
  | nil => cases needed
  | cons prerequisite rest ih =>
      cases prerequisite with
      | glob pattern =>
          have later : Prerequisite.node dep ∈ rest := by simpa using needed
          unfold prerequisitesRuling at ruled
          split at ruled
          · cases ruled
          · split at ruled
            · cases ruled
            · exact ih ruled later
      | node id =>
          unfold prerequisitesRuling at ruled
          split at ruled
          · cases ruled
          · rename_i now between first
            rcases List.mem_cons.mp needed with same | later
            · cases same
              unfold prerequisiteRuling at first
              rw [unregistered] at first
              simp only [Prod.mk.injEq, sourceIsNewer, modified_eq] at first
              rw [VirtualDisk.present, Option.isSome_iff_ne_none]
              intro missing
              rw [missing] at first
              cases first.1
            · exact ih ruled later

theorem present_of_isDirty (canonical : registry.Canonical) {node : Artifact}
    (found : registry.find? node.id = some node) {verdicts after : Verdicts}
    (undecided : verdicts.get? node.id = none) {dirty : Bool}
    (answer : isDirty registry disk verdicts node.id = (.ok dirty, after))
    (kind : node.kind = .file) {dep : NodeId} (needed : dep ∈ node.nodePrerequisites)
    (unregistered : registry.contains dep = false) : disk.present ⟨dep⟩ = true := by
  have missing : registry.get? dep = none := by simpa [Registry.contains] using unregistered
  have resolved := Registry.resolve_of_find? (canonical.found found) found
  rw [isDirty, resolved] at answer
  dsimp only at answer
  unfold ruling at answer
  simp only [undecided, List.not_mem_nil, if_false] at answer
  split at answer
  · cases answer
  · split at answer
    · cases answer
    · rename_i evaluated
      simp only [evaluate, kind, modified_eq] at evaluated
      exact present_of_prerequisitesRuling evaluated (mem_nodePrerequisites.mp needed) missing

end Freshness

end ArtifactPipeline
