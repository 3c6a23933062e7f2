import ArtifactPipeline.Proofs.PlanOrder
import Mathlib.Data.List.Chain
import Mathlib.Data.List.Perm.Subperm
import Mathlib.Logic.Relation

set_option autoImplicit false

namespace ArtifactPipeline

open Relation (ReflTransGen TransGen)

def Preceded {α : Type} (needs : α → α → Prop) (list : List α) : Prop :=
  ∀ front entry back, list = front ++ entry :: back → ∀ other, needs entry other → other ∈ front

theorem Preceded.front {α : Type} {needs : α → α → Prop} {list : List α}
    (preceded : Preceded needs list) {front back : List α} {entry other : α}
    (split : list = front ++ entry :: back) (path : TransGen needs entry other) :
    other ∈ front := by
  induction path with
  | single step => exact preceded front entry back split _ step
  | tail _ step ih =>
      obtain ⟨left, right, rfl⟩ := List.append_of_mem ih
      rw [List.append_assoc, List.cons_append] at split
      exact List.mem_append_left _ (preceded left _ _ split _ step)

theorem Preceded.acyclic {α : Type} {needs : α → α → Prop} {list : List α}
    (preceded : Preceded needs list) (distinct : list.Nodup) {entry : α} (member : entry ∈ list) :
    ¬TransGen needs entry entry := by
  intro cycle
  obtain ⟨front, back, rfl⟩ := List.append_of_mem member
  have apart := (List.nodup_append.mp distinct).2.2
  exact apart entry (preceded.front rfl cycle) entry (by simp) rfl

namespace Registry

def Requires (registry : Registry) (id dep : NodeId) : Prop :=
  ∃ node, registry.find? id = some node ∧ dep ∈ node.nodePrerequisites ∧
    registry.contains dep = true

def OnCycle (registry : Registry) (id : NodeId) : Prop :=
  TransGen registry.Requires id id

def Needed (registry : Registry) (targets : List String) (id : NodeId) : Prop :=
  ∃ target ∈ targets, ReflTransGen registry.Requires (NodeId.canonical target) id

def firstUnknown? (registry : Registry) (targets : List String) : Option NodeId :=
  (targets.find? fun target => !registry.contains target).map NodeId.canonical

structure Returns (registry : Registry) (trail : List NodeId) : Prop where
  walked : trail.IsChain registry.Requires
  back : ∃ front last, trail = front ++ [last] ∧ last ∈ front

theorem Requires.found {registry : Registry} (canonical : registry.Canonical) {id dep : NodeId}
    (requires : registry.Requires id dep) : ∃ node, registry.find? dep = some node := by
  obtain ⟨node, found, needed, registered⟩ := requires
  exact (contains_iff (canonical.prerequisites node (mem_of_find? found) dep needed)).mp registered

theorem transGen_of_isChain {α : Type} {follows : α → α → Prop} {first last : α} {between : List α}
    (chain : (first :: (between ++ [last])).IsChain follows) : TransGen follows first last := by
  induction between generalizing first with
  | nil => exact .single (List.isChain_pair.mp chain)
  | cons next rest ih =>
      have head := List.isChain_cons_cons.mp chain
      exact .head head.1 (ih head.2)

theorem Returns.onCycle {registry : Registry} {trail : List NodeId}
    (returns : registry.Returns trail) :
    ∃ id, registry.OnCycle id ∧
      ∀ first ∈ trail.head?, ReflTransGen registry.Requires first id := by
  obtain ⟨front, last, rfl, before⟩ := returns.back
  obtain ⟨early, late, rfl⟩ := List.append_of_mem before
  have walked := returns.walked
  rw [List.append_assoc, List.cons_append] at walked
  obtain ⟨lead, loop⟩ := List.isChain_split.mp walked
  refine ⟨last, transGen_of_isChain loop, ?_⟩
  intro first starts
  cases early with
  | nil => cases starts; exact .refl
  | cons head rest =>
      cases starts
      exact (transGen_of_isChain lead).to_reflTransGen

theorem mem_ids_of_find? {registry : Registry} {id : NodeId} {node : Artifact}
    (found : registry.find? id = some node) : id ∈ registry.ids := by
  rw [← id_of_find? found]
  exact List.mem_map_of_mem (mem_of_find? found)

theorem contains_of_firstUnknown? {registry : Registry} {targets : List String}
    (known : registry.firstUnknown? targets = none) {target : String} (wanted : target ∈ targets) :
    registry.contains target = true := by
  have none := Option.map_eq_none_iff.mp known
  simpa using List.find?_eq_none.mp none target wanted

theorem find?_of_contains {registry : Registry} {target : String}
    (registered : registry.contains target = true) :
    ∃ node, registry.find? (NodeId.canonical target) = some node :=
  Option.isSome_iff_exists.mp registered

end Registry

namespace Plan

variable {registry : Registry}

theorem Ordered.preceded {order : List NodeId} (ordered : Ordered registry order) :
    Preceded registry.Requires order := by
  intro front id back split dep requires
  obtain ⟨node, found, needed, registered⟩ := requires
  rw [← Registry.id_of_find? found] at split found
  exact ordered.earlier split found needed registered

theorem Ordered.reached {order : List NodeId} (ordered : Ordered registry order) {id dep : NodeId}
    (member : id ∈ order) (leads : ReflTransGen registry.Requires id dep) : dep ∈ order := by
  rcases Relation.reflTransGen_iff_eq_or_transGen.mp leads with rfl | needs
  · exact member
  · obtain ⟨done, rest, rfl⟩ := List.append_of_mem member
    exact List.mem_append_left _ (ordered.preceded.front rfl needs)

/-- The nodes that wait for `id`: registered, no two the same, each led on to the next by a
prerequisite. -/
structure Route (registry : Registry) (trail : List NodeId) (id : NodeId) : Prop where
  nodup : trail.Nodup
  registered : trail ⊆ registry.ids
  walked : (trail ++ [id]).IsChain registry.Requires

theorem Route.start (id : NodeId) : Route registry [] id where
  nodup := List.nodup_nil
  registered := List.nil_subset _
  walked := List.isChain_singleton id

theorem Route.extend {trail : List NodeId} {id dep : NodeId} (route : Route registry trail id)
    {node : Artifact} (found : registry.find? id = some node) (fresh : id ∉ trail)
    (requires : registry.Requires id dep) : Route registry (trail ++ [id]) dep where
  nodup := List.nodup_append.mpr ⟨route.nodup, List.nodup_singleton id, by
    intro other member last same
    rw [List.mem_singleton.mp same]
    rintro rfl
    exact fresh member⟩
  registered := by
    intro other member
    rcases List.mem_append.mp member with earlier | last
    · exact route.registered earlier
    · rw [List.mem_singleton.mp last]
      exact Registry.mem_ids_of_find? found
  walked := by
    rw [List.append_assoc]
    exact List.isChain_append_cons_cons.mpr
      ⟨route.walked, requires, List.isChain_singleton dep⟩

theorem Route.depth_pos {trail : List NodeId} {id : NodeId} (route : Route registry trail id)
    {node : Artifact} (found : registry.find? id = some node) (fresh : id ∉ trail) {depth : Nat}
    (deep : registry.size ≤ depth + trail.length) : 0 < depth := by
  -- The trail and `id` are different nodes of the registry, so it has more nodes than the trail.
  have distinct : (id :: trail).Nodup := List.nodup_cons.mpr ⟨fresh, route.nodup⟩
  have inside : (id :: trail) ⊆ registry.ids :=
    List.cons_subset.mpr ⟨Registry.mem_ids_of_find? found, route.registered⟩
  have short := (distinct.subperm inside).length_le
  rw [List.length_cons, Registry.ids, List.length_map] at short
  unfold Registry.size at deep
  omega

/-- The three things a visit can meet: a planned node, a node that waits on the trail, and a new
one, which is entered. -/
inductive Visit (registry : Registry) (trail : List NodeId) (plan : Plan) (node : Artifact) :
    Prop where
  | planned (member : node.id ∈ plan.order)
      (visited : ∀ depth, visit registry depth trail plan node.id = .ok plan)
  | cyclic (waits : node.id ∈ trail)
      (visited : ∀ depth, visit registry depth trail plan node.id =
        .error (.cyclicPlan (trail ++ [node.id])))
  | entered (states : NodeStates) (fresh : node.id ∉ trail)
      (underway : Underway registry (trail ++ [node.id]) { plan with states })
      (exhausted : visit registry 0 trail plan node.id =
        .error (.cyclicPlan (trail ++ [node.id])))
      (visited : ∀ depth, visit registry (depth + 1) trail plan node.id =
        match (node.nodePrerequisites.filter registry.contains).foldlM
            (visit registry depth (trail ++ [node.id])) { plan with states } with
        | .error failure => .error failure
        | .ok plan =>
            .ok (plan.settle node.id (node.nodePrerequisites.filter registry.contains)))

theorem visit_meets (canonical : registry.Canonical) {trail : List NodeId} {plan : Plan}
    (underway : Underway registry trail plan) {node : Artifact}
    (found : registry.find? node.id = some node) : Visit registry trail plan node := by
  by_cases member : node.id ∈ plan.order
  · refine .planned member ?_
    intro depth
    unfold visit
    rw [if_pos member]
  by_cases waits : node.id ∈ trail
  · have evaluating : plan.states.get node.id = .evaluating := by
      rw [underway.states, if_pos (.inr waits)]
    refine .cyclic waits ?_
    intro depth
    unfold visit
    rw [if_neg member, if_pos evaluating]
  · have unvisited : plan.states.get node.id = .unvisited := by
      rw [underway.states, if_neg (by tauto)]
    have moved : plan.states.transition node.id .evaluating =
        .ok (plan.states.set node.id .evaluating) := by
      unfold NodeStates.transition
      rw [unvisited]
      rfl
    have resolved := Registry.resolve_of_find? (canonical.found found) found
    refine .entered _ waits (underway.enter moved) ?_ ?_
    · unfold visit
      rw [if_neg member, unvisited, if_neg (by decide), resolved]
      dsimp only
      rw [moved]
    · intro depth
      conv => lhs; unfold visit
      rw [if_neg member, unvisited, if_neg (by decide), resolved]
      dsimp only
      generalize plan.states.transition node.id .evaluating = entered at moved ⊢
      subst moved
      rfl

section Folding

variable {Holds : Plan → Prop} {step : Plan → NodeId → Except Failure Plan} {ids : List NodeId}

theorem foldlM_error
    (kept : ∀ plan, ∀ id ∈ ids, ∀ next, Holds plan → step plan id = .ok next → Holds next)
    {plan : Plan} (holds : Holds plan) {failure : Failure}
    (failed : ids.foldlM step plan = .error failure) :
    ∃ id ∈ ids, ∃ before, Holds before ∧ step before id = .error failure := by
  induction ids generalizing plan with
  | nil => cases failed
  | cons id rest ih =>
      rw [List.foldlM_cons] at failed
      cases first : step plan id with
      | error other =>
          rw [first] at failed
          cases failed
          exact ⟨id, by simp, plan, holds, first⟩
      | ok next =>
          rw [first] at failed
          obtain ⟨other, later, reached⟩ := ih
            (fun plan other member => kept plan other (List.mem_cons_of_mem _ member))
            (kept plan id (by simp) next holds first) failed
          exact ⟨other, List.mem_cons_of_mem _ later, reached⟩

theorem foldlM_congr (other : Plan → NodeId → Except Failure Plan)
    (kept : ∀ plan, ∀ id ∈ ids, ∀ next, Holds plan → step plan id = .ok next → Holds next)
    (same : ∀ plan, ∀ id ∈ ids, Holds plan → step plan id = other plan id)
    {plan : Plan} (holds : Holds plan) : ids.foldlM step plan = ids.foldlM other plan := by
  induction ids generalizing plan with
  | nil => rfl
  | cons id rest ih =>
      rw [List.foldlM_cons, List.foldlM_cons, ← same plan id (by simp) holds]
      cases first : step plan id with
      | error failure => rfl
      | ok next =>
          exact ih (fun plan other member => kept plan other (List.mem_cons_of_mem _ member))
            (fun plan other member => same plan other (List.mem_cons_of_mem _ member))
            (kept plan id (by simp) next holds first)

end Folding

theorem requires_of_mem {node : Artifact} (found : registry.find? node.id = some node)
    {dep : NodeId} (member : dep ∈ node.nodePrerequisites.filter registry.contains) :
    registry.Requires node.id dep :=
  ⟨node, found, (List.mem_filter.mp member).1, (List.mem_filter.mp member).2⟩

theorem found_of_mem (canonical : registry.Canonical) {node : Artifact}
    (found : registry.find? node.id = some node) :
    ∀ dep ∈ node.nodePrerequisites.filter registry.contains,
      ∃ other, registry.find? dep = some other :=
  fun _ member => (requires_of_mem found member).found canonical

theorem visit_kept (canonical : registry.Canonical) (depth : Nat) {trail ids : List NodeId}
    (known : ∀ id ∈ ids, ∃ node, registry.find? id = some node) (plan : Plan) (id : NodeId)
    (member : id ∈ ids) (next : Plan) (underway : Underway registry trail plan)
    (visited : visit registry depth trail plan id = .ok next) : Underway registry trail next := by
  obtain ⟨node, found⟩ := known id member
  exact (visit_underway canonical depth underway (canonical.found found) visited).1

theorem visit_error (canonical : registry.Canonical) (depth : Nat) {trail : List NodeId}
    {plan : Plan} {id : NodeId} {failure : Failure} (underway : Underway registry trail plan)
    (route : Route registry trail id) (known : ∃ node, registry.find? id = some node)
    (deep : registry.size ≤ depth + trail.length)
    (failed : visit registry depth trail plan id = .error failure) :
    ∃ loop, failure = .cyclicPlan loop ∧ (trail ++ [id]) <+: loop ∧ registry.Returns loop := by
  induction depth generalizing trail plan id with
  | zero =>
      obtain ⟨node, found⟩ := known
      obtain rfl := Registry.id_of_find? found
      rcases visit_meets canonical underway found with
        ⟨-, visited⟩ | ⟨waits, visited⟩ | ⟨states, fresh, -, -, -⟩
      · rw [visited] at failed
        cases failed
      · rw [visited] at failed
        cases failed
        exact ⟨_, rfl, List.prefix_refl _, route.walked, trail, node.id, rfl, waits⟩
      · exact absurd (route.depth_pos found fresh deep) (Nat.lt_irrefl 0)
  | succ depth ih =>
      obtain ⟨node, found⟩ := known
      obtain rfl := Registry.id_of_find? found
      rcases visit_meets canonical underway found with
        ⟨-, visited⟩ | ⟨waits, visited⟩ | ⟨states, fresh, entered, -, visited⟩
      · rw [visited] at failed
        cases failed
      · rw [visited] at failed
        cases failed
        exact ⟨_, rfl, List.prefix_refl _, route.walked, trail, node.id, rfl, waits⟩
      · rw [visited] at failed
        split at failed
        · rename_i inner folded
          cases failed
          -- The loop is the one that some prerequisite was refused for.
          have registered := found_of_mem canonical found
          obtain ⟨dep, member, before, reached, broke⟩ :=
            foldlM_error (visit_kept canonical depth registered) entered folded
          have onward := route.extend found fresh (requires_of_mem found member)
          obtain ⟨loop, named, leads, returns⟩ :=
            ih reached onward (registered dep member) (by simp; omega) broke
          exact ⟨loop, named, (List.prefix_append _ _).trans leads, returns⟩
        · cases failed

theorem visit_deeper (canonical : registry.Canonical) (depth : Nat) {trail : List NodeId}
    {plan : Plan} {id : NodeId} (underway : Underway registry trail plan)
    (route : Route registry trail id) (known : ∃ node, registry.find? id = some node)
    (deep : registry.size ≤ depth + trail.length) :
    visit registry depth trail plan id = visit registry (depth + 1) trail plan id := by
  induction depth generalizing trail plan id with
  | zero =>
      obtain ⟨node, found⟩ := known
      obtain rfl := Registry.id_of_find? found
      rcases visit_meets canonical underway found with
        ⟨-, visited⟩ | ⟨-, visited⟩ | ⟨-, fresh, -, -, -⟩
      · rw [visited, visited]
      · rw [visited, visited]
      · exact absurd (route.depth_pos found fresh deep) (Nat.lt_irrefl 0)
  | succ depth ih =>
      obtain ⟨node, found⟩ := known
      obtain rfl := Registry.id_of_find? found
      rcases visit_meets canonical underway found with
        ⟨-, visited⟩ | ⟨-, visited⟩ | ⟨states, fresh, entered, -, visited⟩
      · rw [visited, visited]
      · rw [visited, visited]
      · -- One more node is on the trail and one step less is left, so `ih` is about the same sum.
        have registered := found_of_mem canonical found
        have same := foldlM_congr (visit registry (depth + 1) (trail ++ [node.id]))
          (visit_kept canonical depth registered)
          (fun plan dep member before => ih before
            (route.extend found fresh (requires_of_mem found member)) (registered dep member)
            (by simp; omega)) entered
        rw [visited, visited, same]

structure Adds (registry : Registry) (source : NodeId → Prop) (before after : Plan)
    (added : List NodeId) : Prop where
  order : after.order = before.order ++ added
  deps : after.deps.map Prod.fst = added.reverse ++ before.deps.map Prod.fst
  reached : ∀ id ∈ added, ∃ first, source first ∧ ReflTransGen registry.Requires first id

theorem Adds.refl (source : NodeId → Prop) (plan : Plan) : Adds registry source plan plan [] where
  order := by simp
  deps := rfl
  reached := by intro id member; cases member

theorem Adds.trans {source : NodeId → Prop} {first second third : Plan} {left right : List NodeId}
    (before : Adds registry source first second left)
    (after : Adds registry source second third right) :
    Adds registry source first third (left ++ right) where
  order := by rw [after.order, before.order, List.append_assoc]
  deps := by rw [after.deps, before.deps, List.reverse_append, List.append_assoc]
  reached := by
    intro id member
    rcases List.mem_append.mp member with earlier | later
    · exact before.reached id earlier
    · exact after.reached id later

theorem Adds.from {source other : NodeId → Prop} {before after : Plan} {added : List NodeId}
    (adds : Adds registry source before after added)
    (leads : ∀ id, source id → ∃ first, other first ∧ ReflTransGen registry.Requires first id) :
    Adds registry other before after added where
  order := adds.order
  deps := adds.deps
  reached := by
    intro id member
    obtain ⟨start, given, path⟩ := adds.reached id member
    obtain ⟨first, given, lead⟩ := leads start given
    exact ⟨first, given, lead.trans path⟩

theorem foldlM_adds {Holds : Plan → Prop} {step : Plan → NodeId → Except Failure Plan}
    {ids : List NodeId}
    (kept : ∀ plan, ∀ id ∈ ids, ∀ next, Holds plan → step plan id = .ok next → Holds next)
    (visited : ∀ plan, ∀ id ∈ ids, ∀ next, Holds plan → step plan id = .ok next →
      ∃ added, Adds registry (· = id) plan next added)
    {plan result : Plan} (holds : Holds plan) (folded : ids.foldlM step plan = .ok result) :
    ∃ added, Adds registry (· ∈ ids) plan result added := by
  induction ids generalizing plan with
  | nil => cases folded; exact ⟨[], .refl _ result⟩
  | cons id rest ih =>
      rw [List.foldlM_cons] at folded
      cases first : step plan id with
      | error failure => rw [first] at folded; cases folded
      | ok next =>
          rw [first] at folded
          obtain ⟨left, head⟩ := visited plan id (by simp) next holds first
          obtain ⟨right, tail⟩ := ih
            (fun plan other member => kept plan other (List.mem_cons_of_mem _ member))
            (fun plan other member => visited plan other (List.mem_cons_of_mem _ member))
            (kept plan id (by simp) next holds first) folded
          refine ⟨left ++ right, .trans (head.from ?_) (tail.from ?_)⟩
          · rintro other rfl
            exact ⟨other, by simp, .refl⟩
          · intro other member
            exact ⟨other, List.mem_cons_of_mem _ member, .refl⟩

theorem visit_adds (canonical : registry.Canonical) (depth : Nat) {trail : List NodeId}
    {plan result : Plan} {id : NodeId} (underway : Underway registry trail plan)
    (known : ∃ node, registry.find? id = some node)
    (visited : visit registry depth trail plan id = .ok result) :
    ∃ added, Adds registry (· = id) plan result added := by
  induction depth generalizing trail plan id result with
  | zero =>
      obtain ⟨node, found⟩ := known
      obtain rfl := Registry.id_of_find? found
      rcases visit_meets canonical underway found with
        ⟨-, ends⟩ | ⟨-, ends⟩ | ⟨-, -, -, ends, -⟩
      · rw [ends] at visited
        cases visited
        exact ⟨[], .refl _ plan⟩
      · rw [ends] at visited
        cases visited
      · rw [ends] at visited
        cases visited
  | succ depth ih =>
      obtain ⟨node, found⟩ := known
      obtain rfl := Registry.id_of_find? found
      rcases visit_meets canonical underway found with
        ⟨-, ends⟩ | ⟨-, ends⟩ | ⟨states, fresh, entered, -, ends⟩
      · rw [ends] at visited
        cases visited
        exact ⟨[], .refl _ plan⟩
      · rw [ends] at visited
        cases visited
      · rw [ends] at visited
        split at visited
        · cases visited
        · rename_i prepared folded
          cases visited
          -- The node itself comes after all that its prerequisites add.
          have registered := found_of_mem canonical found
          obtain ⟨added, adds⟩ := foldlM_adds (visit_kept canonical depth registered)
            (fun plan dep member next before step => ih before (registered dep member) step)
            entered folded
          refine ⟨added ++ [node.id], ?_, ?_, ?_⟩
          · simp [settle, adds.order]
          · simp [settle, adds.deps]
          · intro id member
            rcases List.mem_append.mp member with below | last
            · obtain ⟨dep, needed, path⟩ := adds.reached id below
              exact ⟨node.id, rfl, .head (requires_of_mem found needed) path⟩
            · exact ⟨node.id, rfl, by rw [List.mem_singleton.mp last]⟩

structure Describes (registry : Registry) (targets : List String) (plan : Plan) : Prop where
  nodup : plan.order.Nodup
  planned : ∀ id, id ∈ plan.order ↔ registry.Needed targets id
  preceded : Preceded registry.Requires plan.order
  deps : ∀ id, plan.deps.lookup id =
    if id ∈ plan.order then
      (registry.find? id).map fun node => node.nodePrerequisites.filter registry.contains
    else none
  states : ∀ id, plan.states.get id = if id ∈ plan.order then .evaluating else .unvisited

theorem checkTargets_eq (targets : List String) : checkTargets registry targets =
    match registry.firstUnknown? targets with
    | some id => .error (.unknownTarget id)
    | none => .ok () := by
  unfold Registry.firstUnknown?
  induction targets with
  | nil => rfl
  | cons target rest ih =>
      unfold checkTargets Registry.resolve
      cases found : registry.get? target with
      | none => simp [Registry.contains, found]
      | some node => simpa [Registry.contains, found] using ih

theorem make_eq (targets : List String) : make registry targets =
    match registry.firstUnknown? targets with
    | some id => .error (.unknownTarget id)
    | none => (targets.map NodeId.canonical).foldlM (visit registry registry.size []) empty := by
  unfold make
  rw [checkTargets_eq]
  cases registry.firstUnknown? targets <;> rfl

theorem mem_targets {targets : List String} (known : registry.firstUnknown? targets = none) :
    ∀ id ∈ targets.map NodeId.canonical, ∃ node, registry.find? id = some node := by
  intro id member
  obtain ⟨target, wanted, rfl⟩ := List.mem_map.mp member
  exact Registry.find?_of_contains (Registry.contains_of_firstUnknown? known wanted)

theorem make_error (canonical : registry.Canonical) {targets : List String} {failure : Failure}
    (known : registry.firstUnknown? targets = none)
    (failed : make registry targets = .error failure) :
    ∃ trail, failure = .cyclicPlan trail ∧ registry.Returns trail ∧
      ∃ target ∈ targets, trail.head? = some (NodeId.canonical target) := by
  rw [make_eq, known] at failed
  obtain ⟨id, member, before, underway, broke⟩ :=
    foldlM_error (visit_kept canonical registry.size (mem_targets known))
      (underway_empty registry) failed
  obtain ⟨trail, named, leads, returns⟩ := visit_error canonical registry.size underway
    (.start id) (mem_targets known id member) (Nat.le_add_right _ _) broke
  obtain ⟨target, wanted, rfl⟩ := List.mem_map.mp member
  obtain ⟨rest, rfl⟩ := leads
  exact ⟨_, named, returns, target, wanted, rfl⟩

theorem make_describes (canonical : registry.Canonical) {targets : List String} {plan : Plan}
    (made : make registry targets = .ok plan) : plan.Describes registry targets := by
  have sound := make_sound canonical made
  rw [make_eq] at made
  cases known : registry.firstUnknown? targets with
  | some id => rw [known] at made; cases made
  | none =>
      rw [known] at made
      have listed := (foldlM_visit_underway
        (fun _ _ _ before spelled step => visit_underway canonical _ before spelled step)
        (fun id member => by
          obtain ⟨node, found⟩ := mem_targets known id member
          exact canonical.found found) (underway_empty registry) made).2.1
      obtain ⟨added, adds⟩ := foldlM_adds
        (visit_kept canonical registry.size (mem_targets known))
        (fun plan id member next underway step =>
          visit_adds canonical _ underway (mem_targets known id member) step)
        (underway_empty registry) made
      refine ⟨sound.nodup, ?_, sound.ordered.preceded, ?_, sound.states_get⟩
      · intro id
        constructor
        · intro member
          rw [adds.order] at member
          obtain ⟨first, given, path⟩ := adds.reached id member
          obtain ⟨target, wanted, rfl⟩ := List.mem_map.mp given
          exact ⟨target, wanted, path⟩
        · rintro ⟨target, wanted, path⟩
          exact sound.ordered.reached (listed _ (List.mem_map_of_mem wanted)) path
      · intro id
        split
        · rename_i member
          obtain ⟨node, found, named⟩ := sound.ordered.registered member
          subst named
          rw [sound.deps node found member, found]
          rfl
        · rename_i away
          have keys : plan.deps.map Prod.fst = plan.order.reverse := by
            rw [adds.deps, adds.order]
            simp [empty]
          rw [List.lookup_eq_none_iff]
          intro entry member
          have known : entry.1 ∈ plan.order := by
            rw [← List.mem_reverse, ← keys]
            exact List.mem_map_of_mem member
          have other : id ≠ entry.1 := fun same => away (same ▸ known)
          simpa using other

theorem foldlM_visit_deeper (canonical : registry.Canonical) {targets : List String}
    (known : registry.firstUnknown? targets = none) {depth : Nat} (deep : registry.size ≤ depth) :
    (targets.map NodeId.canonical).foldlM (visit registry depth []) empty =
      (targets.map NodeId.canonical).foldlM (visit registry registry.size []) empty := by
  induction depth, deep using Nat.le_induction with
  | base => rfl
  | succ depth deep ih =>
      rw [← ih]
      exact (foldlM_congr _ (visit_kept canonical depth (mem_targets known))
        (fun plan id member underway => visit_deeper canonical depth underway (.start id)
          (mem_targets known id member) (by simpa using deep))
        (underway_empty registry)).symm

theorem needed_onCycle {targets : List String} {trail : List NodeId}
    (returns : registry.Returns trail)
    (starts : ∃ target ∈ targets, trail.head? = some (NodeId.canonical target)) :
    ∃ id, registry.Needed targets id ∧ registry.OnCycle id := by
  obtain ⟨target, wanted, first⟩ := starts
  obtain ⟨id, cyclic, leads⟩ := returns.onCycle
  exact ⟨id, ⟨target, wanted, leads _ first⟩, cyclic⟩

theorem make_acyclic (canonical : registry.Canonical) {targets : List String} {plan : Plan}
    (made : make registry targets = .ok plan) {id : NodeId}
    (needed : registry.Needed targets id) : ¬registry.OnCycle id :=
  have describes := make_describes canonical made
  describes.preceded.acyclic describes.nodup ((describes.planned id).mpr needed)

theorem make_ends (canonical : registry.Canonical) {targets : List String}
    (known : registry.firstUnknown? targets = none) :
    ((∃ trail, make registry targets = .error (.cyclicPlan trail)) ↔
      ∃ id, registry.Needed targets id ∧ registry.OnCycle id) ∧
    ((∃ plan, make registry targets = .ok plan) ↔
      ∀ id, registry.Needed targets id → ¬registry.OnCycle id) := by
  cases made : make registry targets with
  | ok plan =>
      have acyclic (id : NodeId) (needed : registry.Needed targets id) := make_acyclic canonical
        made needed
      refine ⟨iff_of_false ?_ ?_, iff_of_true ⟨plan, rfl⟩ acyclic⟩
      · rintro ⟨trail, failed⟩
        cases failed
      · rintro ⟨id, needed, loops⟩
        exact acyclic id needed loops
  | error failure =>
      obtain ⟨trail, rfl, returns, starts⟩ := make_error canonical known made
      obtain ⟨id, needed, loops⟩ := needed_onCycle returns starts
      refine ⟨iff_of_true ⟨trail, rfl⟩ ⟨id, needed, loops⟩, iff_of_false ?_ ?_⟩
      · rintro ⟨plan, planned⟩
        cases planned
      · exact fun acyclic => acyclic id needed loops

/-- Planning always ends with one of three answers: the first target that is not registered, a
walk from a target along prerequisites that comes back to a node it has passed (just when the
targets lead to a cycle), or a plan of what the targets need. The bound on the depth of the search
has no part in the answer. -/
theorem make_decides (canonical : registry.Canonical) (targets : List String) :
    (∀ id, make registry targets = .error (.unknownTarget id) ↔
      registry.firstUnknown? targets = some id) ∧
    (registry.firstUnknown? targets = none →
      ((∃ trail, make registry targets = .error (.cyclicPlan trail)) ↔
        ∃ id, registry.Needed targets id ∧ registry.OnCycle id) ∧
      ((∃ plan, make registry targets = .ok plan) ↔
        ∀ id, registry.Needed targets id → ¬registry.OnCycle id)) ∧
    (∀ trail, make registry targets = .error (.cyclicPlan trail) →
      registry.Returns trail ∧
        ∃ target ∈ targets, trail.head? = some (NodeId.canonical target)) ∧
    (∀ plan, make registry targets = .ok plan → plan.Describes registry targets) ∧
    ∀ depth, registry.size ≤ depth → make registry targets =
      match checkTargets registry targets with
      | .error failure => .error failure
      | .ok () => (targets.map NodeId.canonical).foldlM (visit registry depth []) empty := by
  have cyclic (trail : List NodeId)
      (failed : make registry targets = .error (.cyclicPlan trail)) :
      registry.Returns trail ∧
        ∃ target ∈ targets, trail.head? = some (NodeId.canonical target) := by
    cases known : registry.firstUnknown? targets with
    | some id => rw [make_eq, known] at failed; cases failed
    | none =>
        obtain ⟨loop, named, rest⟩ := make_error canonical known failed
        cases named
        exact rest
  refine ⟨?unknown, fun known => make_ends canonical known, cyclic,
    fun plan made => make_describes canonical made, ?bound⟩
  case unknown =>
    intro id
    constructor
    · intro failed
      cases known : registry.firstUnknown? targets with
      | some other => rw [make_eq, known] at failed; cases failed; rfl
      | none =>
          obtain ⟨trail, named, -⟩ := make_error canonical known failed
          cases named
    · intro known
      rw [make_eq, known]
  case bound =>
    intro depth deep
    rw [make_eq, checkTargets_eq]
    cases known : registry.firstUnknown? targets with
    | some id => rfl
    | none => exact (foldlM_visit_deeper canonical known deep).symm

def knot : Registry where
  nodes := [
    (Artifact.phony "all" .none).dependsOnAll ["left", "right"],
    (Artifact.phony "left" .none).dependsOn "right",
    (Artifact.phony "right" .none).dependsOn "left"]

theorem make_decides_knot :
    make knot ["all"] = .error (.cyclicPlan ["all", "left", "right", "left"]) ∧
      knot.Returns ["all", "left", "right", "left"] ∧
      ∃ id, knot.Needed ["all"] id ∧ knot.OnCycle id := by
  have canonical : knot.Canonical := ⟨by decide, by decide⟩
  have failed : make knot ["all"] = .error (.cyclicPlan ["all", "left", "right", "left"]) := by
    rfl
  obtain ⟨-, ends, trails, -⟩ := make_decides canonical ["all"]
  exact ⟨failed, (trails _ failed).1, (ends (by rfl)).1.mp ⟨_, failed⟩⟩

end Plan

end ArtifactPipeline
