import ArtifactPipeline.Plan
import Mathlib.Data.List.Nodup
import Mathlib.Tactic.Tauto

set_option autoImplicit false

namespace ArtifactPipeline

namespace Registry

structure Canonical (registry : Registry) : Prop where
  ids : ∀ node ∈ registry.nodes, NodeId.canonical node.id = node.id
  prerequisites : ∀ node ∈ registry.nodes, ∀ dep ∈ node.nodePrerequisites,
    NodeId.canonical dep = dep

theorem mem_of_find? {registry : Registry} {id : NodeId} {node : Artifact}
    (found : registry.find? id = some node) : node ∈ registry.nodes :=
  List.mem_of_find?_eq_some found

theorem id_of_find? {registry : Registry} {id : NodeId} {node : Artifact}
    (found : registry.find? id = some node) : node.id = id := by
  have same := List.find?_some found
  exact eq_of_beq same

theorem find?_self {registry : Registry} {id : NodeId} {node : Artifact}
    (found : registry.find? id = some node) : registry.find? node.id = some node := by
  rw [id_of_find? found]
  exact found

theorem get?_eq_find? {registry : Registry} {id : NodeId} (spelled : NodeId.canonical id = id) :
    registry.get? id = registry.find? id := by
  rw [get?, spelled]

theorem resolve_eq_ok {registry : Registry} {id : String} {node : Artifact} :
    registry.resolve id = .ok node ↔ registry.get? id = some node := by
  unfold resolve
  cases registry.get? id <;> simp

theorem resolve_of_find? {registry : Registry} {id : NodeId} {node : Artifact}
    (spelled : NodeId.canonical id = id) (found : registry.find? id = some node) :
    registry.resolve id = .ok node := by
  rw [resolve_eq_ok, get?_eq_find? spelled]
  exact found

theorem contains_iff {registry : Registry} {id : NodeId} (spelled : NodeId.canonical id = id) :
    registry.contains id = true ↔ ∃ node, registry.find? id = some node := by
  rw [contains, get?_eq_find? spelled, Option.isSome_iff_exists]

theorem Canonical.found {registry : Registry} (canonical : registry.Canonical) {id : NodeId}
    {node : Artifact} (found : registry.find? id = some node) : NodeId.canonical id = id := by
  rw [← id_of_find? found]
  exact canonical.ids node (mem_of_find? found)

theorem find?_of_resolve {registry : Registry} {id : String} {node : Artifact}
    (resolved : registry.resolve id = .ok node) :
    node.id = NodeId.canonical id ∧ registry.find? node.id = some node := by
  have found := resolve_eq_ok.mp resolved
  exact ⟨id_of_find? found, find?_self found⟩

end Registry

namespace Assoc

variable {κ ν : Type} [DecidableEq κ]

theorem mem_keys_set {key other : κ} {value : ν} {entries : List (κ × ν)} :
    other ∈ (set key value entries).map Prod.fst ↔ other = key ∨ other ∈ entries.map Prod.fst := by
  induction entries with
  | nil => simp [set]
  | cons entry rest ih =>
      obtain ⟨first, current⟩ := entry
      rw [set]
      split
      · rename_i same
        simp [same]
      · rw [List.map_cons, List.mem_cons, ih, List.map_cons, List.mem_cons]
        tauto

theorem nodup_keys_set {key : κ} {value : ν} {entries : List (κ × ν)}
    (distinct : (entries.map Prod.fst).Nodup) : ((set key value entries).map Prod.fst).Nodup := by
  induction entries with
  | nil => simp [set]
  | cons entry rest ih =>
      obtain ⟨first, current⟩ := entry
      rw [List.map_cons, List.nodup_cons] at distinct
      rw [set]
      split
      · rename_i same
        rw [List.map_cons, List.nodup_cons, ← same]
        exact distinct
      · rename_i different
        rw [List.map_cons, List.nodup_cons]
        refine ⟨?_, ih distinct.2⟩
        intro member
        rcases mem_keys_set.mp member with same | later
        · exact different same
        · exact distinct.1 later

theorem mem_iff_lookup {key : κ} {value : ν} {entries : List (κ × ν)}
    (distinct : (entries.map Prod.fst).Nodup) :
    (key, value) ∈ entries ↔ entries.lookup key = some value := by
  induction entries with
  | nil => simp
  | cons entry rest ih =>
      obtain ⟨first, current⟩ := entry
      rw [List.map_cons, List.nodup_cons] at distinct
      by_cases same : key = first
      · subst same
        have fresh : (key, value) ∉ rest := fun member =>
          distinct.1 (List.mem_map.mpr ⟨_, member, rfl⟩)
        simp [fresh, eq_comm]
      · rw [List.mem_cons, ih distinct.2, List.lookup_cons, beq_eq_false_iff_ne.2 same]
        simp [same]

end Assoc

namespace NodeStates

def Distinct (states : NodeStates) : Prop :=
  (states.entries.map Prod.fst).Nodup

theorem Distinct.set {states : NodeStates} (distinct : states.Distinct) (id : NodeId)
    (state : NodeState) : (states.set id state).Distinct :=
  Assoc.nodup_keys_set distinct

theorem mem_inState {states : NodeStates} (distinct : states.Distinct) {id : NodeId}
    {state : NodeState} (visited : state ≠ .unvisited) :
    id ∈ states.inState state ↔ states.get id = state := by
  have listed : id ∈ states.inState state ↔ (id, state) ∈ states.entries := by
    simp [inState]
  rw [listed, Assoc.mem_iff_lookup distinct, get]
  cases found : states.entries.lookup id with
  | none => simp [Ne.symm visited]
  | some other => simp

theorem nodup_inState {states : NodeStates} (distinct : states.Distinct) (state : NodeState) :
    (states.inState state).Nodup := by
  unfold inState
  rw [List.nodup_mergeSort]
  exact distinct.sublist (List.filter_sublist.map Prod.fst)

end NodeStates

namespace Plan

/-- Lists that grow by one registered node at a time, after all its registered prerequisites. -/
inductive Ordered (registry : Registry) : List NodeId → Prop where
  | nil : Ordered registry []
  | snoc {order : List NodeId} {node : Artifact} (ordered : Ordered registry order)
      (found : registry.find? node.id = some node) (fresh : node.id ∉ order)
      (after : ∀ dep ∈ node.nodePrerequisites, registry.contains dep = true → dep ∈ order) :
      Ordered registry (order ++ [node.id])

/-- A plan under construction. The nodes on the trail wait for their prerequisites. -/
structure Underway (registry : Registry) (trail : List NodeId) (plan : Plan) : Prop where
  ordered : Ordered registry plan.order
  deps : ∀ node, registry.find? node.id = some node → node.id ∈ plan.order →
    plan.deps.lookup node.id = some (node.nodePrerequisites.filter registry.contains)
  apart : ∀ id ∈ trail, id ∉ plan.order
  states : ∀ id, plan.states.get id =
    if id ∈ plan.order ∨ id ∈ trail then .evaluating else .unvisited
  distinct : plan.states.Distinct

abbrev Sound (registry : Registry) (plan : Plan) : Prop :=
  Underway registry [] plan

def Covers (after before : Plan) : Prop :=
  ∀ id ∈ before.order, id ∈ after.order

theorem Ordered.nodup {registry : Registry} {order : List NodeId}
    (ordered : Ordered registry order) : order.Nodup := by
  induction ordered with
  | nil => exact List.nodup_nil
  | snoc _ _ fresh _ ih =>
      rw [List.nodup_append]
      refine ⟨ih, List.nodup_singleton _, ?_⟩
      intro id member other same
      rw [List.mem_singleton] at same
      subst same
      intro equal
      exact fresh (equal ▸ member)

theorem Ordered.registered {registry : Registry} {order : List NodeId}
    (ordered : Ordered registry order) {id : NodeId} (member : id ∈ order) :
    ∃ node, registry.find? id = some node ∧ node.id = id := by
  induction ordered with
  | nil => cases member
  | snoc _ found _ _ ih =>
      rcases List.mem_append.mp member with earlier | last
      · exact ih earlier
      · rw [List.mem_singleton.mp last]
        exact ⟨_, found, rfl⟩

theorem Ordered.earlier {registry : Registry} {order : List NodeId}
    (ordered : Ordered registry order) {done rest : List NodeId} {node : Artifact}
    (split : order = done ++ node.id :: rest) (found : registry.find? node.id = some node)
    {dep : NodeId} (needed : dep ∈ node.nodePrerequisites)
    (registered : registry.contains dep = true) : dep ∈ done := by
  induction ordered generalizing rest with
  | nil => simp at split
  | @snoc order last ordered lastFound fresh after ih =>
      rcases List.eq_nil_or_concat rest with rfl | ⟨front, final, rfl⟩
      · obtain ⟨same, equal⟩ := List.append_inj' split rfl
        have equal : last.id = node.id := by simpa using equal
        rw [equal, found] at lastFound
        cases lastFound
        rw [← same]
        exact after dep needed registered
      · have regrouped : order ++ [last.id] = (done ++ node.id :: front) ++ [final] := by
          simpa using split
        exact ih (List.append_inj' regrouped rfl).1

theorem Ordered.closed {registry : Registry} {order : List NodeId}
    (ordered : Ordered registry order) {node : Artifact} (member : node.id ∈ order)
    (found : registry.find? node.id = some node) {dep : NodeId}
    (needed : dep ∈ node.nodePrerequisites) (registered : registry.contains dep = true) :
    dep ∈ order := by
  obtain ⟨done, rest, split⟩ := List.append_of_mem member
  have before := ordered.earlier split found needed registered
  rw [split]
  exact List.mem_append_left _ before

theorem underway_empty (registry : Registry) : Underway registry [] empty where
  ordered := .nil
  deps := by intro node _ member; cases member
  apart := by intro id member; cases member
  states := by intro id; rfl
  distinct := List.nodup_nil

theorem Underway.enter {registry : Registry} {trail : List NodeId} {plan : Plan}
    (underway : Underway registry trail plan) {id : NodeId} {states : NodeStates}
    (moved : plan.states.transition id .evaluating = .ok states) :
    Underway registry (trail ++ [id]) { plan with states } := by
  unfold NodeStates.transition at moved
  split at moved
  · rename_i allowed
    cases moved
    have unvisited : plan.states.get id = .unvisited := by
      cases state : plan.states.get id <;> rw [state] at allowed <;> simp_all [NodeState.canBecome]
    have away : ¬(id ∈ plan.order ∨ id ∈ trail) := by
      intro known
      rw [underway.states, if_pos known] at unvisited
      cases unvisited
    refine ⟨underway.ordered, underway.deps, ?_, ?_, underway.distinct.set id .evaluating⟩
    · intro other member
      rcases List.mem_append.mp member with onTrail | last
      · exact underway.apart other onTrail
      · rw [List.mem_singleton.mp last]
        exact fun planned => away (.inl planned)
    · intro other
      rw [NodeStates.get_set, underway.states]
      by_cases same : other = id <;> simp [same]
  · cases moved

theorem Underway.settle {registry : Registry} {trail : List NodeId} {plan : Plan}
    {node : Artifact} (underway : Underway registry (trail ++ [node.id]) plan)
    (found : registry.find? node.id = some node) (away : node.id ∉ trail)
    (after : ∀ dep ∈ node.nodePrerequisites.filter registry.contains, dep ∈ plan.order) :
    Underway registry trail
      (plan.settle node.id (node.nodePrerequisites.filter registry.contains)) := by
  have fresh : node.id ∉ plan.order := underway.apart node.id (by simp)
  constructor
  case ordered =>
    refine .snoc underway.ordered found fresh ?_
    intro dep needed registered
    exact after dep (List.mem_filter.mpr ⟨needed, registered⟩)
  case deps =>
    intro other otherFound member
    by_cases same : other.id = node.id
    · rw [same, found] at otherFound
      cases otherFound
      simp [Plan.settle]
    · have earlier : other.id ∈ plan.order := by
        simpa [Plan.settle, same] using member
      simpa [Plan.settle, List.lookup_cons, beq_eq_false_iff_ne.2 same] using
        underway.deps other otherFound earlier
  case apart =>
    intro id onTrail member
    have planned : id ∈ plan.order ∨ id = node.id := by
      simpa [Plan.settle] using member
    rcases planned with planned | rfl
    · exact underway.apart id (List.mem_append_left _ onTrail) planned
    · exact away onTrail
  case states =>
    intro id
    have state := underway.states id
    simp only [Plan.settle, List.mem_append, List.mem_singleton] at state ⊢
    rw [state]
    exact if_congr (by tauto) rfl rfl
  case distinct => exact underway.distinct

theorem foldlM_visit_underway {registry : Registry} {trail : List NodeId}
    {visit : Plan → NodeId → Except Failure Plan}
    (visited : ∀ plan id result, Underway registry trail plan → NodeId.canonical id = id →
      visit plan id = .ok result →
        Underway registry trail result ∧ id ∈ result.order ∧ result.Covers plan)
    {ids : List NodeId} (spelled : ∀ id ∈ ids, NodeId.canonical id = id) {plan result : Plan}
    (underway : Underway registry trail plan) (folded : ids.foldlM visit plan = .ok result) :
    Underway registry trail result ∧ (∀ id ∈ ids, id ∈ result.order) ∧ result.Covers plan := by
  induction ids generalizing plan with
  | nil =>
      cases folded
      exact ⟨underway, by simp, fun _ member => member⟩
  | cons id rest ih =>
      rw [List.foldlM_cons] at folded
      cases first : visit plan id with
      | error failure => rw [first] at folded; cases folded
      | ok next =>
          rw [first] at folded
          have head := visited plan id next underway (spelled id (by simp)) first
          have tail := ih (fun other member => spelled other (by simp [member])) head.1 folded
          refine ⟨tail.1, ?_, fun other member => tail.2.2 other (head.2.2 other member)⟩
          intro other member
          rcases List.mem_cons.mp member with rfl | later
          · exact tail.2.2 other head.2.1
          · exact tail.2.1 other later

theorem visit_underway {registry : Registry} (canonical : registry.Canonical) (depth : Nat)
    {trail : List NodeId} {plan result : Plan} {id : NodeId}
    (underway : Underway registry trail plan) (spelled : NodeId.canonical id = id)
    (visited : visit registry depth trail plan id = .ok result) :
    Underway registry trail result ∧ id ∈ result.order ∧ result.Covers plan := by
  -- Induction on the depth: the trail grows by the visited node, whose prerequisites are visited
  -- one level deeper.
  induction depth generalizing trail plan id result with
  | zero =>
      unfold visit at visited
      split at visited
      · rename_i planned
        cases visited
        exact ⟨underway, planned, fun _ member => member⟩
      · split at visited
        · cases visited
        · split at visited
          · cases visited
          · dsimp only at visited
            split at visited <;> cases visited
  | succ depth ih =>
      unfold visit at visited
      split at visited
      · rename_i planned
        cases visited
        exact ⟨underway, planned, fun _ member => member⟩
      · split at visited
        · cases visited
        · rename_i unseen
          split at visited
          · cases visited
          · rename_i node resolved
            obtain ⟨named, found⟩ := Registry.find?_of_resolve resolved
            rw [spelled] at named
            split at visited
            · cases visited
            · rename_i states moved
              dsimp only at visited
              split at visited
              · cases visited
              · rename_i prepared folded
                cases visited
                have away : node.id ∉ trail := by
                  intro onTrail
                  rw [← named, underway.states, if_pos (.inr onTrail)] at unseen
                  exact unseen rfl
                have spelledDeps : ∀ dep ∈ node.nodePrerequisites.filter registry.contains,
                    NodeId.canonical dep = dep := by
                  intro dep member
                  exact canonical.prerequisites node (Registry.mem_of_find? found) dep
                    (List.mem_filter.mp member).1
                have inner := foldlM_visit_underway
                  (fun _ _ _ before canonicalDep step => ih before canonicalDep step)
                  spelledDeps (underway.enter moved) folded
                refine ⟨inner.1.settle found away inner.2.1, ?_, ?_⟩
                · simp [Plan.settle, named]
                · intro other member
                  exact List.mem_append_left _ (inner.2.2 other member)

theorem checkTargets_resolved {registry : Registry} {targets : List String}
    (checked : checkTargets registry targets = .ok ()) :
    ∀ target ∈ targets, ∃ node, registry.resolve target = .ok node := by
  induction targets with
  | nil => simp
  | cons target rest ih =>
      unfold checkTargets at checked
      split at checked
      · rename_i node resolved
        intro other member
        rcases List.mem_cons.mp member with rfl | later
        · exact ⟨node, resolved⟩
        · exact ih checked other later
      · cases checked

/-- A plan that is made lists registered nodes once each, after their registered prerequisites,
and leaves them all to be evaluated. -/
theorem make_sound {registry : Registry} (canonical : registry.Canonical)
    {targets : List String} {plan : Plan} (made : make registry targets = .ok plan) :
    plan.Sound registry := by
  unfold make at made
  split at made
  · cases made
  · rename_i checked
    have spelled : ∀ id ∈ targets.map NodeId.canonical, NodeId.canonical id = id := by
      intro id member
      obtain ⟨target, wanted, rfl⟩ := List.mem_map.mp member
      obtain ⟨node, resolved⟩ := checkTargets_resolved checked target wanted
      obtain ⟨named, found⟩ := Registry.find?_of_resolve resolved
      rw [← named]
      exact canonical.found found
    exact (foldlM_visit_underway
      (fun _ _ _ before canonicalId step => visit_underway canonical _ before canonicalId step)
      spelled (underway_empty registry) made).1

namespace Sound

variable {registry : Registry} {plan : Plan}

theorem nodup (sound : plan.Sound registry) : plan.order.Nodup :=
  sound.ordered.nodup

theorem states_get (sound : plan.Sound registry) (id : NodeId) :
    plan.states.get id = if id ∈ plan.order then .evaluating else .unvisited := by
  simpa using sound.states id

theorem readyIn_iff (sound : plan.Sound registry) {node : Artifact}
    (found : registry.find? node.id = some node) (planned : node.id ∈ plan.order)
    (states : NodeStates) :
    plan.readyIn states node.id = true ↔
      ∀ dep ∈ node.nodePrerequisites, registry.contains dep = true →
        (states.get dep).isSatisfied = true := by
  unfold readyIn
  rw [sound.deps node found planned]
  simp only [List.all_eq_true, List.mem_filter]
  constructor
  · intro all dep needed registered
    exact all dep ⟨needed, registered⟩
  · intro all dep member
    exact all dep member.1 member.2

end Sound

end Plan

end ArtifactPipeline
