import ArtifactPipeline.Graph.Cycle
import ArtifactPipeline.Proofs.Planning

set_option autoImplicit false

namespace ArtifactPipeline

open Relation (ReflTransGen TransGen)

namespace Registry

def Built (registry : Registry) : Prop :=
  ∃ nodes, Registry.empty.registerAll nodes = .ok registry

theorem nodup_register {registry next : Registry} {node : Artifact} (distinct : registry.ids.Nodup)
    (registered : registry.register node = .ok next) : next.ids.Nodup := by
  unfold register offer at registered
  cases found : registry.find? node.id with
  | some known =>
      rw [found] at registered
      dsimp only at registered
      split at registered <;> rename_i offered <;> split at offered <;> cases offered <;>
        cases registered
      exact distinct
  | none =>
      rw [found] at registered
      cases registered
      have fresh : node.id ∉ registry.ids := by
        intro member
        obtain ⟨known, listed, same⟩ := List.mem_map.mp member
        simpa [same] using List.find?_eq_none.mp found known listed
      rw [ids, List.map_append, List.map_singleton]
      exact List.nodup_append.mpr ⟨distinct, List.nodup_singleton _, by
        intro id member other last
        rw [List.mem_singleton.mp last]
        rintro rfl
        exact fresh member⟩

theorem nodup_registerAll {nodes : List Artifact} {registry next : Registry}
    (distinct : registry.ids.Nodup) (registered : registry.registerAll nodes = .ok next) :
    next.ids.Nodup := by
  induction nodes generalizing registry with
  | nil => cases registered; exact distinct
  | cons node rest ih =>
      unfold registerAll at registered
      split at registered
      · rename_i middle first
        exact ih (nodup_register distinct first) registered
      · cases registered

theorem Built.nodup {registry : Registry} (built : registry.Built) : registry.ids.Nodup := by
  obtain ⟨nodes, registered⟩ := built
  have unregistered : empty.ids.Nodup := List.nodup_nil
  exact nodup_registerAll unregistered registered

theorem find?_of_mem {registry : Registry} (distinct : registry.ids.Nodup) {node : Artifact}
    (listed : node ∈ registry.nodes) : registry.find? node.id = some node := by
  cases found : registry.find? node.id with
  | none => simpa using List.find?_eq_none.mp found node listed
  | some other =>
      have same : other.id = node.id := id_of_find? found
      rw [List.inj_on_of_nodup_map distinct (mem_of_find? found) listed same]

end Registry

namespace Graph

namespace Digraph

def Edge (g : Digraph) (source target : NodeId) : Prop :=
  (source, target) ∈ g.edges

def Closed (g : Digraph) : Prop :=
  ∀ source target, g.Edge source target → source ∈ g.vertices ∧ target ∈ g.vertices

@[simp] theorem mem_successors {g : Digraph} {source target : NodeId} :
    target ∈ g.successors source ↔ g.Edge source target := by
  simp [successors, Edge]

@[simp] theorem mem_predecessors {g : Digraph} {source target : NodeId} :
    source ∈ g.predecessors target ↔ g.Edge source target := by
  simp [predecessors, Edge]

theorem edge_ofRegistry {registry : Registry} (canonical : registry.Canonical)
    (distinct : registry.ids.Nodup) {source target : NodeId} :
    (ofRegistry registry).Edge source target ↔ registry.Requires target source := by
  simp only [Edge, ofRegistry, List.mem_eraseDups, List.mem_flatMap, List.mem_map,
    List.mem_filter, Prod.mk.injEq]
  constructor
  · rintro ⟨node, listed, dep, ⟨needed, registered⟩, rfl, rfl⟩
    refine ⟨node, Registry.find?_of_mem distinct listed, needed, ?_⟩
    rw [Registry.contains, Registry.get?_eq_find? (canonical.prerequisites node listed _ needed)]
    exact registered
  · rintro ⟨node, found, needed, registered⟩
    have listed := Registry.mem_of_find? found
    rw [Registry.contains, Registry.get?_eq_find? (canonical.prerequisites node listed _ needed)]
      at registered
    exact ⟨node, listed, source, ⟨needed, registered⟩, rfl, Registry.id_of_find? found⟩

theorem closed_ofRegistry {registry : Registry} (canonical : registry.Canonical)
    (distinct : registry.ids.Nodup) : (ofRegistry registry).Closed := by
  intro source target edge
  have requires := (edge_ofRegistry canonical distinct).mp edge
  obtain ⟨node, known⟩ := requires.found canonical
  obtain ⟨dependent, found, -⟩ := requires
  exact ⟨Registry.mem_ids_of_find? known, Registry.mem_ids_of_find? found⟩

end Digraph

variable {g : Digraph}

section Forward

def above (id : NodeId) (stack : List NodeId) : List NodeId :=
  stack.takeWhile fun other => !decide (other = id)

@[simp] theorem above_self (id : NodeId) (stack : List NodeId) : above id (id :: stack) = [] := by
  simp [above]

@[simp] theorem above_cons {id other : NodeId} (different : other ≠ id) (stack : List NodeId) :
    above id (other :: stack) = other :: above id stack := by
  simp [above, different]

theorem above_append {id : NodeId} {front : List NodeId} (away : id ∉ front)
    (stack : List NodeId) : above id (front ++ stack) = front ++ above id stack := by
  refine List.takeWhile_append_of_pos ?_
  intro other member
  have different : other ≠ id := fun same => away (same ▸ member)
  simp [different]

def Finishing.Open (state : Finishing) (id : NodeId) : Prop :=
  id ∈ state.discovered ∧ id ∉ state.finished

/-- A search in progress. An open vertex is on the stack and leads to all that is above it, where
its undiscovered successors are. A vertex is finished after its successors, unless they lead back
to it. -/
structure Searching (g : Digraph) (stack : List NodeId) (state : Finishing) : Prop where
  inside : ∀ id ∈ stack, id ∈ g.vertices
  vertices : ∀ id ∈ state.discovered, id ∈ g.vertices
  known : ∀ id ∈ state.finished, id ∈ state.discovered
  nodup : state.finished.Nodup
  loopFree : ∀ id ∈ state.discovered, ¬g.Edge id id
  waits : ∀ id, state.Open id → id ∈ stack
  leads : ∀ id, state.Open id → ∀ other ∈ above id stack, ReflTransGen g.Edge id other
  pending : ∀ id, state.Open id → ∀ next, g.Edge id next →
    next ∈ state.discovered ∨ next ∈ above id stack
  order : ∀ front id back, state.finished = front ++ id :: back → ∀ next, g.Edge id next →
    next ∈ back ∨ ReflTransGen g.Edge next id

theorem searching_start (g : Digraph) : Searching g [] ⟨[], []⟩ where
  inside := by simp
  vertices := by simp
  known := by simp
  nodup := List.nodup_nil
  loopFree := by simp
  waits := by simp [Finishing.Open]
  leads := by simp [Finishing.Open]
  pending := by simp [Finishing.Open]
  order := by simp

theorem Searching.push {state : Finishing} (searching : Searching g [] state) {id : NodeId}
    (vertex : id ∈ g.vertices) : Searching g [id] state where
  inside := by simpa using vertex
  vertices := searching.vertices
  known := searching.known
  nodup := searching.nodup
  loopFree := searching.loopFree
  waits := fun other opened => absurd (searching.waits other opened) List.not_mem_nil
  leads := fun other opened => absurd (searching.waits other opened) List.not_mem_nil
  pending := fun other opened => absurd (searching.waits other opened) List.not_mem_nil
  order := searching.order

theorem Searching.drop {id : NodeId} {stack : List NodeId} {state : Finishing}
    (searching : Searching g (id :: stack) state) (finished : id ∈ state.finished) :
    Searching g stack state where
  inside := fun other member => searching.inside other (List.mem_cons_of_mem _ member)
  vertices := searching.vertices
  known := searching.known
  nodup := searching.nodup
  loopFree := searching.loopFree
  waits := by
    intro other opened
    rcases List.mem_cons.mp (searching.waits other opened) with rfl | member
    · exact absurd finished opened.2
    · exact member
  leads := by
    intro other opened next member
    have different : id ≠ other := fun same => opened.2 (same ▸ finished)
    refine searching.leads other opened next ?_
    rw [above_cons different]
    exact List.mem_cons_of_mem _ member
  pending := by
    intro other opened next edge
    have different : id ≠ other := fun same => opened.2 (same ▸ finished)
    rcases searching.pending other opened next edge with known | member
    · exact .inl known
    · rw [above_cons different] at member
      rcases List.mem_cons.mp member with rfl | higher
      · exact .inl (searching.known next finished)
      · exact .inr higher
  order := searching.order

theorem Searching.finish {id : NodeId} {stack : List NodeId} {state : Finishing}
    (searching : Searching g (id :: stack) state) (opened : state.Open id) :
    Searching g stack { state with finished := id :: state.finished } := by
  have kept {other : NodeId}
      (still : Finishing.Open { state with finished := id :: state.finished } other) :
      state.Open other ∧ id ≠ other :=
    ⟨⟨still.1, fun member => still.2 (List.mem_cons_of_mem _ member)⟩,
      fun same => still.2 (same ▸ List.mem_cons_self)⟩
  constructor
  case inside => exact fun other member => searching.inside other (List.mem_cons_of_mem _ member)
  case vertices => exact searching.vertices
  case known =>
    intro other member
    rcases List.mem_cons.mp member with rfl | earlier
    · exact opened.1
    · exact searching.known other earlier
  case nodup => exact List.nodup_cons.mpr ⟨opened.2, searching.nodup⟩
  case loopFree => exact searching.loopFree
  case waits =>
    intro other still
    obtain ⟨before, different⟩ := kept still
    rcases List.mem_cons.mp (searching.waits other before) with rfl | member
    · exact absurd rfl different
    · exact member
  case leads =>
    intro other still next member
    obtain ⟨before, different⟩ := kept still
    refine searching.leads other before next ?_
    rw [above_cons different]
    exact List.mem_cons_of_mem _ member
  case pending =>
    intro other still next edge
    obtain ⟨before, different⟩ := kept still
    rcases searching.pending other before next edge with known | member
    · exact .inl known
    · rw [above_cons different] at member
      rcases List.mem_cons.mp member with rfl | higher
      · exact .inl opened.1
      · exact .inr higher
  case order =>
    intro front other back split next edge
    cases front with
    | cons first front =>
        rw [List.cons_append, List.cons.injEq] at split
        exact searching.order front other back split.2 next edge
    | nil =>
        rw [List.nil_append, List.cons.injEq] at split
        obtain ⟨rfl, rfl⟩ := split
        -- An unfinished successor is below on the stack, so it leads up to this vertex.
        have discovered : next ∈ state.discovered := by
          simpa using searching.pending id opened next edge
        by_cases done : next ∈ state.finished
        · exact .inl done
        · have different : id ≠ next := by
            rintro rfl
            exact searching.loopFree id opened.1 edge
          refine .inr (searching.leads next ⟨discovered, done⟩ id ?_)
          rw [above_cons different]
          exact List.mem_cons_self

def freshAfter (g : Digraph) (id : NodeId) (state : Finishing) : List NodeId :=
  (g.successors id).filter fun next => !decide (next ∈ id :: state.discovered)

theorem mem_freshAfter {id next : NodeId} {state : Finishing} :
    next ∈ freshAfter g id state ↔ g.Edge id next ∧ next ∉ id :: state.discovered := by
  simp [freshAfter]

theorem Searching.discover {id : NodeId} {stack : List NodeId} {state : Finishing}
    (closed : g.Closed) (searching : Searching g (id :: stack) state)
    (fresh : id ∉ state.discovered) (loopFree : ¬g.Edge id id) :
    Searching g ((freshAfter g id state).reverse ++ id :: stack)
      { state with discovered := id :: state.discovered } := by
  have met {other : NodeId}
      (opened : Finishing.Open { state with discovered := id :: state.discovered } other) :
      other = id ∨ (other ≠ id ∧ state.Open other) := by
    by_cases same : other = id
    · exact .inl same
    · exact .inr ⟨same, (List.mem_cons.mp opened.1).resolve_left same, opened.2⟩
  -- The fresh successors come on top of `id` and so of all open vertices.
  have above_id : above id ((freshAfter g id state).reverse ++ id :: stack) =
      (freshAfter g id state).reverse := by
    rw [above_append (by simp [mem_freshAfter]), above_self, List.append_nil]
  have above_other {other : NodeId} (opened : state.Open other) (different : other ≠ id) :
      above other ((freshAfter g id state).reverse ++ id :: stack) =
        (freshAfter g id state).reverse ++ above other (id :: stack) := by
    refine above_append ?_ _
    intro member
    rw [List.mem_reverse, mem_freshAfter] at member
    exact member.2 (List.mem_cons_of_mem _ opened.1)
  constructor
  case inside =>
    intro other member
    rcases List.mem_append.mp member with new | old
    · rw [List.mem_reverse, mem_freshAfter] at new
      exact (closed id other new.1).2
    · exact searching.inside other old
  case vertices =>
    intro other member
    rcases List.mem_cons.mp member with rfl | earlier
    · exact searching.inside other (by simp)
    · exact searching.vertices other earlier
  case known =>
    exact fun other member => List.mem_cons_of_mem _ (searching.known other member)
  case nodup => exact searching.nodup
  case loopFree =>
    intro other member
    rcases List.mem_cons.mp member with rfl | earlier
    · exact loopFree
    · exact searching.loopFree other earlier
  case waits =>
    intro other opened
    rcases met opened with rfl | ⟨-, before⟩
    · simp
    · exact List.mem_append_right _ (searching.waits other before)
  case leads =>
    intro other opened next member
    rcases met opened with rfl | ⟨different, before⟩
    · rw [above_id, List.mem_reverse, mem_freshAfter] at member
      exact .single member.1
    · rw [above_other before different, List.mem_append, List.mem_reverse,
        mem_freshAfter] at member
      have up : ReflTransGen g.Edge other id := by
        refine searching.leads other before id ?_
        rw [above_cons (Ne.symm different)]
        exact List.mem_cons_self
      rcases member with new | old
      · exact up.tail new.1
      · exact searching.leads other before next old
  case pending =>
    intro other opened next edge
    rcases met opened with rfl | ⟨different, before⟩
    · rw [above_id, List.mem_reverse, mem_freshAfter]
      by_cases known : next ∈ other :: state.discovered
      · exact .inl known
      · exact .inr ⟨edge, known⟩
    · rw [above_other before different, List.mem_append]
      rcases searching.pending other before next edge with known | higher
      · exact .inl (List.mem_cons_of_mem _ known)
      · exact .inr (.inr higher)
  case order => exact searching.order

/-- Steps that a search can take at most: one for each entry of the stack, and for each
undiscovered vertex one and one more for each of its edges. -/
def stepsLeft (g : Digraph) (stack discovered : List NodeId) : Nat :=
  stack.length + undiscovered g discovered +
    (g.edges.filter fun edge => !decide (edge.1 ∈ discovered)).length

theorem undiscovered_cons {id : NodeId} {discovered : List NodeId} (vertex : id ∈ g.vertices)
    (fresh : id ∉ discovered) :
    undiscovered g (id :: discovered) < undiscovered g discovered := by
  unfold undiscovered
  have regrouped : (g.vertices.filter fun other => !decide (other ∈ id :: discovered)) =
      (g.vertices.filter fun other => !decide (other ∈ discovered)).filter
        fun other => !decide (other = id) := by
    rw [List.filter_filter]
    exact List.filter_congr fun other _ => by simp
  rw [regrouped, List.length_filter_lt_length_iff_exists]
  exact ⟨id, by simp [vertex, fresh], by simp⟩

theorem edges_discover {id : NodeId} {state : Finishing} (fresh : id ∉ state.discovered) :
    (freshAfter g id state).length +
        (g.edges.filter fun edge => !decide (edge.1 ∈ id :: state.discovered)).length ≤
      (g.edges.filter fun edge => !decide (edge.1 ∈ state.discovered)).length := by
  rw [List.length_eq_length_filter_add (fun edge => edge.1 == id)
    (l := g.edges.filter fun edge => !decide (edge.1 ∈ state.discovered)), List.filter_filter,
    List.filter_filter]
  have leaving : (freshAfter g id state).length ≤
      (g.edges.filter fun edge =>
        (edge.1 == id) && !decide (edge.1 ∈ state.discovered)).length := by
    have same : (g.edges.filter fun edge => (edge.1 == id) && !decide (edge.1 ∈ state.discovered)) =
        g.edges.filter fun edge => edge.1 == id := by
      refine List.filter_congr ?_
      intro edge _
      by_cases source : edge.1 = id <;> simp [source, fresh]
    rw [same, ← List.length_map Prod.snd]
    exact List.length_filter_le _ _
  have remaining : (g.edges.filter fun edge => !decide (edge.1 ∈ id :: state.discovered)) =
      g.edges.filter fun edge => !(edge.1 == id) && !decide (edge.1 ∈ state.discovered) := by
    refine List.filter_congr ?_
    intro edge _
    by_cases source : edge.1 = id <;> simp [source]
  rw [remaining]
  omega

theorem stepsLeft_discover {id : NodeId} (stack : List NodeId) {state : Finishing}
    (vertex : id ∈ g.vertices) (fresh : id ∉ state.discovered) :
    stepsLeft g ((freshAfter g id state).reverse ++ id :: stack) (id :: state.discovered) <
      stepsLeft g (id :: stack) state.discovered := by
  have vertices := undiscovered_cons vertex fresh
  have edges := edges_discover (g := g) fresh
  unfold stepsLeft
  simp only [List.length_append, List.length_reverse, List.length_cons]
  omega

theorem stepsLeft_start (id : NodeId) (discovered : List NodeId) :
    stepsLeft g [id] discovered ≤ stepLimit g := by
  have vertices := List.length_filter_le (fun other => !decide (other ∈ discovered)) g.vertices
  have edges := List.length_filter_le
    (fun edge : NodeId × NodeId => !decide (edge.1 ∈ discovered)) g.edges
  unfold stepsLeft stepLimit undiscovered
  simp only [List.length_singleton]
  omega

/-- What a search from some vertices promises: it has finished all it met, or it names a vertex
with an edge to itself. -/
def Search.Meets (g : Digraph) (sought : NodeId → Prop) : Search Finishing → Prop
  | .done state => Searching g [] state ∧ ∀ id, sought id → id ∈ state.discovered
  | .cycle through => g.Edge through through

theorem Search.Meets.mono {sought other : NodeId → Prop} {search : Search Finishing}
    (meets : search.Meets g sought) (weaker : ∀ id, other id → sought id) :
    search.Meets g other := by
  cases search with
  | done state => exact ⟨meets.1, fun id member => meets.2 id (weaker id member)⟩
  | cycle through => exact meets

theorem finishAll_meets (closed : g.Closed) (fuel : Nat) {stack : List NodeId} {state : Finishing}
    (searching : Searching g stack state) (enough : stepsLeft g stack state.discovered ≤ fuel) :
    (finishAll g fuel stack state).Meets g fun id => id ∈ stack ∨ id ∈ state.discovered := by
  -- On the fuel, which `stepsLeft` bounds: a step shortens the stack or discovers a vertex.
  induction fuel generalizing stack state with
  | zero =>
      have empty : stack = [] := by
        unfold stepsLeft at enough
        exact List.eq_nil_of_length_eq_zero (by omega)
      subst empty
      exact ⟨searching, by simp⟩
  | succ fuel ih =>
      cases stack with
      | nil => exact ⟨searching, by simp⟩
      | cons id stack =>
          have shorter : stepsLeft g stack state.discovered ≤ fuel := by
            unfold stepsLeft at enough ⊢
            rw [List.length_cons] at enough
            omega
          unfold finishAll
          by_cases known : id ∈ state.discovered
          · rw [if_pos known]
            dsimp only
            have sought : ∀ other, other ∈ id :: stack ∨ other ∈ state.discovered →
                other ∈ stack ∨ other ∈ state.discovered := by
              rintro other (member | member)
              · rcases List.mem_cons.mp member with rfl | lower
                · exact .inr known
                · exact .inl lower
              · exact .inr member
            split
            · rename_i finished
              exact (ih (searching.drop finished) shorter).mono sought
            · rename_i unfinished
              exact (ih (searching.finish ⟨known, unfinished⟩) shorter).mono sought
          · rw [if_neg known]
            dsimp only
            split
            · rename_i loop
              exact Digraph.mem_successors.mp loop
            · rename_i loopFree
              have less := stepsLeft_discover stack (searching.inside id (by simp)) known
              refine (ih (searching.discover closed known
                (fun edge => loopFree (Digraph.mem_successors.mpr edge))) (by
                  dsimp only
                  omega)).mono ?_
              rintro other (member | member)
              · exact .inl (List.mem_append_right _ member)
              · exact .inr (List.mem_cons_of_mem _ member)

theorem finishFrom_meets (closed : g.Closed) {rest : List NodeId} {state : Finishing}
    (inside : ∀ id ∈ rest, id ∈ g.vertices) (searching : Searching g [] state) :
    (finishFrom g rest state).Meets g fun id => id ∈ rest ∨ id ∈ state.discovered := by
  -- One search after the other: what an earlier one discovered stays finished.
  induction rest generalizing state with
  | nil => exact ⟨searching, by simp⟩
  | cons id rest ih =>
      have later := fun other member => inside other (List.mem_cons_of_mem _ member)
      unfold finishFrom
      split
      · rename_i known
        refine (ih later searching).mono ?_
        rintro other (member | member)
        · rcases List.mem_cons.mp member with rfl | lower
          · exact .inr known
          · exact .inl lower
        · exact .inr member
      · have first := finishAll_meets closed (stepLimit g)
          (searching.push (inside id (by simp))) (stepsLeft_start id state.discovered)
        split
        · rename_i result searched
          rw [searched] at first
          refine (ih later first.1).mono ?_
          rintro other (member | member)
          · rcases List.mem_cons.mp member with rfl | lower
            · exact .inr (first.2 other (by simp))
            · exact .inl lower
          · exact .inr (first.2 other (.inr member))
        · rename_i through searched
          rw [searched] at first
          exact first

end Forward

section Backward

theorem collectBack_out (fuel : Nat) (stack known out : List NodeId) :
    ∃ more, (collectBack g fuel stack known out).2 = out ++ more := by
  induction fuel generalizing stack known out with
  | zero => exact ⟨[], by simp [collectBack]⟩
  | succ fuel ih =>
      cases stack with
      | nil => exact ⟨[], by simp [collectBack]⟩
      | cons id stack =>
          unfold collectBack
          split
          · exact ih stack known out
          · obtain ⟨more, grown⟩ := ih (((g.predecessors id).filter
              fun v => !decide (v ∈ id :: known)).reverse ++ stack) (id :: known) (out ++ [id])
            exact ⟨id :: more, by simpa using grown⟩

theorem collectBack_cases (fuel : Nat) {id : NodeId} {known : List NodeId} (fresh : id ∉ known) :
    ((∀ before, g.Edge before id → before ∈ id :: known) ∧
      collectBack g (fuel + 2) [id] known [] = (id :: known, [id])) ∨
    ∃ second, g.Edge second id ∧ second ∉ id :: known ∧ ∃ more,
      (collectBack g (fuel + 2) [id] known []).2 = id :: second :: more := by
  unfold collectBack
  rw [if_neg fresh]
  dsimp only
  -- The second step shows whether the component is larger than the vertex alone.
  cases unknown : ((g.predecessors id).filter fun v => !decide (v ∈ id :: known)).reverse with
  | nil =>
      refine .inl ⟨?_, by simp [collectBack]⟩
      intro before edge
      rw [List.reverse_eq_nil_iff, List.filter_eq_nil_iff] at unknown
      by_contra away
      exact unknown before (Digraph.mem_predecessors.mpr edge) (by simpa using away)
  | cons second others =>
      have member : second ∈
          (g.predecessors id).filter fun v => !decide (v ∈ id :: known) := by
        rw [← List.mem_reverse, unknown]
        exact List.mem_cons_self
      rw [List.mem_filter, Digraph.mem_predecessors] at member
      have away : second ∉ id :: known := by simpa using member.2
      refine .inr ⟨second, member.1, away, ?_⟩
      rw [List.cons_append]
      unfold collectBack
      rw [if_neg away]
      obtain ⟨more, grown⟩ := collectBack_out (g := g) fuel _ (second :: id :: known)
        ([] ++ [id] ++ [second])
      exact ⟨more, by simpa using grown⟩

theorem two_le_stepLimit {id : NodeId} (vertex : id ∈ g.vertices) :
    ∃ fuel, stepLimit g = fuel + 2 := by
  have some := List.length_pos_of_mem vertex
  exact ⟨stepLimit g - 2, by unfold stepLimit; omega⟩

theorem checkBack_cases {rest known : List NodeId} (inside : ∀ id ∈ rest, id ∈ g.vertices)
    (distinct : rest.Nodup) (fresh : ∀ id ∈ rest, id ∉ known) :
    match checkBack g rest known with
    | some second => ∃ front id back, rest = front ++ id :: back ∧ g.Edge second id ∧
        second ∉ known ∧ second ∉ front ++ [id]
    | none => ∀ front id back, rest = front ++ id :: back → ∀ before, g.Edge before id →
        before ∈ known ∨ before ∈ front ++ [id] := by
  induction rest generalizing known with
  | nil => simp [checkBack]
  | cons id rest ih =>
      rw [List.nodup_cons] at distinct
      obtain ⟨fuel, limit⟩ := two_le_stepLimit (inside id (by simp))
      unfold checkBack
      rw [limit]
      -- The search back yields `id` alone, or a predecessor right after it that was not known.
      rcases collectBack_cases fuel (fresh id (by simp)) with
        ⟨all, single⟩ | ⟨second, edge, away, more, grown⟩
      · rw [single]
        have later := @ih (id :: known)
          (fun other member => inside other (List.mem_cons_of_mem _ member)) distinct.2
          (fun other member => by
            rw [List.mem_cons, not_or]
            exact ⟨fun same => distinct.1 (same ▸ member),
              fresh other (List.mem_cons_of_mem _ member)⟩)
        dsimp only
        split
        · rename_i second found
          rw [found] at later
          obtain ⟨front, last, back, rfl, edge, unknown, away⟩ := later
          rw [List.mem_cons, not_or] at unknown
          exact ⟨id :: front, last, back, rfl, edge, unknown.2, by
            rw [List.cons_append, List.mem_cons, not_or]
            exact ⟨unknown.1, away⟩⟩
        · rename_i found
          rw [found] at later
          intro front last back split before edge
          cases front with
          | nil =>
              rw [List.nil_append, List.cons.injEq] at split
              obtain ⟨rfl, -⟩ := split
              rcases List.mem_cons.mp (all before edge) with same | old
              · exact .inr (by simp [same])
              · exact .inl old
          | cons first front =>
              rw [List.cons_append, List.cons.injEq] at split
              obtain ⟨rfl, rfl⟩ := split
              rcases later front last back rfl before edge with old | new
              · rcases List.mem_cons.mp old with same | older
                · exact .inr (by simp [same])
                · exact .inl older
              · exact .inr (List.mem_cons_of_mem _ new)
      · have collected : collectBack g (fuel + 2) [id] known [] =
            ((collectBack g (fuel + 2) [id] known []).1, id :: second :: more) :=
          Prod.ext rfl grown
        rw [collected]
        rw [List.mem_cons, not_or] at away
        exact ⟨[], id, rest, rfl, edge, away.2, by simpa using away.1⟩

end Backward

theorem onCycle_of_later {state : Finishing} (searching : Searching g [] state)
    {front rest : List NodeId} {id second : NodeId} (split : state.finished = front ++ id :: rest)
    (edge : g.Edge second id) (finished : second ∈ state.finished)
    (away : second ∉ front ++ [id]) : TransGen g.Edge second second := by
  have later : second ∈ rest := by
    rw [split, List.append_cons] at finished
    exact (List.mem_append.mp finished).resolve_left away
  obtain ⟨left, right, rfl⟩ := List.append_of_mem later
  have regrouped : state.finished = (front ++ id :: left) ++ second :: right := by
    rw [split, List.append_assoc, List.cons_append]
  -- `second` was finished before its successor `id`, so `id` leads back to it.
  rcases searching.order _ second right regrouped id edge with before | path
  · have distinct := searching.nodup
    rw [regrouped, List.nodup_append] at distinct
    exact absurd rfl (distinct.2.2 id (by simp) id (List.mem_cons_of_mem _ before))
  · exact .head' edge path

theorem cycleWitness?_cases (closed : g.Closed) :
    match cycleWitness? g with
    | some through => TransGen g.Edge through through
    | none => ∀ id, ¬TransGen g.Edge id id := by
  have forward := finishFrom_meets closed (fun _ member => member) (searching_start g)
  unfold cycleWitness?
  cases searched : finishFrom g g.vertices ⟨[], []⟩ with
  | cycle through =>
      rw [searched] at forward
      exact .single forward
  | done state =>
      rw [searched] at forward
      obtain ⟨searching, all⟩ := forward
      have finished (id : NodeId) (vertex : id ∈ g.vertices) : id ∈ state.finished := by
        by_contra unfinished
        exact List.not_mem_nil (searching.waits id ⟨all id (.inl vertex), unfinished⟩)
      have unknown : ∀ id ∈ state.finished, id ∉ ([] : List NodeId) := by simp
      have back := checkBack_cases
        (fun id member => searching.vertices id (searching.known id member)) searching.nodup
        unknown
      dsimp only
      cases found : checkBack g state.finished [] with
      | some second =>
          rw [found] at back
          obtain ⟨front, id, rest, split, edge, -, away⟩ := back
          exact onCycle_of_later searching split edge (finished second (closed second id edge).1)
            away
      | none =>
          rw [found] at back
          -- Every vertex is finished before its predecessors, which no cycle allows.
          have preceded : Preceded (fun id before => g.Edge before id) state.finished := by
            intro front id rest split before edge
            rcases back front id rest split before edge with old | new
            · cases old
            · rcases List.mem_append.mp new with earlier | same
              · exact earlier
              · rw [List.mem_singleton.mp same] at edge
                have member : id ∈ state.finished := by rw [split]; simp
                exact absurd edge (searching.loopFree id (searching.known id member))
          intro id cycle
          obtain ⟨next, edge, -⟩ := Relation.TransGen.head'_iff.mp cycle
          exact preceded.acyclic searching.nodup (finished id (closed id next edge).1) cycle.swap

end Graph

namespace Registry

theorem onCycle_iff {registry : Registry} (canonical : registry.Canonical)
    (distinct : registry.ids.Nodup) (id : NodeId) :
    registry.OnCycle id ↔ TransGen (Graph.Digraph.ofRegistry registry).Edge id id := by
  have same : (Graph.Digraph.ofRegistry registry).Edge = Function.swap registry.Requires := by
    funext source target
    exact propext (Graph.Digraph.edge_ofRegistry canonical distinct)
  rw [same, Relation.transGen_swap]
  rfl

theorem acyclic_iff {registry : Registry} (canonical : registry.Canonical) :
    (∀ id, ¬registry.OnCycle id) ↔ ∀ targets,
      (∀ target ∈ targets, registry.contains target = true) →
        ∃ plan, Plan.make registry targets = .ok plan := by
  constructor
  · intro acyclic targets registered
    have known : registry.firstUnknown? targets = none := by
      rw [firstUnknown?, Option.map_eq_none_iff, List.find?_eq_none]
      intro target wanted
      simp [registered target wanted]
    exact (Plan.make_ends canonical known).2.mpr fun id _ => acyclic id
  · intro planned id cycle
    obtain ⟨next, ⟨node, found, -⟩, -⟩ := Relation.TransGen.head'_iff.mp cycle
    have spelled := canonical.found found
    obtain ⟨plan, made⟩ := planned [id] (by
      intro target wanted
      rw [List.mem_singleton.mp wanted]
      exact (contains_iff spelled).mpr ⟨node, found⟩)
    exact Plan.make_acyclic canonical made
      ⟨id, by simp, by rw [spelled]⟩ cycle

end Registry

namespace Graph

theorem acyclic_of_validate {registry : Registry} (built : registry.Built)
    (canonical : registry.Canonical) (valid : validate registry = .ok ()) (id : NodeId) :
    ¬registry.OnCycle id := by
  have distinct := built.nodup
  have witness := cycleWitness?_cases (Digraph.closed_ofRegistry canonical distinct)
  unfold validate at valid
  split at valid
  · cases valid
  · rename_i unfound
    rw [unfound] at witness
    exact fun cycle => witness id ((Registry.onCycle_iff canonical distinct id).mp cycle)

/-- Checking the rule graph and planning from it agree on what a cycle is, and the node that the
check names is on one. -/
theorem validate_agrees {registry : Registry} (built : registry.Built)
    (canonical : registry.Canonical) :
    (validate registry = .ok () ↔ ∀ id, ¬registry.OnCycle id) ∧
    (validate registry = .ok () ↔ ∀ targets,
      (∀ target ∈ targets, registry.contains target = true) →
        ∃ plan, Plan.make registry targets = .ok plan) ∧
    ∀ failure, validate registry = .error failure →
      ∃ id, failure = .cyclicGraph id ∧ registry.OnCycle id := by
  have distinct := built.nodup
  have witness := cycleWitness?_cases (Digraph.closed_ofRegistry canonical distinct)
  rw [← Registry.acyclic_iff canonical]
  unfold validate
  cases found : cycleWitness? (.ofRegistry registry) with
  | some id =>
      rw [found] at witness
      have cycle := (Registry.onCycle_iff canonical distinct id).mpr witness
      have refused : ¬∀ other, ¬registry.OnCycle other := fun acyclic => acyclic id cycle
      refine ⟨iff_of_false (by simp) refused, iff_of_false (by simp) refused, ?_⟩
      intro failure failed
      cases failed
      exact ⟨id, rfl, cycle⟩
  | none =>
      rw [found] at witness
      have acyclic : ∀ id, ¬registry.OnCycle id := fun id cycle =>
        witness id ((Registry.onCycle_iff canonical distinct id).mp cycle)
      refine ⟨iff_of_true rfl acyclic, iff_of_true rfl acyclic, ?_⟩
      intro failure failed
      cases failed

theorem validate_agrees_knot :
    validate Plan.knot = .error (.cyclicGraph "right") ∧ Plan.knot.OnCycle "right" := by
  have built : Plan.knot.Built := ⟨Plan.knot.nodes, by rfl⟩
  have canonical : Plan.knot.Canonical := ⟨by decide, by decide⟩
  have failed : validate Plan.knot = .error (.cyclicGraph "right") := by rfl
  obtain ⟨id, named, cycle⟩ := (validate_agrees built canonical).2.2 _ failed
  cases named
  exact ⟨failed, cycle⟩

end Graph

end ArtifactPipeline
