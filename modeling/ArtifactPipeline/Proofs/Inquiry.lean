import ArtifactPipeline.Freshness
import ArtifactPipeline.Proofs.PlanOrder

set_option autoImplicit false

/-!
The oracle's look at one node as a tree of questions, apart from how they are answered and what is
remembered meanwhile.
-/

namespace ArtifactPipeline

/-- How one node is decided: questions about registered nodes, each with what its answer leads to.
A question that fails ends it. -/
inductive Inquiry where
  | settled (answer : Except Failure Bool)
  | noting (path : Path) (rest : Inquiry)
  | asking (next : Artifact) (rest : Bool → Inquiry)

namespace Inquiry

def follow {σ : Type} (ask : σ → Artifact → Except Failure Bool × σ) (note : Path → σ → σ) :
    σ → Inquiry → Except Failure Bool × σ
  | state, settled answer => (answer, state)
  | state, noting path rest => follow ask note (note path state) rest
  | state, asking next rest =>
      match ask state next with
      | (.error failure, state) => (.error failure, state)
      | (.ok dirty, state) => follow ask note state (rest dirty)

def All (property : Artifact → Prop) : Inquiry → Prop
  | settled _ => True
  | noting _ rest => rest.All property
  | asking next rest => property next ∧ ∀ dirty, (rest dirty).All property

theorem follow_map {σ τ : Type} {ask : σ → Artifact → Except Failure Bool × σ}
    {other : τ → Artifact → Except Failure Bool × τ} {note : Path → σ → σ} {keep : Path → τ → τ}
    (view : σ → τ) (asked : ∀ state next, other (view state) next =
      ((ask state next).1, view (ask state next).2))
    (noted : ∀ path state, keep path (view state) = view (note path state)) (state : σ)
    (inquiry : Inquiry) :
    inquiry.follow other keep (view state) =
      ((inquiry.follow ask note state).1, view (inquiry.follow ask note state).2) := by
  induction inquiry generalizing state with
  | settled answer => rfl
  | noting path rest ih =>
      rw [follow, follow, noted]
      exact ih _
  | asking next rest ih =>
      rw [follow, follow, asked]
      rcases ask state next with ⟨failure | dirty, state⟩
      · rfl
      · exact ih dirty state

section Course

open Freshness

variable {W : Type} [Disk W] (registry : Registry) (disk : W)

def ofPrerequisite (node : Artifact) (own : Option Nat) (id : NodeId) (go : Bool → Inquiry) :
    Inquiry :=
  match registry.get? id with
  | none =>
      match sourceIsNewer disk node id own with
      | .error failure => .settled (.error failure)
      | .ok now => go now
  | some prerequisite =>
      .asking prerequisite fun dirty =>
        match prerequisite.kind with
        | .directory => go false
        | .phony => go dirty
        | .file =>
            if dirty then go true
            else
              match modified disk ⟨id⟩ with
              | .error failure => .settled (.error failure)
              | .ok mtime => go (newerThan mtime own)

def ofMatches (own : Option Nat) (go : Bool → Inquiry) : Bool → List Path → Inquiry
  | dirty, [] => go dirty
  | dirty, path :: rest =>
      match modified disk path with
      | .error failure => .settled (.error failure)
      | .ok mtime =>
          if newerThan mtime own then .noting path (ofMatches own go true rest)
          else ofMatches own go dirty rest

def ofPrerequisites (node : Artifact) (own : Option Nat) : Bool → List Prerequisite → Inquiry
  | dirty, [] => .settled (.ok dirty)
  | dirty, .node id :: rest =>
      ofPrerequisite registry disk node own id fun now =>
        ofPrerequisites node own (dirty || now) rest
  | dirty, .glob pattern :: rest =>
      match Glob.expand disk pattern with
      | .error failure => .settled (.error failure)
      | .ok paths =>
          ofMatches disk own (fun dirty => ofPrerequisites node own dirty rest) dirty paths

def ofNode (node : Artifact) : Inquiry :=
  match node.kind with
  | .phony => .settled (.ok true)
  | .directory => .settled (.ok !Disk.isDir disk node.path)
  | .file =>
      match modified disk node.path with
      | .error failure => .settled (.error failure)
      | .ok own => ofPrerequisites registry disk node own own.isNone node.prerequisites

variable (ask : Verdicts → Artifact → Ruling) (node : Artifact) (own : Option Nat)

def noteFor (path : Path) (verdicts : Verdicts) : Verdicts :=
  verdicts.noteNewer node.id path

theorem follow_ofPrerequisite (id : NodeId) (go : Bool → Inquiry) (verdicts : Verdicts) :
    (ofPrerequisite registry disk node own id go).follow ask (noteFor node) verdicts =
      match prerequisiteRuling registry disk ask node own verdicts id with
      | (.error failure, verdicts) => (.error failure, verdicts)
      | (.ok now, verdicts) => (go now).follow ask (noteFor node) verdicts := by
  unfold ofPrerequisite prerequisiteRuling
  cases registry.get? id with
  | none => rcases sourceIsNewer disk node id own with failure | now <;> rfl
  | some prerequisite =>
      simp only [Inquiry.follow]
      rcases ask verdicts prerequisite with ⟨failure | dirty, verdicts⟩
      · rfl
      · cases prerequisite.kind with
        | directory => rfl
        | phony => rfl
        | file =>
            cases dirty with
            | true => rfl
            | false => rcases modified disk ⟨id⟩ with failure | mtime <;> rfl

theorem follow_ofMatches (go : Bool → Inquiry) (paths : List Path) (dirty : Bool)
    (verdicts : Verdicts) :
    (ofMatches disk own go dirty paths).follow ask (noteFor node) verdicts =
      match matchesRuling disk node own verdicts dirty paths with
      | (.error failure, verdicts) => (.error failure, verdicts)
      | (.ok dirty, verdicts) => (go dirty).follow ask (noteFor node) verdicts := by
  induction paths generalizing dirty verdicts with
  | nil => rfl
  | cons path rest ih =>
      rw [ofMatches, matchesRuling]
      rcases modified disk path with failure | mtime
      · rfl
      · by_cases later : newerThan mtime own = true
        · simp only [later, if_true, Inquiry.follow]
          exact ih true _
        · simp only [later]
          exact ih dirty verdicts

theorem follow_ofPrerequisites (prerequisites : List Prerequisite) (dirty : Bool)
    (verdicts : Verdicts) :
    (ofPrerequisites registry disk node own dirty prerequisites).follow ask (noteFor node)
        verdicts =
      prerequisitesRuling registry disk ask node own verdicts dirty prerequisites := by
  induction prerequisites generalizing dirty verdicts with
  | nil => rfl
  | cons prerequisite rest ih =>
      cases prerequisite with
      | node id =>
          rw [ofPrerequisites, prerequisitesRuling, follow_ofPrerequisite]
          rcases prerequisiteRuling registry disk ask node own verdicts id with
            ⟨failure | now, verdicts⟩
          · rfl
          · exact ih _ _
      | glob pattern =>
          rw [ofPrerequisites, prerequisitesRuling]
          rcases Glob.expand disk pattern with failure | paths
          · rfl
          · simp only [follow_ofMatches]
            rcases matchesRuling disk node own verdicts dirty paths with ⟨failure | dirty, verdicts⟩
            · rfl
            · exact ih _ _

theorem follow_ofNode (verdicts : Verdicts) :
    (ofNode registry disk node).follow ask (noteFor node) verdicts =
      evaluate registry disk ask verdicts node := by
  unfold ofNode evaluate
  cases node.kind with
  | phony => rfl
  | directory => rfl
  | file =>
      rcases modified disk node.path with failure | own
      · rfl
      · exact follow_ofPrerequisites registry disk ask node own _ _ _

variable {registry disk node} {property : Artifact → Prop}

theorem all_ofPrerequisite {id : NodeId} {go : Bool → Inquiry}
    (asked : ∀ next, registry.get? id = some next → property next)
    (all : ∀ now, (go now).All property) :
    (ofPrerequisite registry disk node own id go).All property := by
  unfold ofPrerequisite
  split
  · split
    · trivial
    · exact all _
  · rename_i prerequisite known
    refine ⟨asked prerequisite known, fun dirty => ?_⟩
    dsimp only
    split
    · exact all _
    · exact all _
    · split_ifs
      · exact all _
      · split
        · trivial
        · exact all _

theorem all_ofMatches {go : Bool → Inquiry} (all : ∀ dirty, (go dirty).All property)
    (paths : List Path) (dirty : Bool) : (ofMatches disk own go dirty paths).All property := by
  induction paths generalizing dirty with
  | nil => exact all dirty
  | cons path rest ih =>
      rw [ofMatches]
      split
      · trivial
      · split_ifs
        · exact ih true
        · exact ih dirty

theorem all_ofPrerequisites {prerequisites : List Prerequisite}
    (asked : ∀ id, .node id ∈ prerequisites → ∀ next, registry.get? id = some next → property next)
    (dirty : Bool) : (ofPrerequisites registry disk node own dirty prerequisites).All property := by
  induction prerequisites generalizing dirty with
  | nil => trivial
  | cons prerequisite rest ih =>
      have later := ih fun id member => asked id (List.mem_cons_of_mem _ member)
      cases prerequisite with
      | node id => exact all_ofPrerequisite own (asked id (by simp)) fun now => later _
      | glob pattern =>
          rw [ofPrerequisites]
          split
          · trivial
          · exact all_ofMatches own later _ dirty

theorem all_ofNode (asked : ∀ id, .node id ∈ node.prerequisites →
    ∀ next, registry.get? id = some next → property next) :
    (ofNode registry disk node).All property := by
  unfold ofNode
  split
  · trivial
  · trivial
  · split
    · trivial
    · exact all_ofPrerequisites _ asked _

theorem all_registered (registry : Registry) (disk : W) (node : Artifact) :
    (ofNode registry disk node).All fun next => registry.find? next.id = some next :=
  all_ofNode fun _ _ _ known => Registry.find?_self known

end Course

end Inquiry

namespace Freshness

section Look

variable {W : Type} [Disk W] {registry : Registry} {disk : W} {depth : Nat}
  {underway : List NodeId} {verdicts : Verdicts} {node : Artifact}

theorem ruling_remembered {dirty : Bool} (decided : verdicts.get? node.id = some dirty) :
    ruling registry disk depth underway verdicts node = (.ok dirty, verdicts) := by
  unfold ruling
  rw [decided]

theorem ruling_refused (undecided : verdicts.get? node.id = none)
    (refused : node.id ∈ underway ∨ depth = 0) :
    ruling registry disk depth underway verdicts node =
      (.error (.cyclicCheck node.id), verdicts) := by
  unfold ruling
  rw [undecided]
  rcases refused with looping | rfl
  · exact if_pos looping
  · exact ite_self _

theorem ruling_entered (undecided : verdicts.get? node.id = none)
    (entered : node.id ∉ underway) :
    ruling registry disk (depth + 1) underway verdicts node =
      match (Inquiry.ofNode registry disk node).follow
          (ruling registry disk depth (node.id :: underway)) (Inquiry.noteFor node) verdicts with
      | (.error failure, verdicts) => (.error failure, verdicts)
      | (.ok dirty, verdicts) => (.ok dirty, verdicts.record node.id dirty) := by
  rw [ruling, undecided, Inquiry.follow_ofNode]
  exact if_neg entered

end Look

end Freshness

namespace Inquiry

open Freshness

theorem follow_remembered {W : Type} [Disk W] (registry : Registry) (disk : W) (depth : Nat)
    (underway : List NodeId) (user : Artifact) {inquiry : Inquiry} {verdicts : Verdicts}
    (known : inquiry.All fun next => (verdicts.get? next.id).isSome = true) (id : NodeId) :
    (inquiry.follow (ruling registry disk depth underway) (noteFor user) verdicts).2.get? id =
      verdicts.get? id := by
  induction inquiry generalizing verdicts with
  | settled answer => rfl
  | noting path rest ih =>
      have noted : rest.All fun next =>
          ((noteFor user path verdicts).get? next.id).isSome = true := known
      exact ih noted
  | asking next rest ih =>
      obtain ⟨dirty, decided⟩ := Option.isSome_iff_exists.mp known.1
      rw [follow, ruling_remembered decided]
      exact ih dirty (known.2 dirty)

end Inquiry

end ArtifactPipeline
