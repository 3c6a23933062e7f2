import ArtifactPipeline.Proofs.Inquiry
import ArtifactPipeline.Proofs.Planning
import ArtifactPipeline.Proofs.Staleness

set_option autoImplicit false

/-!
What the oracle remembers never shows: an answer is the same whatever was asked before, also on a
graph with cycles, and nothing is left under evaluation.

An answer is reached while other nodes are under evaluation and is used again while yet others are.
It holds there because a node with an answer consults itself on no path: whoever asks for it is not
among the nodes that it consults. Failures depend on where one comes from, and are not remembered.
-/

namespace ArtifactPipeline

open Relation (ReflTransGen TransGen)

namespace Inquiry

section Answers

variable (course : Artifact → Inquiry)

inductive Yields : Inquiry → Bool → Prop where
  | settled (dirty : Bool) : Yields (.settled (.ok dirty)) dirty
  | noting {path : Path} {rest : Inquiry} {dirty : Bool} (yields : Yields rest dirty) :
      Yields (.noting path rest) dirty
  | asking {next : Artifact} {rest : Bool → Inquiry} {now dirty : Bool}
      (asked : Yields (course next) now) (yields : Yields (rest now) dirty) :
      Yields (.asking next rest) dirty

inductive Asks : Inquiry → Artifact → Prop where
  | now (next : Artifact) (rest : Bool → Inquiry) : Asks (.asking next rest) next
  | noting {path : Path} {rest : Inquiry} {next : Artifact} (asks : Asks rest next) :
      Asks (.noting path rest) next
  | later {first next : Artifact} {rest : Bool → Inquiry} {dirty : Bool}
      (asked : Yields course (course first) dirty) (asks : Asks (rest dirty) next) :
      Asks (.asking first rest) next

def Consults (node next : Artifact) : Prop :=
  Asks course (course node) next

end Answers

variable {course : Artifact → Inquiry} {inquiry : Inquiry} {node next : Artifact}

theorem Yields.unique {dirty other : Bool} (yields : Yields course inquiry dirty)
    (again : Yields course inquiry other) : dirty = other := by
  induction yields generalizing other with
  | settled dirty =>
      cases again
      rfl
  | noting _ ih =>
      cases again with
      | noting again => exact ih again
  | asking _ _ askedOnce afterwards =>
      cases again with
      | asking askedAgain again =>
          rw [askedOnce askedAgain] at afterwards
          exact afterwards again

theorem Asks.of_all {property : Artifact → Prop} (all : inquiry.All property)
    (asks : Asks course inquiry next) : property next := by
  induction asks with
  | now next rest => exact all.1
  | noting _ ih => exact ih all
  | later _ _ ih => exact ih (all.2 _)

theorem Yields.acc {dirty : Bool} (yields : Yields course inquiry dirty)
    (asks : Asks course inquiry next) :
    Acc (fun later earlier => Consults course earlier later) next := by
  induction yields generalizing next with
  | settled => cases asks
  | noting _ ih =>
      cases asks with
      | noting asks => exact ih asks
  | asking asked _ first afterwards =>
      cases asks with
      | now => exact ⟨_, fun other consulted => first consulted⟩
      | later askedAgain asks =>
          rw [← asked.unique askedAgain] at asks
          exact afterwards asks

theorem Yields.not_cyclic {dirty : Bool} (yields : Yields course (course node) dirty) :
    ¬TransGen (Consults course) node node := by
  have accessible : Acc (fun later earlier => Consults course earlier later) node :=
    ⟨_, fun other consulted => yields.acc consulted⟩
  clear yields
  induction accessible with
  | intro node _ ih =>
      intro cycle
      obtain ⟨next, step, back⟩ := TransGen.head'_iff.mp cycle
      exact ih next step (TransGen.tail' back step)

end Inquiry

namespace Freshness

variable {W : Type} [Disk W]

def Settles (registry : Registry) (disk : W) (node : Artifact) (dirty : Bool) : Prop :=
  Inquiry.Yields (Inquiry.ofNode registry disk) (Inquiry.ofNode registry disk node) dirty

/-- The decision about the first node comes to ask about the second. -/
def Consults (registry : Registry) (disk : W) : Artifact → Artifact → Prop :=
  Inquiry.Consults (Inquiry.ofNode registry disk)

/-- What is remembered about registered nodes are answers that they have. -/
def Faithful (registry : Registry) (disk : W) (verdicts : Verdicts) : Prop :=
  ∀ node dirty, registry.find? node.id = some node → verdicts.get? node.id = some dirty →
    Settles registry disk node dirty

variable {registry : Registry} {disk : W}

theorem Consults.registered {node next : Artifact} (consults : Consults registry disk node next) :
    registry.find? next.id = some next :=
  Inquiry.Asks.of_all (Inquiry.all_registered registry disk node) consults

theorem faithful_none : Faithful registry disk .none := by
  intro node dirty _ decided
  cases decided

theorem Faithful.record {verdicts : Verdicts} (faithful : Faithful registry disk verdicts)
    {node : Artifact} {dirty : Bool} (found : registry.find? node.id = some node)
    (settles : Settles registry disk node dirty) :
    Faithful registry disk (verdicts.record node.id dirty) := by
  intro other answer known decided
  rw [Verdicts.get?_record] at decided
  cases earlier : verdicts.get? other.id with
  | some before =>
      rw [earlier] at decided
      cases decided
      exact faithful other answer known earlier
  | none =>
      rw [earlier, Option.none_or] at decided
      split_ifs at decided with same
      cases decided
      rw [same, found] at known
      cases known
      exact settles

structure Truthful (registry : Registry) (disk : W) (inquiry : Inquiry) (ruling : Ruling) :
    Prop where
  faithful : Faithful registry disk ruling.2
  yields : ∀ dirty, ruling.1 = .ok dirty →
    Inquiry.Yields (Inquiry.ofNode registry disk) inquiry dirty

theorem follow_truthful (ask : Verdicts → Artifact → Ruling) (note : Path → Verdicts → Verdicts)
    (asked : ∀ verdicts next, Faithful registry disk verdicts →
      registry.find? next.id = some next →
        Truthful registry disk (.ofNode registry disk next) (ask verdicts next))
    (noted : ∀ path verdicts, Faithful registry disk verdicts →
      Faithful registry disk (note path verdicts))
    {inquiry : Inquiry} (all : inquiry.All fun next => registry.find? next.id = some next)
    {verdicts : Verdicts} (faithful : Faithful registry disk verdicts) :
    Truthful registry disk inquiry (inquiry.follow ask note verdicts) := by
  induction inquiry generalizing verdicts with
  | settled answer =>
      refine ⟨faithful, fun dirty answered => ?_⟩
      have same : answer = .ok dirty := answered
      rw [same]
      exact .settled dirty
  | noting path rest ih =>
      have truthful := ih all (noted path verdicts faithful)
      exact ⟨truthful.faithful, fun dirty answered => .noting (truthful.yields dirty answered)⟩
  | asking next rest ih =>
      have first := asked verdicts next faithful all.1
      rw [Inquiry.follow]
      generalize ask verdicts next = looked at first ⊢
      obtain ⟨failure | now, verdicts⟩ := looked
      · exact ⟨first.faithful, fun dirty answered => by cases answered⟩
      · have truthful := ih now (all.2 now) first.faithful
        exact ⟨truthful.faithful, fun dirty answered =>
          .asking (first.yields now rfl) (truthful.yields dirty answered)⟩

theorem truthful_remembered {depth : Nat} {underway : List NodeId} {verdicts : Verdicts}
    {node : Artifact} {dirty : Bool} (found : registry.find? node.id = some node)
    (faithful : Faithful registry disk verdicts) (decided : verdicts.get? node.id = some dirty) :
    Truthful registry disk (.ofNode registry disk node)
      (ruling registry disk depth underway verdicts node) := by
  rw [ruling_remembered decided]
  refine ⟨faithful, fun answer answered => ?_⟩
  cases answered
  exact faithful node dirty found decided

theorem truthful_refused {depth : Nat} {underway : List NodeId} {verdicts : Verdicts}
    {node : Artifact} {inquiry : Inquiry} (faithful : Faithful registry disk verdicts)
    (undecided : verdicts.get? node.id = none) (refused : node.id ∈ underway ∨ depth = 0) :
    Truthful registry disk inquiry (ruling registry disk depth underway verdicts node) := by
  rw [ruling_refused undecided refused]
  exact ⟨faithful, fun answer answered => by cases answered⟩

theorem ruling_truthful {depth : Nat} {underway : List NodeId} {verdicts : Verdicts}
    {node : Artifact} (found : registry.find? node.id = some node)
    (faithful : Faithful registry disk verdicts) :
    Truthful registry disk (.ofNode registry disk node)
      (ruling registry disk depth underway verdicts node) := by
  induction depth generalizing underway verdicts node with
  | zero =>
      cases decided : verdicts.get? node.id with
      | some dirty => exact truthful_remembered found faithful decided
      | none => exact truthful_refused faithful decided (.inr rfl)
  | succ depth ih =>
      cases decided : verdicts.get? node.id with
      | some dirty => exact truthful_remembered found faithful decided
      | none =>
          by_cases looping : node.id ∈ underway
          · exact truthful_refused faithful decided (.inl looping)
          · rw [ruling_entered decided looping]
            have truthful := follow_truthful
              (ruling registry disk depth (node.id :: underway)) (Inquiry.noteFor node)
              (fun verdicts next kept registered => ih registered kept)
              (fun _ _ kept => kept) (Inquiry.all_registered registry disk node) faithful
            generalize (Inquiry.ofNode registry disk node).follow _ _ verdicts = looked
              at truthful ⊢
            obtain ⟨failure | dirty, after⟩ := looked
            · exact ⟨truthful.faithful, fun answer answered => by cases answered⟩
            · have settles := truthful.yields dirty rfl
              refine ⟨truthful.faithful.record found settles, fun answer answered => ?_⟩
              cases answered
              exact settles

/-- The nodes under evaluation lead to the one that is asked about, and `depth` is room for all
that are not under evaluation yet. -/
structure Placed (registry : Registry) (disk : W) (depth : Nat) (underway : List NodeId)
    (node : Artifact) : Prop where
  found : registry.find? node.id = some node
  distinct : underway.Nodup
  room : registry.size ≤ depth + underway.length
  led : ∀ id ∈ underway, ∃ user, registry.find? id = some user ∧
    TransGen (Consults registry disk) user node

section Placed

variable {depth : Nat} {underway : List NodeId} {node : Artifact}

theorem Placed.start (spare : Nat) (found : registry.find? node.id = some node) :
    Placed registry disk (registry.size + spare) [] node :=
  ⟨found, List.nodup_nil, by simp, fun _ member => by cases member⟩

theorem Placed.next (placed : Placed registry disk (depth + 1) underway node)
    (entered : node.id ∉ underway) {next : Artifact} (consults : Consults registry disk node next) :
    Placed registry disk depth (node.id :: underway) next where
  found := consults.registered
  distinct := List.nodup_cons.mpr ⟨entered, placed.distinct⟩
  room := by
    have room := placed.room
    rw [List.length_cons]
    omega
  led := by
    intro id member
    rcases List.mem_cons.mp member with rfl | earlier
    · exact ⟨node, placed.found, .single consults⟩
    · obtain ⟨user, found, path⟩ := placed.led id earlier
      exact ⟨user, found, path.tail consults⟩

theorem Placed.deep (placed : Placed registry disk depth underway node)
    (entered : node.id ∉ underway) : ∃ below, depth = below + 1 := by
  have known : node.id :: underway ⊆ registry.ids := by
    intro id member
    rcases List.mem_cons.mp member with rfl | earlier
    · exact Registry.mem_ids_of_find? placed.found
    · obtain ⟨user, found, -⟩ := placed.led id earlier
      exact Registry.mem_ids_of_find? found
  have fits := (List.nodup_cons.mpr ⟨entered, placed.distinct⟩).length_le_of_subset known
  have room := placed.room
  rw [Registry.ids, List.length_map, List.length_cons] at fits
  rw [Registry.size] at room
  exact Nat.exists_eq_add_one_of_ne_zero (by omega)

theorem Placed.entered (placed : Placed registry disk depth underway node) {dirty : Bool}
    (settles : Settles registry disk node dirty) : node.id ∉ underway := by
  intro looping
  obtain ⟨user, found, path⟩ := placed.led node.id looping
  rw [placed.found] at found
  cases found
  exact settles.not_cyclic path

end Placed

theorem ruling_of_follow {depth : Nat} {underway : List NodeId} {node : Artifact} {dirty : Bool}
    (settles : Settles registry disk node dirty)
    (placed : Placed registry disk depth underway node) {verdicts : Verdicts}
    (faithful : Faithful registry disk verdicts)
    (followed : ∀ below, depth = below + 1 → node.id ∉ underway →
      ((Inquiry.ofNode registry disk node).follow
        (ruling registry disk below (node.id :: underway)) (Inquiry.noteFor node) verdicts).1 =
          .ok dirty) :
    (ruling registry disk depth underway verdicts node).1 = .ok dirty := by
  cases decided : verdicts.get? node.id with
  | some known =>
      rw [ruling_remembered decided, (faithful node known placed.found decided).unique settles]
  | none =>
      have entered := placed.entered settles
      obtain ⟨below, rfl⟩ := placed.deep entered
      have looked := followed below rfl entered
      rw [ruling_entered decided entered]
      generalize (Inquiry.ofNode registry disk node).follow _ _ verdicts = ruling at looked ⊢
      obtain ⟨answer, after⟩ := ruling
      cases looked
      rfl

theorem follow_of_yields {inquiry : Inquiry} {dirty : Bool}
    (yields : Inquiry.Yields (.ofNode registry disk) inquiry dirty) {depth : Nat}
    {underway : List NodeId} (placed : ∀ next,
      Inquiry.Asks (.ofNode registry disk) inquiry next →
        Placed registry disk depth underway next)
    (user : Artifact) {verdicts : Verdicts} (faithful : Faithful registry disk verdicts) :
    (inquiry.follow (ruling registry disk depth underway) (Inquiry.noteFor user) verdicts).1 =
      .ok dirty := by
  induction yields generalizing depth underway user verdicts with
  | settled dirty => rfl
  | noting _ ih => exact ih (fun next asks => placed next (.noting asks)) user faithful
  | @asking next rest now dirty asked _ first afterwards =>
      have here := placed next (.now next rest)
      have truthful : Truthful registry disk _
          (ruling registry disk depth underway verdicts next) :=
        ruling_truthful here.found faithful
      have answered := ruling_of_follow asked here faithful fun below deep entered =>
        first (fun other asks => (deep ▸ here).next entered asks) next faithful
      rw [Inquiry.follow]
      generalize ruling registry disk depth underway verdicts next = looked at truthful answered ⊢
      obtain ⟨answer, after⟩ := looked
      cases answered
      exact afterwards (fun other asks => placed other (.later asked asks)) user truthful.faithful

theorem ruling_of_settles {depth : Nat} {underway : List NodeId} {node : Artifact} {dirty : Bool}
    (settles : Settles registry disk node dirty)
    (placed : Placed registry disk depth underway node) {verdicts : Verdicts}
    (faithful : Faithful registry disk verdicts) :
    (ruling registry disk depth underway verdicts node).1 = .ok dirty :=
  ruling_of_follow settles placed faithful fun _ deep entered =>
    follow_of_yields settles (fun _ asks => (deep ▸ placed).next entered asks) node faithful

theorem follow_agrees (ask other : Verdicts → Artifact → Ruling)
    (note : Path → Verdicts → Verdicts)
    (noted : ∀ path verdicts, Faithful registry disk verdicts →
      Faithful registry disk (note path verdicts))
    (asked : ∀ verdicts next, Faithful registry disk verdicts →
      registry.find? next.id = some next →
        Truthful registry disk (.ofNode registry disk next) (ask verdicts next))
    (otherAsked : ∀ verdicts next, Faithful registry disk verdicts →
      registry.find? next.id = some next →
        Truthful registry disk (.ofNode registry disk next) (other verdicts next))
    {inquiry : Inquiry} (all : inquiry.All fun next => registry.find? next.id = some next)
    (agree : ∀ next, Inquiry.Asks (.ofNode registry disk) inquiry next →
      ∀ left right, Faithful registry disk left → Faithful registry disk right →
        (ask left next).1 = (other right next).1)
    {left right : Verdicts} (leftFaithful : Faithful registry disk left)
    (rightFaithful : Faithful registry disk right) :
    (inquiry.follow ask note left).1 = (inquiry.follow other note right).1 := by
  induction inquiry generalizing left right with
  | settled answer => rfl
  | noting path rest ih =>
      exact ih all (fun next asks => agree next (.noting asks)) (noted path left leftFaithful)
        (noted path right rightFaithful)
  | asking next rest ih =>
      have same := agree next (.now next rest) left right leftFaithful rightFaithful
      have onLeft := asked left next leftFaithful all.1
      have onRight := otherAsked right next rightFaithful all.1
      rw [Inquiry.follow, Inquiry.follow]
      generalize ask left next = here at same onLeft ⊢
      generalize other right next = there at same onRight ⊢
      obtain ⟨answer, left⟩ := here
      obtain ⟨_, right⟩ := there
      cases same
      cases answer with
      | error failure => rfl
      | ok now =>
          have settles := onLeft.yields now rfl
          exact ih now (all.2 now) (fun other asks => agree other (.later settles asks))
            onLeft.faithful onRight.faithful

theorem ruling_agrees_of_follow {depth deep : Nat} {underway : List NodeId} {node : Artifact}
    (placed : Placed registry disk depth underway node)
    (alsoPlaced : Placed registry disk deep underway node) {left right : Verdicts}
    (leftFaithful : Faithful registry disk left) (rightFaithful : Faithful registry disk right)
    (followed : ∀ below, depth = below + 1 → ∀ low, deep = low + 1 → node.id ∉ underway →
      ((Inquiry.ofNode registry disk node).follow
        (ruling registry disk below (node.id :: underway)) (Inquiry.noteFor node) left).1 =
      ((Inquiry.ofNode registry disk node).follow
        (ruling registry disk low (node.id :: underway)) (Inquiry.noteFor node) right).1) :
    (ruling registry disk depth underway left node).1 =
      (ruling registry disk deep underway right node).1 := by
  cases onLeft : left.get? node.id with
  | some dirty =>
      have settles := leftFaithful node dirty placed.found onLeft
      rw [ruling_remembered onLeft, ruling_of_settles settles alsoPlaced rightFaithful]
  | none =>
      cases onRight : right.get? node.id with
      | some dirty =>
          have settles := rightFaithful node dirty placed.found onRight
          rw [ruling_remembered onRight, ruling_of_settles settles placed leftFaithful]
      | none =>
          by_cases looping : node.id ∈ underway
          · rw [ruling_refused onLeft (.inl looping), ruling_refused onRight (.inl looping)]
          · obtain ⟨below, rfl⟩ := placed.deep looping
            obtain ⟨low, rfl⟩ := alsoPlaced.deep looping
            have same := followed below rfl low rfl looping
            rw [ruling_entered onLeft looping, ruling_entered onRight looping]
            generalize (Inquiry.ofNode registry disk node).follow
              (ruling registry disk below (node.id :: underway)) _ left = here at same ⊢
            generalize (Inquiry.ofNode registry disk node).follow
              (ruling registry disk low (node.id :: underway)) _ right = there at same ⊢
            obtain ⟨answer, left⟩ := here
            obtain ⟨_, right⟩ := there
            cases same
            cases answer <;> rfl

theorem ruling_agrees {depth deep : Nat} {underway : List NodeId} {node : Artifact}
    (placed : Placed registry disk depth underway node)
    (alsoPlaced : Placed registry disk deep underway node) {left right : Verdicts}
    (leftFaithful : Faithful registry disk left) (rightFaithful : Faithful registry disk right) :
    (ruling registry disk depth underway left node).1 =
      (ruling registry disk deep underway right node).1 := by
  induction depth generalizing deep underway node left right with
  | zero =>
      refine ruling_agrees_of_follow placed alsoPlaced leftFaithful rightFaithful ?_
      intro below impossible
      cases impossible
  | succ depth ih =>
      refine ruling_agrees_of_follow placed alsoPlaced leftFaithful rightFaithful ?_
      rintro _ ⟨⟩ low rfl entered
      exact follow_agrees (ruling registry disk depth (node.id :: underway))
        (ruling registry disk low (node.id :: underway)) (Inquiry.noteFor node)
        (fun _ _ kept => kept)
        (fun _ _ kept registered => ruling_truthful registered kept)
        (fun _ _ kept registered => ruling_truthful registered kept)
        (Inquiry.all_registered registry disk node)
        (fun next asks _ _ first second =>
          ih (placed.next entered asks) (alsoPlaced.next entered asks) first second)
        leftFaithful rightFaithful

theorem isDirty_agrees {verdicts : Verdicts} (faithful : Faithful registry disk verdicts)
    (id : String) :
    (isDirty registry disk verdicts id).1 = (isDirty registry disk .none id).1 := by
  unfold isDirty
  rcases resolved : registry.resolve id with failure | node
  · rfl
  · have found := (Registry.find?_of_resolve resolved).2
    exact ruling_agrees (.start 0 found) (.start 0 found) faithful faithful_none

theorem isDirty_faithful {verdicts : Verdicts} (faithful : Faithful registry disk verdicts)
    (id : String) : Faithful registry disk (isDirty registry disk verdicts id).2 := by
  unfold isDirty
  rcases resolved : registry.resolve id with failure | node
  · exact faithful
  · exact (ruling_truthful (Registry.find?_of_resolve resolved).2 faithful).faithful

def isDirtyEach (registry : Registry) (disk : W) :
    Verdicts → List String → List (Except Failure Bool) × Verdicts
  | verdicts, [] => ([], verdicts)
  | verdicts, id :: rest =>
      match isDirty registry disk verdicts id with
      | (answer, verdicts) =>
          match isDirtyEach registry disk verdicts rest with
          | (answers, verdicts) => (answer :: answers, verdicts)

theorem isDirtyEach_fst {verdicts : Verdicts} (faithful : Faithful registry disk verdicts)
    (ids : List String) :
    (isDirtyEach registry disk verdicts ids).1 =
      ids.map fun id => (isDirty registry disk .none id).1 := by
  induction ids generalizing verdicts with
  | nil => rfl
  | cons id rest ih =>
      rw [isDirtyEach, List.map_cons, ← isDirty_agrees faithful id,
        ← ih (isDirty_faithful faithful id)]

/-- The oracle with the set of nodes under evaluation, which each evaluation enters and leaves. -/
structure Oracle where
  verdicts : Verdicts
  inProgress : List NodeId
  deriving DecidableEq, Repr

namespace Oracle

def new : Oracle := ⟨.none, []⟩

def note (node : Artifact) (path : Path) (oracle : Oracle) : Oracle :=
  { oracle with verdicts := Inquiry.noteFor node path oracle.verdicts }

def decide (registry : Registry) (disk : W) :
    Nat → Oracle → Artifact → Except Failure Bool × Oracle
  | depth, oracle, node =>
      match oracle.verdicts.get? node.id with
      | some dirty => (.ok dirty, oracle)
      | none =>
          if node.id ∈ oracle.inProgress then (.error (.cyclicCheck node.id), oracle)
          else
            match depth with
            | 0 => (.error (.cyclicCheck node.id), oracle)
            | depth + 1 =>
                match (Inquiry.ofNode registry disk node).follow (decide registry disk depth)
                    (note node) { oracle with inProgress := node.id :: oracle.inProgress } with
                | (result, after) =>
                    let left := { after with inProgress := after.inProgress.erase node.id }
                    match result with
                    | .error failure => (.error failure, left)
                    | .ok dirty =>
                        (.ok dirty, { left with verdicts := left.verdicts.record node.id dirty })

def ask (registry : Registry) (disk : W) (depth : Nat) (oracle : Oracle) (id : String) :
    Except Failure Bool × Oracle :=
  match registry.resolve id with
  | .error failure => (.error failure, oracle)
  | .ok node => oracle.decide registry disk depth node

def askEach (registry : Registry) (disk : W) (depth : Nat) :
    Oracle → List String → List (Except Failure Bool) × Oracle
  | oracle, [] => ([], oracle)
  | oracle, id :: rest =>
      match oracle.ask registry disk depth id with
      | (answer, oracle) =>
          match askEach registry disk depth oracle rest with
          | (answers, oracle) => (answer :: answers, oracle)

theorem decide_eq (depth : Nat) (verdicts : Verdicts) (underway : List NodeId) (node : Artifact) :
    decide registry disk depth ⟨verdicts, underway⟩ node =
      ((ruling registry disk depth underway verdicts node).1,
        ⟨(ruling registry disk depth underway verdicts node).2, underway⟩) := by
  induction depth generalizing verdicts underway node with
  | zero =>
      cases decided : verdicts.get? node.id with
      | some dirty =>
          unfold decide
          rw [ruling_remembered decided]
          simp only [decided]
      | none =>
          unfold decide
          rw [ruling_refused decided (.inr rfl)]
          simp only [decided, ite_self]
  | succ depth ih =>
      unfold decide
      cases decided : verdicts.get? node.id with
      | some dirty => rw [ruling_remembered decided]
      | none =>
          by_cases looping : node.id ∈ underway
          · rw [ruling_refused decided (.inl looping)]
            exact if_pos looping
          · have noted : ∀ path verdicts, note node path ⟨verdicts, node.id :: underway⟩ =
                ⟨Inquiry.noteFor node path verdicts, node.id :: underway⟩ := fun _ _ => rfl
            have followed := Inquiry.follow_map
              (fun verdicts => (⟨verdicts, node.id :: underway⟩ : Oracle))
              (fun verdicts next => ih verdicts (node.id :: underway) next) noted verdicts
              (.ofNode registry disk node)
            rw [ruling_entered decided looping]
            simp only [looping, if_false, followed, List.erase_cons_head]
            generalize (Inquiry.ofNode registry disk node).follow _ _ verdicts = looked
            obtain ⟨failure | dirty, after⟩ := looked <;> rfl

theorem ask_eq (verdicts : Verdicts) (id : String) :
    ask registry disk registry.size ⟨verdicts, []⟩ id =
      ((isDirty registry disk verdicts id).1, ⟨(isDirty registry disk verdicts id).2, []⟩) := by
  unfold ask isDirty
  cases registry.resolve id with
  | error failure => rfl
  | ok node => exact decide_eq registry.size verdicts [] node

theorem askEach_eq (verdicts : Verdicts) (ids : List String) :
    askEach registry disk registry.size ⟨verdicts, []⟩ ids =
      ((isDirtyEach registry disk verdicts ids).1,
        ⟨(isDirtyEach registry disk verdicts ids).2, []⟩) := by
  induction ids generalizing verdicts with
  | nil => rfl
  | cons id rest ih =>
      rw [askEach, ask_eq]
      dsimp only
      rw [ih, isDirtyEach]

theorem ask_spare (spare : Nat) (id : String) :
    (new.ask registry disk (registry.size + spare) id).1 = (isDirty registry disk .none id).1 := by
  unfold ask isDirty
  rcases resolved : registry.resolve id with failure | node
  · rfl
  · have found := (Registry.find?_of_resolve resolved).2
    rw [new]
    dsimp only
    rw [decide_eq]
    exact ruling_agrees (.start spare found) (.start 0 found) faithful_none faithful_none

end Oracle

/-- Questions put to one oracle on an unchanged disk, also ones that fail, get the answers that
fresh oracles give, and leave nothing under evaluation. A fresh oracle's depth never runs out. -/
theorem answers_as_if_fresh (registry : Registry) (disk : W) (ids : List String) :
    Oracle.new.askEach registry disk registry.size ids =
        ((isDirtyEach registry disk .none ids).1, ⟨(isDirtyEach registry disk .none ids).2, []⟩) ∧
      (isDirtyEach registry disk .none ids).1 =
        ids.map (fun id => (isDirty registry disk .none id).1) ∧
      ∀ spare id, (Oracle.new.ask registry disk (registry.size + spare) id).1 =
        (isDirty registry disk .none id).1 :=
  ⟨Oracle.askEach_eq .none ids, isDirtyEach_fst faithful_none ids, Oracle.ask_spare⟩

end Freshness

end ArtifactPipeline
