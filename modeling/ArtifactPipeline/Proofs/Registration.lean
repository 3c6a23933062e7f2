import ArtifactPipeline.Proofs.CycleSearch
import ArtifactPipeline.Registry.Indexed
import Mathlib.Data.List.Perm.Basic

set_option autoImplicit false

namespace ArtifactPipeline

section Same

variable {α : Type} {same : α → α → Bool}

theorem sameOption_symm {a b : Option α} (alike : sameOption same a b = true)
    (symm : ∀ a b, same a b = true → same b a = true) : sameOption same b a = true := by
  cases a <;> cases b <;> simp_all [sameOption]

theorem sameOption_trans {a b c : Option α} (first : sameOption same a b = true)
    (second : sameOption same b c = true)
    (trans : ∀ a b c, same a b = true → same b c = true → same a c = true) :
    sameOption same a c = true := by
  cases a <;> cases b <;> cases c <;> simp_all [sameOption]
  exact trans _ _ _ first second

theorem sameList_symm {as bs : List α} (alike : sameList same as bs = true)
    (symm : ∀ a b, same a b = true → same b a = true) : sameList same bs as = true := by
  induction as generalizing bs with
  | nil => cases bs <;> simp_all [sameList]
  | cons a as ih =>
      cases bs with
      | nil => simp [sameList] at alike
      | cons b bs =>
          obtain ⟨head, tail⟩ := Bool.and_eq_true_iff.mp alike
          exact Bool.and_eq_true_iff.mpr ⟨symm a b head, ih tail⟩

theorem sameList_trans {as bs cs : List α} (first : sameList same as bs = true)
    (second : sameList same bs cs = true)
    (trans : ∀ a b c, same a b = true → same b c = true → same a c = true) :
    sameList same as cs = true := by
  induction as generalizing bs cs with
  | nil => cases bs <;> simp_all [sameList]
  | cons a as ih =>
      cases bs with
      | nil => simp [sameList] at first
      | cons b bs =>
          cases cs with
          | nil => simp [sameList] at second
          | cons c cs =>
              obtain ⟨headAB, tailAB⟩ := Bool.and_eq_true_iff.mp first
              obtain ⟨headBC, tailBC⟩ := Bool.and_eq_true_iff.mp second
              exact Bool.and_eq_true_iff.mpr ⟨trans a b c headAB headBC, ih tailAB tailBC⟩

end Same

theorem Path.same_symm {a b : Path} (alike : a.same b = true) : b.same a = true := by
  rwa [Path.same_comm]

namespace Redirect

theorem same_iff {a b : Redirect} :
    a.same b = true ↔ a.path.same b.path = true ∧ a.append = b.append ∧ a.header = b.header := by
  simp [Redirect.same, and_assoc]

theorem same_symm {a b : Redirect} (alike : a.same b = true) : b.same a = true := by
  obtain ⟨path, append, header⟩ := same_iff.mp alike
  exact same_iff.mpr ⟨Path.same_symm path, append.symm, header.symm⟩

theorem same_trans {a b c : Redirect} (first : a.same b = true) (second : b.same c = true) :
    a.same c = true := by
  obtain ⟨pathAB, appendAB, headerAB⟩ := same_iff.mp first
  obtain ⟨pathBC, appendBC, headerBC⟩ := same_iff.mp second
  exact same_iff.mpr ⟨Path.same_trans pathAB pathBC, appendAB.trans appendBC,
    headerAB.trans headerBC⟩

end Redirect

namespace Command

theorem same_iff {a b : Command} :
    a.same b = true ↔ a.program = b.program ∧ a.args = b.args ∧ a.env = b.env ∧
      sameOption Path.same a.cwd b.cwd = true ∧
        sameOption Redirect.same a.stdout b.stdout = true := by
  simp [Command.same, and_assoc]

theorem same_symm {a b : Command} (alike : a.same b = true) : b.same a = true := by
  obtain ⟨program, args, env, cwd, stdout⟩ := same_iff.mp alike
  exact same_iff.mpr ⟨program.symm, args.symm, env.symm,
    sameOption_symm cwd (fun _ _ => Path.same_symm),
    sameOption_symm stdout (fun _ _ => Redirect.same_symm)⟩

theorem same_trans {a b c : Command} (first : a.same b = true) (second : b.same c = true) :
    a.same c = true := by
  obtain ⟨programAB, argsAB, envAB, cwdAB, stdoutAB⟩ := same_iff.mp first
  obtain ⟨programBC, argsBC, envBC, cwdBC, stdoutBC⟩ := same_iff.mp second
  exact same_iff.mpr ⟨programAB.trans programBC, argsAB.trans argsBC, envAB.trans envBC,
    sameOption_trans cwdAB cwdBC (fun _ _ _ => Path.same_trans),
    sameOption_trans stdoutAB stdoutBC (fun _ _ _ => Redirect.same_trans)⟩

end Command

namespace Action

theorem same_symm {a b : Action} (alike : a.same b = true) : b.same a = true := by
  cases a <;> cases b <;> simp only [Action.same, Bool.false_eq_true] at alike ⊢
  · exact Path.same_symm alike
  · exact sameList_symm alike (fun _ _ => Command.same_symm)

theorem same_trans {a b c : Action} (first : a.same b = true) (second : b.same c = true) :
    a.same c = true := by
  cases a <;> cases b <;> simp only [Action.same, Bool.false_eq_true] at first <;>
    cases c <;> simp only [Action.same, Bool.false_eq_true] at second ⊢
  · exact Path.same_trans first second
  · exact sameList_trans first second (fun _ _ _ => Command.same_trans)

end Action

namespace Artifact

theorem same_iff {a b : Artifact} :
    a.same b = true ↔ a.id = b.id ∧ a.kind = b.kind ∧ a.prerequisites = b.prerequisites ∧
      a.action.same b.action = true ∧ a.description = b.description := by
  simp [Artifact.same, and_assoc]

theorem same_symm {a b : Artifact} (alike : a.same b = true) : b.same a = true := by
  obtain ⟨id, kind, prerequisites, action, description⟩ := same_iff.mp alike
  exact same_iff.mpr ⟨id.symm, kind.symm, prerequisites.symm, Action.same_symm action,
    description.symm⟩

theorem same_trans {a b c : Artifact} (first : a.same b = true) (second : b.same c = true) :
    a.same c = true := by
  obtain ⟨idAB, kindAB, prerequisitesAB, actionAB, descriptionAB⟩ := same_iff.mp first
  obtain ⟨idBC, kindBC, prerequisitesBC, actionBC, descriptionBC⟩ := same_iff.mp second
  exact same_iff.mpr ⟨idAB.trans idBC, kindAB.trans kindBC, prerequisitesAB.trans prerequisitesBC,
    Action.same_trans actionAB actionBC, descriptionAB.trans descriptionBC⟩

def Consistent (artifacts : List Artifact) : Prop :=
  ∀ a ∈ artifacts, ∀ b ∈ artifacts, a.id = b.id → a.same b = true

instance (artifacts : List Artifact) : Decidable (Consistent artifacts) :=
  inferInstanceAs (Decidable (∀ a ∈ artifacts, ∀ b ∈ artifacts, a.id = b.id → a.same b = true))

theorem Consistent.perm {first second : List Artifact} (consistent : Consistent first)
    (reordered : first.Perm second) : Consistent second := by
  intro a memberA b memberB
  exact consistent a (reordered.mem_iff.mpr memberA) b (reordered.mem_iff.mpr memberB)

theorem consistent_iff_first {artifacts : List Artifact} :
    Consistent artifacts ↔ ∀ node ∈ artifacts, ∀ first,
      artifacts.find? (fun other => other.id == node.id) = some first →
        first.same node = true := by
  constructor
  · intro consistent node member first found
    exact consistent first (List.mem_of_find?_eq_some found) node member
      (eq_of_beq (List.find?_some found :))
  · intro alike a memberA b memberB same
    cases found : artifacts.find? fun other => other.id == a.id with
    | none => simpa using List.find?_eq_none.mp found a memberA
    | some first =>
        -- Both are the same as the first artifact of the id.
        have left := alike a memberA first found
        have right := alike b memberB first (by rw [← same]; exact found)
        exact same_trans (same_symm left) right

end Artifact

theorem getElem?_concat_eq_some {α : Type} {items : List α} {last item : α} {position : Nat} :
    (items ++ [last])[position]? = some item ↔
      items[position]? = some item ∨ position = items.length ∧ last = item := by
  rw [List.getElem?_append]
  grind

theorem find?_id_cons (node : Artifact) (rest : List Artifact) (id : NodeId) :
    ((node :: rest).find? fun other => other.id == id) =
      (if id = node.id then some node else none).or (rest.find? fun other => other.id == id) := by
  by_cases own : id = node.id
  · simp [own]
  · simp [own, Ne.symm own]

namespace Registry

namespace Indexed

/-- The ids of the nodes are distinct, and the table has exactly these, each with its position. -/
structure InStep (registry : Indexed) : Prop where
  distinct : registry.ids.Nodup
  exact : ∀ id position,
    registry.position? id = some position ↔ registry.ids[position]? = some id

variable {registry : Indexed}

theorem inStep_empty : empty.InStep where
  distinct := List.nodup_nil
  exact := by simp [position?, ids, empty]

theorem ids_add (registry : Indexed) (node : Artifact) :
    (registry.add node).ids = registry.ids ++ [node.id] := by
  simp [ids, add]

theorem position?_add (registry : Indexed) (node : Artifact) (id : NodeId) :
    (registry.add node).position? id =
      if id = node.id then some registry.ids.length else registry.position? id := by
  rw [position?, add, Assoc.lookup_set, ids, List.length_map]
  rfl

namespace InStep

theorem position?_eq_none_iff (inStep : registry.InStep) {id : NodeId} :
    registry.position? id = none ↔ id ∉ registry.ids := by
  rw [Option.eq_none_iff_forall_ne_some, List.mem_iff_getElem?]
  simp [inStep.exact]

theorem node_at (inStep : registry.InStep) {id : NodeId} {position : Nat}
    (known : registry.position? id = some position) :
    ∃ node, registry.nodes[position]? = some node ∧ node.id = id := by
  have listed := (inStep.exact id position).mp known
  rwa [ids, List.getElem?_map, Option.map_eq_some_iff] at listed

theorem find?_eq_some_iff (inStep : registry.InStep) {id : NodeId} {node : Artifact} :
    registry.find? id = some node ↔ node ∈ registry.nodes ∧ node.id = id := by
  rw [find?, Option.bind_eq_some_iff]
  constructor
  · rintro ⟨position, known, stored⟩
    obtain ⟨other, same, named⟩ := inStep.node_at known
    rw [stored] at same
    cases same
    exact ⟨List.mem_of_getElem? stored, named⟩
  · rintro ⟨member, rfl⟩
    obtain ⟨position, stored⟩ := List.mem_iff_getElem?.mp member
    refine ⟨position, (inStep.exact _ _).mpr ?_, stored⟩
    rw [ids, List.getElem?_map, stored, Option.map_some]

theorem mem_ids_iff (inStep : registry.InStep) {id : NodeId} :
    id ∈ registry.ids ↔ registry.find? id ≠ none := by
  simp [ids, Option.ne_none_iff_exists', inStep.find?_eq_some_iff]

theorem find?_eq (inStep : registry.InStep) (id : NodeId) :
    registry.find? id = registry.plain.find? id := by
  have distinct : registry.plain.ids.Nodup := inStep.distinct
  ext node
  rw [inStep.find?_eq_some_iff]
  constructor
  · rintro ⟨stored, rfl⟩
    exact find?_of_mem distinct stored
  · intro found
    exact ⟨mem_of_find? found, id_of_find? found⟩

theorem add (inStep : registry.InStep) {node : Artifact}
    (missing : registry.find? node.id = none) : (registry.add node).InStep where
  distinct := by
    rw [ids_add, ← List.concat_eq_append]
    exact inStep.distinct.concat fun member => inStep.mem_ids_iff.mp member missing
  exact := by
    intro id position
    rw [position?_add, ids_add, getElem?_concat_eq_some, ← inStep.exact]
    split_ifs with own
    · -- The table had nothing for this id, so that only the last position is left for it.
      subst own
      have unlisted : registry.position? node.id = none := by
        rw [inStep.position?_eq_none_iff, inStep.mem_ids_iff, not_not]
        exact missing
      simp [unlisted, eq_comm]
    · simp [Ne.symm own]

theorem register_eq (inStep : registry.InStep) (node : Artifact) :
    registry.register node =
      match registry.find? node.id with
      | none => (.added, registry.add node)
      | some known =>
          if known.same node then (.repeated, registry)
          else (.refused (.duplicateRule node.id), registry) := by
  rw [Indexed.register, find?]
  cases known : registry.position? node.id with
  | none => rfl
  | some position =>
      obtain ⟨old, stored, -⟩ := inStep.node_at known
      simp [stored]

theorem register_cases (inStep : registry.InStep) (node : Artifact) :
    (registry.find? node.id = none ∧ registry.register node = (.added, registry.add node)) ∨
    (∃ known, registry.find? node.id = some known ∧ known.same node = true ∧
      registry.register node = (.repeated, registry)) ∨
    ∃ known, registry.find? node.id = some known ∧ known.same node = false ∧
      registry.register node = (.refused (.duplicateRule node.id), registry) := by
  rw [inStep.register_eq]
  cases registry.find? node.id with
  | none => exact .inl ⟨rfl, rfl⟩
  | some known =>
      cases alike : known.same node with
      | true => exact .inr (.inl ⟨known, rfl, alike, by simp [alike]⟩)
      | false => exact .inr (.inr ⟨known, rfl, alike, by simp [alike]⟩)

theorem register (inStep : registry.InStep) (node : Artifact) :
    (registry.register node).2.InStep := by
  rcases inStep.register_cases node with ⟨missing, added⟩ | ⟨_, _, _, kept⟩ | ⟨_, _, _, kept⟩
  · rw [added]
    exact inStep.add missing
  · rw [kept]
    exact inStep
  · rw [kept]
    exact inStep

theorem registerEach (inStep : registry.InStep) (calls : List Artifact) :
    (registry.registerEach calls).2.InStep := by
  induction calls generalizing registry with
  | nil => exact inStep
  | cons node rest ih => exact ih (inStep.register node)

theorem find?_register (inStep : registry.InStep) (node : Artifact) (id : NodeId) :
    (registry.register node).2.find? id =
      (registry.find? id).or (if id = node.id then some node else none) := by
  rcases inStep.register_cases node with
    ⟨missing, added⟩ | ⟨known, found, _, kept⟩ | ⟨known, found, _, kept⟩
  · rw [added, (inStep.add missing).find?_eq, inStep.find?_eq, Registry.find?, Registry.find?,
      plain, Indexed.add, List.find?_append]
    congr 1
    by_cases own : id = node.id
    · simp [own]
    · simp [own, Ne.symm own]
  -- Where nothing is added, something is stored under the id of the call already.
  all_goals
    rw [kept]
    by_cases own : id = node.id
    · simp [own, found]
    · simp [own]

theorem find?_registerEach (inStep : registry.InStep) (calls : List Artifact) (id : NodeId) :
    (registry.registerEach calls).2.find? id =
      (registry.find? id).or (calls.find? fun node => node.id == id) := by
  induction calls generalizing registry with
  | nil => simp [Indexed.registerEach]
  | cons node rest ih =>
      have last := ih (inStep.register node)
      rw [inStep.find?_register, Option.or_assoc] at last
      rw [Indexed.registerEach, last, find?_id_cons]

end InStep

def Accepts (registry : Indexed) (calls : List Artifact) : Prop :=
  ∀ answer ∈ (registry.registerEach calls).1, answer.succeeds = true

instance (registry : Indexed) (calls : List Artifact) : Decidable (registry.Accepts calls) :=
  inferInstanceAs (Decidable (∀ answer ∈ (registry.registerEach calls).1, answer.succeeds = true))

theorem accepts_cons {node : Artifact} {rest : List Artifact} :
    registry.Accepts (node :: rest) ↔
      (registry.register node).1.succeeds = true ∧ (registry.register node).2.Accepts rest := by
  simp [Accepts, registerEach]

namespace InStep

theorem refused_iff (inStep : registry.InStep) {node : Artifact} {failure : Failure} :
    (registry.register node).1 = .refused failure ↔ failure = .duplicateRule node.id ∧
      ∃ known, registry.find? node.id = some known ∧ known.same node = false := by
  rcases inStep.register_cases node with
    ⟨missing, added⟩ | ⟨known, found, alike, kept⟩ | ⟨known, found, unlike, kept⟩
  · simp [added, missing]
  · simp [kept, found, alike]
  · rw [kept, found]
    constructor
    · rintro ⟨⟩
      exact ⟨rfl, known, rfl, unlike⟩
    · rintro ⟨rfl, -⟩
      rfl

theorem register_ne_astray (inStep : registry.InStep) (node : Artifact) :
    (registry.register node).1 ≠ .astray := by
  rcases inStep.register_cases node with ⟨_, done⟩ | ⟨_, _, _, done⟩ | ⟨_, _, _, done⟩ <;>
    simp [done]

theorem kept_of_refused (inStep : registry.InStep) {node : Artifact} {failure : Failure}
    (refused : (registry.register node).1 = .refused failure) :
    (registry.register node).2 = registry := by
  rcases inStep.register_cases node with ⟨_, added⟩ | ⟨_, _, _, kept⟩ | ⟨_, _, _, kept⟩
  · rw [added] at refused
    cases refused
  · rw [kept]
  · rw [kept]

theorem succeeds_iff (inStep : registry.InStep) (node : Artifact) :
    (registry.register node).1.succeeds = true ↔
      ∀ known, registry.find? node.id = some known → known.same node = true := by
  rcases inStep.register_cases node with
    ⟨missing, added⟩ | ⟨known, found, alike, kept⟩ | ⟨known, found, unlike, kept⟩
  · simp [added, missing, Answer.succeeds]
  · simp [kept, found, alike, Answer.succeeds]
  · simp [kept, found, unlike, Answer.succeeds]

theorem accepts_iff (inStep : registry.InStep) (calls : List Artifact) :
    registry.Accepts calls ↔ ∀ node ∈ calls, ∀ known,
      (registry.find? node.id).or (calls.find? fun other => other.id == node.id) = some known →
        known.same node = true := by
  induction calls generalizing registry with
  | nil => simp [Accepts, Indexed.registerEach]
  | cons node rest ih =>
      -- For the later calls, what the first one leaves stored stands in front of the rest.
      rw [accepts_cons, inStep.succeeds_iff, ih (inStep.register node), List.forall_mem_cons]
      refine and_congr ?_ (forall₂_congr fun other _ => ?_)
      · rw [find?_id_cons, if_pos rfl, Option.some_or]
        cases registry.find? node.id <;> simp
      · rw [inStep.find?_register, Option.or_assoc, find?_id_cons]

theorem plain_register (inStep : registry.InStep) (node : Artifact) :
    registry.plain.register node =
      match registry.register node with
      | (.refused failure, _) => .error failure
      | (_, next) => .ok next.plain := by
  rw [inStep.register_eq, inStep.find?_eq, Registry.register, offer]
  cases registry.plain.find? node.id with
  | none => rfl
  | some known =>
      dsimp only
      cases known.same node <;> rfl

theorem plain_registerAll (inStep : registry.InStep) {calls : List Artifact} {last : Registry} :
    registry.plain.registerAll calls = .ok last ↔
      registry.Accepts calls ∧ last = (registry.registerEach calls).2.plain := by
  induction calls generalizing registry with
  | nil =>
      rw [registerAll, Except.ok.injEq]
      exact ⟨fun same => ⟨nofun, same.symm⟩, fun ⟨_, same⟩ => same.symm⟩
  | cons node rest ih =>
      rw [registerAll, inStep.plain_register, accepts_cons, Indexed.registerEach]
      have further := ih (inStep.register node)
      rcases inStep.register_cases node with ⟨_, done⟩ | ⟨_, _, _, done⟩ | ⟨_, _, _, done⟩
      · simpa [done, Answer.succeeds] using further
      · simpa [done, Answer.succeeds] using further
      · simp [done, Answer.succeeds]

end InStep

def left (calls : List Artifact) : Indexed :=
  (empty.registerEach calls).2

theorem inStep_left (calls : List Artifact) : (left calls).InStep :=
  inStep_empty.registerEach calls

theorem find?_left (calls : List Artifact) (id : NodeId) :
    (left calls).find? id = calls.find? fun node => node.id == id :=
  inStep_empty.find?_registerEach calls id

theorem accepts_empty_iff (calls : List Artifact) :
    empty.Accepts calls ↔ Artifact.Consistent calls := by
  rw [inStep_empty.accepts_iff, Artifact.consistent_iff_first]
  rfl

theorem mem_ids_left {calls : List Artifact} {id : NodeId} :
    id ∈ (left calls).ids ↔ ∃ node ∈ calls, node.id = id := by
  rw [(inStep_left calls).mem_ids_iff, find?_left, Ne, List.find?_eq_none]
  simp

theorem ids_left_perm {first second : List Artifact} (reordered : first.Perm second) :
    (left first).ids.Perm (left second).ids := by
  rw [List.perm_ext_iff_of_nodup (inStep_left first).distinct (inStep_left second).distinct]
  intro id
  simp [mem_ids_left, reordered.mem_iff]

theorem same_find?_left {first second : List Artifact} (reordered : first.Perm second)
    (consistent : Artifact.Consistent first) (id : NodeId) :
    sameOption Artifact.same ((left first).find? id) ((left second).find? id) = true := by
  rw [find?_left, find?_left]
  cases stored : first.find? fun node => node.id == id with
  | none =>
      have missing : (second.find? fun node => node.id == id) = none :=
        List.find?_eq_none.mpr fun node member =>
          List.find?_eq_none.mp stored node (reordered.mem_iff.mpr member)
      rw [missing]
      rfl
  | some node =>
      have member := List.mem_of_find?_eq_some stored
      have named : node.id = id := eq_of_beq (List.find?_some stored :)
      cases other : second.find? fun node => node.id == id with
      | none =>
          have absent := List.find?_eq_none.mp other node (reordered.mem_iff.mp member)
          simp [named] at absent
      | some twin =>
          have listed := reordered.mem_iff.mpr (List.mem_of_find?_eq_some other)
          have alike : twin.id = id := eq_of_beq (List.find?_some other :)
          exact consistent node member twin listed (named.trans alike.symm)

/-- Whatever is registered, starting from nothing: ids stay distinct and the table has exactly
their positions; an artifact is refused only for another one under its id, and nothing changes by
that. A list goes through when and only when it has no two different artifacts of one id, so that it
goes through in every order, and what is stored then is the same. -/
theorem registration_in_any_order (calls : List Artifact) :
    (left calls).InStep ∧
    (∀ node, ((left calls).register node).1 ≠ .astray) ∧
    (∀ node failure,
      (((left calls).register node).1 = .refused failure ↔ failure = .duplicateRule node.id ∧
        ∃ known ∈ (left calls).nodes, known.id = node.id ∧ known.same node = false) ∧
      (((left calls).register node).1 = .refused failure →
        ((left calls).register node).2 = left calls)) ∧
    (empty.Accepts calls ↔ Artifact.Consistent calls) ∧
    (∀ registry, Registry.empty.registerAll calls = .ok registry ↔
      empty.Accepts calls ∧ registry = (left calls).plain) ∧
    ∀ reordered, calls.Perm reordered → empty.Accepts calls →
      empty.Accepts reordered ∧ (left calls).ids.Perm (left reordered).ids ∧
        ∀ id, sameOption Artifact.same ((left calls).find? id) ((left reordered).find? id) =
          true := by
  have inStep := inStep_left calls
  refine ⟨inStep, inStep.register_ne_astray,
    fun node failure => ⟨?_, inStep.kept_of_refused⟩, accepts_empty_iff calls,
    fun registry => inStep_empty.plain_registerAll, ?_⟩
  · simp only [inStep.refused_iff, inStep.find?_eq_some_iff, and_assoc]
  · intro reordered perm accepted
    have consistent := (accepts_empty_iff calls).mp accepted
    exact ⟨(accepts_empty_iff reordered).mpr (consistent.perm perm), ids_left_perm perm,
      same_find?_left perm consistent⟩

def mill : List Artifact := [
  .file "flour" (.run [⟨"grind", [], .empty, some ⟨"yard/"⟩, some ⟨⟨"out//log"⟩, true, none⟩⟩]),
  .directory "out",
  .file "./flour" (.run [⟨"grind", [], .empty, some ⟨"yard"⟩, some ⟨⟨"out/./log"⟩, true, none⟩⟩])
]

theorem registration_in_any_order_mill :
    empty.Accepts mill.reverse ∧ (left mill).ids.Perm (left mill.reverse).ids ∧
      (left mill).find? "flour" ≠ (left mill.reverse).find? "flour" ∧
      sameOption Artifact.same ((left mill).find? "flour") ((left mill.reverse).find? "flour") =
        true ∧
      ((left mill).register (.phony "out" .none)).1 = .refused (.duplicateRule "out") ∧
      ((left mill).register (.phony "out" .none)).2 = left mill := by
  obtain ⟨-, -, refusals, -, -, orders⟩ := registration_in_any_order mill
  obtain ⟨accepted, ids, alike⟩ := orders mill.reverse mill.reverse_perm.symm (by decide)
  have refused :
      ((left mill).register (.phony "out" .none)).1 = .refused (.duplicateRule "out") := by
    decide
  exact ⟨accepted, ids, by decide, alike "flour", refused, (refusals _ _).2 refused⟩

end Indexed

end Registry

end ArtifactPipeline
