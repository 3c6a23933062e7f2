import ArtifactPipeline.Proofs.Planning
import ArtifactPipeline.Proofs.Staleness

set_option autoImplicit false

namespace ArtifactPipeline

open Relation (ReflTransGen TransGen)

namespace Registry

def MadeFrom (registry : Registry) (id dep : NodeId) : Prop :=
  ∃ node next, registry.find? id = some node ∧ node.kind = .file ∧
    Prerequisite.node dep ∈ node.prerequisites ∧ registry.find? dep = some next ∧
      next.kind ≠ .directory

/-- The node lies at the end of a walk that starts at `id` and is in files until then. -/
def Reaches (registry : Registry) (id : NodeId) (node : Artifact) : Prop :=
  registry.find? node.id = some node ∧ ReflTransGen registry.MadeFrom id node.id

theorem acyclic_of_make {registry : Registry} (canonical : registry.Canonical) {plan : Plan}
    (made : Plan.make registry registry.ids = .ok plan) (id : NodeId) : ¬registry.OnCycle id := by
  intro cycle
  obtain ⟨next, ⟨node, found, -⟩, -⟩ := TransGen.head'_iff.mp cycle
  have needed : registry.Needed registry.ids id :=
    ⟨id, mem_ids_of_find? found, by rw [canonical.found found]⟩
  exact Plan.make_acyclic canonical made needed cycle

end Registry

namespace Freshness

variable {registry : Registry} {disk : VirtualDisk}

inductive Obstacle (registry : Registry) (disk : VirtualDisk) (user : NodeId) :
    Prerequisite → Failure → Prop where
  | absent {dep : NodeId} (unregistered : registry.find? dep = none)
      (missing : disk.mtimeOf ⟨dep⟩ = none) :
      Obstacle registry disk user (.node dep) (.missingPrerequisite user dep)
  | malformed {pattern : String} (fault : Glob.compile pattern = .error .malformed) :
      Obstacle registry disk user (.glob pattern) (.invalidGlob pattern)
  | tooDeep {pattern : String} (fault : Glob.compile pattern = .error .tooDeep) :
      Obstacle registry disk user (.glob pattern) (.nestedGlob pattern)

/-- A prerequisite that is newer than `own`: a source that is no directory, a registered file, or
one of the files that match a glob. -/
inductive Newer (registry : Registry) (disk : VirtualDisk) (own : Option Nat) :
    Prerequisite → Prop where
  | source {dep : NodeId} (unregistered : registry.find? dep = none)
      (plain : disk.isDir ⟨dep⟩ = false) (later : newerThan (disk.mtimeOf ⟨dep⟩) own = true) :
      Newer registry disk own (.node dep)
  | output {dep : NodeId} {next : Artifact} (registered : registry.find? dep = some next)
      (kind : next.kind = .file) (later : newerThan (disk.mtimeOf ⟨dep⟩) own = true) :
      Newer registry disk own (.node dep)
  | globbed {pattern : String} {paths : List Path} {path : Path}
      (expanded : Glob.expand disk pattern = .ok paths) (matched : path ∈ paths)
      (later : newerThan (disk.mtimeOf path) own = true) :
      Newer registry disk own (.glob pattern)

inductive Cause (registry : Registry) (disk : VirtualDisk) (node : Artifact) : Prop where
  | phony (kind : node.kind = .phony)
  | unmade (kind : node.kind = .file) (missing : disk.mtimeOf node.path = none)
  | outrun (kind : node.kind = .file) {prerequisite : Prerequisite}
      (needed : prerequisite ∈ node.prerequisites)
      (newer : Newer registry disk (disk.mtimeOf node.path) prerequisite)

def Obstructed (registry : Registry) (disk : VirtualDisk) (failure : Failure) (node : Artifact) :
    Prop :=
  node.kind = .file ∧
    ∃ prerequisite ∈ node.prerequisites, Obstacle registry disk node.id prerequisite failure

def Blocked (registry : Registry) (disk : VirtualDisk) (id : NodeId) (failure : Failure) : Prop :=
  ∃ node, registry.Reaches id node ∧ Obstructed registry disk failure node

def Outdated (registry : Registry) (disk : VirtualDisk) (id : NodeId) : Prop :=
  ∃ node, registry.Reaches id node ∧ Cause registry disk node

def Tells (blocks : Failure → Prop) (cause : Prop) : Except Failure Bool → Prop
  | .error failure => blocks failure
  | .ok dirty => (∀ failure, ¬blocks failure) ∧ (dirty = true ↔ cause)

def Beyond (registry : Registry) (property : Artifact → Prop) : Prerequisite → Prop
  | .node dep => ∃ next, registry.find? dep = some next ∧ next.kind ≠ .directory ∧
      ∃ node, registry.Reaches dep node ∧ property node
  | .glob _ => False

theorem reaches_file {property : Artifact → Prop} {node : Artifact}
    (found : registry.find? node.id = some node) (kind : node.kind = .file) :
    (∃ other, registry.Reaches node.id other ∧ property other) ↔
      property node ∨ ∃ prerequisite ∈ node.prerequisites,
        Beyond registry property prerequisite := by
  constructor
  · rintro ⟨other, ⟨known, walk⟩, holds⟩
    rcases ReflTransGen.cases_head walk with same | ⟨dep, step, rest⟩
    · rw [← same, found] at known
      cases known
      exact .inl holds
    · obtain ⟨user, next, same, -, needed, registered, plain⟩ := step
      rw [found] at same
      cases same
      exact .inr ⟨.node dep, needed, next, registered, plain, other, ⟨known, rest⟩, holds⟩
  · rintro (holds | ⟨prerequisite, needed, beyond⟩)
    · exact ⟨node, ⟨found, .refl⟩, holds⟩
    · cases prerequisite with
      | glob pattern => exact beyond.elim
      | node dep =>
          obtain ⟨next, registered, plain, other, ⟨known, walk⟩, holds⟩ := beyond
          exact ⟨other,
            ⟨known, .head ⟨node, next, found, kind, needed, registered, plain⟩ walk⟩, holds⟩

theorem reaches_other {property : Artifact → Prop} {node : Artifact}
    (found : registry.find? node.id = some node) (kind : node.kind ≠ .file) :
    (∃ other, registry.Reaches node.id other ∧ property other) ↔ property node := by
  constructor
  · rintro ⟨other, ⟨known, walk⟩, holds⟩
    rcases ReflTransGen.cases_head walk with same | ⟨dep, ⟨user, _, same, file, _⟩, -⟩
    · rw [← same, found] at known
      cases known
      exact holds
    · rw [found] at same
      cases same
      exact absurd file kind
  · intro holds
    exact ⟨node, ⟨found, .refl⟩, holds⟩

theorem readDir_ok {path : Path} (dir : disk.isDir path = true) :
    ∃ paths, disk.readDir path = .ok paths := by
  unfold VirtualDisk.isDir at dir
  unfold VirtualDisk.readDir
  split at dir
  · exact ⟨_, rfl⟩
  · cases dir

theorem isDir_of_lookAt {tokens : List Glob.Token} {paths : List Path} {walk : Glob.Walk}
    (dirs : ∀ path ∈ walk.stack, disk.isDir path = true) :
    ∀ path ∈ (paths.foldl (Glob.lookAt disk tokens) walk).stack, disk.isDir path = true := by
  induction paths generalizing walk with
  | nil => exact dirs
  | cons path rest ih =>
      refine ih ?_
      unfold Glob.lookAt
      split_ifs with dir linked
      · exact dirs
      · intro other member
        rcases List.mem_cons.mp member with rfl | old
        · exact dir
        · exact dirs other old
      · exact dirs
      · exact dirs

theorem collect_ok {tokens : List Glob.Token} {fuel : Nat} {walk : Glob.Walk}
    (dirs : ∀ path ∈ walk.stack, disk.isDir path = true) :
    ∃ found, Glob.collect disk tokens fuel walk = .ok found := by
  induction fuel generalizing walk with
  | zero => exact ⟨_, rfl⟩
  | succ fuel ih =>
      unfold Glob.collect
      split
      · exact ⟨_, rfl⟩
      · rename_i dir stack top
        rw [top] at dirs
        obtain ⟨paths, listed⟩ := readDir_ok (dirs dir (by simp))
        have read : Disk.readDir disk dir = .ok paths := listed
        rw [read]
        exact ih (isDir_of_lookAt fun path member => dirs path (by simp [member]))

theorem expand_ok {pattern : String} {tokens : List Glob.Token}
    (compiled : Glob.compile pattern = .ok tokens) :
    ∃ paths, Glob.expand disk pattern = .ok paths := by
  unfold Glob.expand
  simp only [compiled]
  split_ifs with missing
  · exact ⟨_, rfl⟩
  · have dir : Disk.isDir disk (Glob.literalBase pattern) = true := by simpa using missing
    -- Only directories are put on the stack, and a directory can be listed.
    obtain ⟨found, collected⟩ : ∃ found, Glob.collect disk tokens (Disk.extent disk + 1)
        ⟨[Glob.literalBase pattern], []⟩ = .ok found :=
      collect_ok fun path member => List.mem_singleton.mp member ▸ dir
    exact ⟨_, by rw [collected]⟩

end Freshness

namespace Verdicts

open Freshness

variable {registry : Registry} {disk : VirtualDisk} {verdicts : Verdicts}

/-- What has been decided about nodes other than directories would be decided again. -/
def Correct (registry : Registry) (disk : VirtualDisk) (verdicts : Verdicts) : Prop :=
  ∀ node dirty, registry.find? node.id = some node → node.kind ≠ .directory →
    verdicts.get? node.id = some dirty →
      Tells (Blocked registry disk node.id) (Outdated registry disk node.id) (.ok dirty)

theorem correct_none (registry : Registry) (disk : VirtualDisk) : none.Correct registry disk := by
  intro node dirty _ _ decided
  cases decided

theorem Correct.noteNewer (correct : verdicts.Correct registry disk) (id : NodeId) (path : Path) :
    (verdicts.noteNewer id path).Correct registry disk := correct

theorem Correct.record (correct : verdicts.Correct registry disk) {node : Artifact} {dirty : Bool}
    (found : registry.find? node.id = some node)
    (tells : node.kind ≠ .directory →
      Tells (Blocked registry disk node.id) (Outdated registry disk node.id) (.ok dirty)) :
    (verdicts.record node.id dirty).Correct registry disk := by
  intro other answer known plain decided
  rw [get?_record] at decided
  cases earlier : verdicts.get? other.id with
  | some before =>
      rw [earlier] at decided
      cases decided
      exact correct other answer known plain earlier
  | none =>
      rw [earlier, Option.none_or] at decided
      split_ifs at decided with same
      cases decided
      rw [same, found] at known
      cases known
      exact tells plain

end Verdicts

namespace Freshness

variable {registry : Registry} {disk : VirtualDisk}

/-- A right answer about a registered node, with nothing wrong decided on the way. About a
directory there always is one. -/
structure Answers (registry : Registry) (disk : VirtualDisk) (node : Artifact) (ruling : Ruling) :
    Prop where
  directory : node.kind = .directory → ∃ dirty, ruling.1 = .ok dirty
  tells : node.kind ≠ .directory →
    Tells (Blocked registry disk node.id) (Outdated registry disk node.id) ruling.1
  correct : ruling.2.Correct registry disk

def Hinders (registry : Registry) (disk : VirtualDisk) (user : NodeId) (failure : Failure)
    (prerequisite : Prerequisite) : Prop :=
  Obstacle registry disk user prerequisite failure ∨
    Beyond registry (Obstructed registry disk failure) prerequisite

/-- Why the prerequisite makes a file dirty that was written at `own`, itself or beyond it. -/
def Dirties (registry : Registry) (disk : VirtualDisk) (own : Option Nat)
    (prerequisite : Prerequisite) : Prop :=
  Newer registry disk own prerequisite ∨ Beyond registry (Cause registry disk) prerequisite

theorem hinders_source {user dep : NodeId} (unregistered : registry.find? dep = none)
    (failure : Failure) :
    Hinders registry disk user failure (.node dep) ↔
      disk.mtimeOf ⟨dep⟩ = none ∧ failure = .missingPrerequisite user dep := by
  constructor
  · rintro (obstacle | ⟨next, registered, -⟩)
    · cases obstacle with
      | absent _ missing => exact ⟨missing, rfl⟩
    · rw [unregistered] at registered
      cases registered
  · rintro ⟨missing, rfl⟩
    exact .inl (.absent unregistered missing)

theorem hinders_node (user : NodeId) {dep : NodeId} {next : Artifact}
    (registered : registry.find? dep = some next) (failure : Failure) :
    Hinders registry disk user failure (.node dep) ↔
      next.kind ≠ .directory ∧ Blocked registry disk dep failure := by
  constructor
  · rintro (obstacle | ⟨other, known, plain, blocked⟩)
    · cases obstacle with
      | absent unregistered =>
          rw [registered] at unregistered
          cases unregistered
    · rw [registered] at known
      cases known
      exact ⟨plain, blocked⟩
  · rintro ⟨plain, blocked⟩
    exact .inr ⟨next, registered, plain, blocked⟩

theorem dirties_source {own : Option Nat} {dep : NodeId}
    (unregistered : registry.find? dep = none) :
    Dirties registry disk own (.node dep) ↔
      disk.isDir ⟨dep⟩ = false ∧ newerThan (disk.mtimeOf ⟨dep⟩) own = true := by
  constructor
  · rintro (newer | ⟨next, registered, -⟩)
    · cases newer with
      | source _ plain later => exact ⟨plain, later⟩
      | output registered =>
          rw [unregistered] at registered
          cases registered
    · rw [unregistered] at registered
      cases registered
  · rintro ⟨plain, later⟩
    exact .inl (.source unregistered plain later)

theorem dirties_node (own : Option Nat) {dep : NodeId} {next : Artifact}
    (registered : registry.find? dep = some next) :
    Dirties registry disk own (.node dep) ↔
      next.kind = .file ∧ newerThan (disk.mtimeOf ⟨dep⟩) own = true ∨
        next.kind ≠ .directory ∧ Outdated registry disk dep := by
  constructor
  · rintro (newer | ⟨other, known, plain, outdated⟩)
    · cases newer with
      | source unregistered =>
          rw [registered] at unregistered
          cases unregistered
      | output known kind later =>
          rw [registered] at known
          cases known
          exact .inl ⟨kind, later⟩
    · rw [registered] at known
      cases known
      exact .inr ⟨plain, outdated⟩
  · rintro (⟨kind, later⟩ | ⟨plain, outdated⟩)
    · exact .inl (.output registered kind later)
    · exact .inr ⟨next, registered, plain, outdated⟩

theorem blocked_file {node : Artifact} (found : registry.find? node.id = some node)
    (kind : node.kind = .file) (failure : Failure) :
    Blocked registry disk node.id failure ↔
      ∃ prerequisite ∈ node.prerequisites,
        Hinders registry disk node.id failure prerequisite := by
  have here : Obstructed registry disk failure node ↔
      ∃ prerequisite ∈ node.prerequisites, Obstacle registry disk node.id prerequisite failure :=
    and_iff_right kind
  simp only [Blocked, reaches_file found kind, here, Hinders, and_or_left, exists_or]

theorem outdated_file {node : Artifact} (found : registry.find? node.id = some node)
    (kind : node.kind = .file) :
    Outdated registry disk node.id ↔ (disk.mtimeOf node.path).isNone = true ∨
      ∃ prerequisite ∈ node.prerequisites,
        Dirties registry disk (disk.mtimeOf node.path) prerequisite := by
  have cause : Cause registry disk node ↔ (disk.mtimeOf node.path).isNone = true ∨
      ∃ prerequisite ∈ node.prerequisites,
        Newer registry disk (disk.mtimeOf node.path) prerequisite := by
    rw [Option.isNone_iff_eq_none]
    constructor
    · rintro (phony | ⟨-, missing⟩ | ⟨-, needed, newer⟩)
      · rw [kind] at phony
        cases phony
      · exact .inl missing
      · exact .inr ⟨_, needed, newer⟩
    · rintro (missing | ⟨prerequisite, needed, newer⟩)
      · exact .unmade kind missing
      · exact .outrun kind needed newer
  simp only [Outdated, reaches_file found kind, cause, Dirties, and_or_left, exists_or, or_assoc]

section Asking

variable {ask : Verdicts → Artifact → Ruling} {verdicts : Verdicts}

theorem sourceIsNewer_tells (node : Artifact) (own : Option Nat) {dep : NodeId}
    (spelled : NodeId.canonical dep = dep) (unregistered : registry.find? dep = none) :
    Tells (Hinders registry disk node.id · (.node dep)) (Dirties registry disk own (.node dep))
      (sourceIsNewer disk node dep own) := by
  simp only [sourceIsNewer, modified_eq, spelled]
  cases dated : disk.mtimeOf ⟨dep⟩ with
  | none => exact (hinders_source unregistered _).mpr ⟨dated, rfl⟩
  | some mtime =>
      refine ⟨fun failure hinders => ?_, ?_⟩
      · have missing := ((hinders_source unregistered failure).mp hinders).1
        rw [dated] at missing
        cases missing
      · rw [dirties_source unregistered, dated]
        simp [Disk.isDir]

theorem prerequisiteRuling_tells (node : Artifact) (own : Option Nat) {dep : NodeId}
    (spelled : NodeId.canonical dep = dep) (correct : verdicts.Correct registry disk)
    (asked : ∀ next, registry.find? dep = some next →
      Answers registry disk next (ask verdicts next)) :
    Tells (Hinders registry disk node.id · (.node dep)) (Dirties registry disk own (.node dep))
        (prerequisiteRuling registry disk ask node own verdicts dep).1 ∧
      (prerequisiteRuling registry disk ask node own verdicts dep).2.Correct registry disk := by
  unfold prerequisiteRuling
  rw [Registry.get?_eq_find? spelled]
  cases registered : registry.find? dep with
  | none => exact ⟨sourceIsNewer_tells node own spelled registered, correct⟩
  | some next =>
      obtain ⟨directory, tells, kept⟩ := asked next registered
      have named := Registry.id_of_find? registered
      rw [named] at tells
      have hinders (failure : Failure) :
          Hinders registry disk node.id failure (.node dep) ↔ _ :=
        hinders_node node.id registered failure
      have dirties : Dirties registry disk own (.node dep) ↔ _ := dirties_node own registered
      dsimp only
      generalize ask verdicts next = answer at directory tells kept
      obtain ⟨answer, after⟩ := answer
      -- The ruling on a directory counts for nothing, that on a phony alone, that on a file beside
      -- its date.
      cases kind : next.kind with
      | directory =>
          obtain ⟨dirty, rfl⟩ := directory kind
          exact ⟨⟨by simp [hinders, kind], by simp [dirties, kind]⟩, kept⟩
      | phony =>
          have told := tells (by simp [kind])
          cases answer with
          | error failure => exact ⟨(hinders failure).mpr ⟨by simp [kind], told⟩, kept⟩
          | ok dirty =>
              exact ⟨⟨by simpa [hinders, kind] using told.1, by simpa [dirties, kind] using told.2⟩,
                kept⟩
      | file =>
          have told := tells (by simp [kind])
          cases answer with
          | error failure => exact ⟨(hinders failure).mpr ⟨by simp [kind], told⟩, kept⟩
          | ok dirty =>
              have clear : ∀ failure, ¬Hinders registry disk node.id failure (.node dep) := by
                simpa [hinders, kind] using told.1
              cases dirty with
              | true =>
                  have outdated := told.2.mp rfl
                  exact ⟨⟨clear, by simp [dirties, kind, outdated]⟩, kept⟩
              | false =>
                  have sound : ¬Outdated registry disk dep := by simpa using told.2
                  exact ⟨⟨clear, by simp [dirties, kind, sound]⟩, kept⟩

theorem matchesRuling_tells (node : Artifact) (own : Option Nat) (paths : List Path)
    (dirty : Bool) (correct : verdicts.Correct registry disk) :
    ∃ answer, (matchesRuling disk node own verdicts dirty paths).1 = .ok answer ∧
      (answer = true ↔ dirty = true ∨
        ∃ path ∈ paths, newerThan (disk.mtimeOf path) own = true) ∧
      (matchesRuling disk node own verdicts dirty paths).2.Correct registry disk := by
  induction paths generalizing verdicts dirty with
  | nil => exact ⟨dirty, rfl, by simp, correct⟩
  | cons path rest ih =>
      simp only [matchesRuling, modified_eq]
      split_ifs with later
      · obtain ⟨answer, answered, means, kept⟩ := ih true (correct.noteNewer node.id path)
        exact ⟨answer, answered, by simp [means, later], kept⟩
      · obtain ⟨answer, answered, means, kept⟩ := ih dirty correct
        exact ⟨answer, answered, by simp [means, later], kept⟩

theorem dirties_glob {own : Option Nat} {pattern : String} {paths : List Path}
    (expanded : Glob.expand disk pattern = .ok paths) :
    Dirties registry disk own (.glob pattern) ↔
      ∃ path ∈ paths, newerThan (disk.mtimeOf path) own = true := by
  constructor
  · rintro (newer | beyond)
    · cases newer with
      | globbed known matched later =>
          rw [expanded] at known
          cases known
          exact ⟨_, matched, later⟩
    · exact beyond.elim
  · rintro ⟨path, matched, later⟩
    exact .inl (.globbed expanded matched later)

theorem hinders_glob (registry : Registry) (disk : VirtualDisk) (user : NodeId) (pattern : String) :
    (∃ failure, Glob.expand disk pattern = .error failure ∧
        Hinders registry disk user failure (.glob pattern)) ∨
      (∃ paths, Glob.expand disk pattern = .ok paths) ∧
        ∀ failure, ¬Hinders registry disk user failure (.glob pattern) := by
  cases compiled : Glob.compile pattern with
  | error fault =>
      left
      cases fault with
      | malformed =>
          exact ⟨.invalidGlob pattern, by simp only [Glob.expand, compiled],
            .inl (.malformed compiled)⟩
      | tooDeep =>
          exact ⟨.nestedGlob pattern, by simp only [Glob.expand, compiled],
            .inl (.tooDeep compiled)⟩
  | ok tokens =>
      refine .inr ⟨expand_ok compiled, ?_⟩
      rintro failure (obstacle | beyond)
      · cases obstacle <;> rename_i fault <;> rw [compiled] at fault <;> cases fault
      · exact beyond

theorem Tells.cons {hinders : Failure → Prerequisite → Prop} {dirties : Prerequisite → Prop}
    {first : Prerequisite} {rest : List Prerequisite} {dirty sofar : Bool}
    {answer : Except Failure Bool} (clear : ∀ failure, ¬hinders failure first)
    (seen : sofar = true ↔ dirty = true ∨ dirties first)
    (told : Tells (fun failure => ∃ prerequisite ∈ rest, hinders failure prerequisite)
      (sofar = true ∨ ∃ prerequisite ∈ rest, dirties prerequisite) answer) :
    Tells (fun failure => ∃ prerequisite ∈ first :: rest, hinders failure prerequisite)
      (dirty = true ∨ ∃ prerequisite ∈ first :: rest, dirties prerequisite) answer := by
  cases answer with
  | error failure =>
      obtain ⟨prerequisite, member, hindered⟩ := told
      exact ⟨prerequisite, List.mem_cons_of_mem _ member, hindered⟩
  | ok result =>
      refine ⟨?_, ?_⟩
      · rintro failure ⟨prerequisite, member, hindered⟩
        rcases List.mem_cons.mp member with rfl | later
        · exact clear failure hindered
        · exact told.1 failure ⟨prerequisite, later, hindered⟩
      · rw [told.2, seen, List.exists_mem_cons_iff, or_assoc]

theorem prerequisitesRuling_tells (node : Artifact) (own : Option Nat)
    {prerequisites : List Prerequisite}
    (spelled : ∀ dep, Prerequisite.node dep ∈ prerequisites → NodeId.canonical dep = dep)
    (asked : ∀ dep, Prerequisite.node dep ∈ prerequisites → ∀ next,
      registry.find? dep = some next → ∀ verdicts : Verdicts, verdicts.Correct registry disk →
        Answers registry disk next (ask verdicts next))
    (dirty : Bool) (correct : verdicts.Correct registry disk) :
    Tells (fun failure => ∃ prerequisite ∈ prerequisites,
          Hinders registry disk node.id failure prerequisite)
        (dirty = true ∨ ∃ prerequisite ∈ prerequisites, Dirties registry disk own prerequisite)
        (prerequisitesRuling registry disk ask node own verdicts dirty prerequisites).1 ∧
      (prerequisitesRuling registry disk ask node own verdicts dirty prerequisites).2.Correct
        registry disk := by
  -- The remembered verdicts are carried along: what one prerequisite leaves in them is correct for
  -- the next.
  induction prerequisites generalizing verdicts dirty with
  | nil => exact ⟨⟨by simp, by simp⟩, correct⟩
  | cons prerequisite rest ih =>
      have spelledRest : ∀ dep, Prerequisite.node dep ∈ rest → NodeId.canonical dep = dep :=
        fun dep member => spelled dep (by simp [member])
      have askedRest : ∀ dep, Prerequisite.node dep ∈ rest → ∀ next,
          registry.find? dep = some next → ∀ verdicts : Verdicts, verdicts.Correct registry disk →
            Answers registry disk next (ask verdicts next) :=
        fun dep member => asked dep (by simp [member])
      cases prerequisite with
      | node dep =>
          obtain ⟨told, kept⟩ := prerequisiteRuling_tells node own (spelled dep (by simp)) correct
            fun next registered => asked dep (by simp) next registered verdicts correct
          rw [prerequisitesRuling]
          generalize prerequisiteRuling registry disk ask node own verdicts dep = first at told kept
          obtain ⟨answer, after⟩ := first
          cases answer with
          | error failure => exact ⟨⟨_, by simp, told⟩, kept⟩
          | ok now =>
              obtain ⟨later, finally_⟩ := ih spelledRest askedRest (dirty || now) kept
              exact ⟨later.cons told.1 (by rw [Bool.or_eq_true, told.2]), finally_⟩
      | glob pattern =>
          rw [prerequisitesRuling]
          rcases hinders_glob registry disk node.id pattern with
            ⟨failure, refused, hindered⟩ | ⟨⟨paths, expanded⟩, clear⟩
          · rw [refused]
            exact ⟨⟨_, by simp, hindered⟩, correct⟩
          · obtain ⟨now, answered, means, kept⟩ := matchesRuling_tells node own paths dirty correct
            rw [expanded]
            dsimp only
            generalize matchesRuling disk node own verdicts dirty paths = first at answered kept
            obtain ⟨answer, after⟩ := first
            cases answered
            obtain ⟨later, finally_⟩ := ih spelledRest askedRest now kept
            exact ⟨later.cons clear (by rw [means, dirties_glob expanded]), finally_⟩

theorem evaluate_answers (canonical : registry.Canonical) {node : Artifact}
    (found : registry.find? node.id = some node)
    (asked : ∀ dep, node.kind = .file → Prerequisite.node dep ∈ node.prerequisites → ∀ next,
      registry.find? dep = some next → ∀ verdicts : Verdicts, verdicts.Correct registry disk →
        Answers registry disk next (ask verdicts next))
    (correct : verdicts.Correct registry disk) :
    Answers registry disk node (evaluate registry disk ask verdicts node) := by
  unfold evaluate
  cases kind : node.kind with
  | directory => exact ⟨fun _ => ⟨_, rfl⟩, fun plain => absurd kind plain, correct⟩
  | phony =>
      have apart : node.kind ≠ .file := by simp [kind]
      refine ⟨fun _ => ⟨_, rfl⟩, fun _ => ⟨?_, ?_⟩, correct⟩
      · intro failure blocked
        exact apart ((reaches_other found apart).mp blocked).1
      · exact iff_of_true rfl ((reaches_other found apart).mpr (.phony kind))
  | file =>
      have told := prerequisitesRuling_tells node (disk.mtimeOf node.path)
        (fun dep needed => canonical.prerequisites node (Registry.mem_of_find? found) dep
          (mem_nodePrerequisites.mpr needed))
        (fun dep needed => asked dep kind needed) (disk.mtimeOf node.path).isNone correct
      simp only [← blocked_file found kind, ← outdated_file found kind] at told
      exact ⟨fun directory => absurd (kind.symm.trans directory) (by decide), fun _ => told.1,
        told.2⟩

end Asking

theorem notMem_route (acyclic : ∀ id, ¬registry.OnCycle id) {trail : List NodeId} {id : NodeId}
    (route : Plan.Route registry trail id) : id ∉ trail := by
  intro waits
  have returns : registry.Returns (trail ++ [id]) := ⟨route.walked, trail, id, rfl, waits⟩
  obtain ⟨other, cycle, -⟩ := returns.onCycle
  exact acyclic other cycle

theorem ruling_answers (canonical : registry.Canonical) (acyclic : ∀ id, ¬registry.OnCycle id)
    {depth : Nat} {underway : List NodeId} {node : Artifact}
    (found : registry.find? node.id = some node)
    (route : Plan.Route registry underway.reverse node.id)
    (deep : registry.size ≤ depth + underway.length) {verdicts : Verdicts}
    (correct : verdicts.Correct registry disk) :
    Answers registry disk node (ruling registry disk depth underway verdicts node) := by
  -- Induction on the depth that is left: without cycles the nodes underway and the one that is
  -- asked for are different, so that there is always some.
  induction depth generalizing underway node verdicts with
  | zero =>
      -- All registered nodes would be underway, and one more is asked for.
      have fresh := notMem_route acyclic route
      have room : registry.size ≤ 0 + underway.reverse.length := by simpa using deep
      exact absurd (route.depth_pos found fresh room) (Nat.lt_irrefl 0)
  | succ depth ih =>
      have fresh := notMem_route acyclic route
      rw [List.mem_reverse] at fresh
      unfold ruling
      cases decided : verdicts.get? node.id with
      | some dirty =>
          exact ⟨fun _ => ⟨dirty, rfl⟩, fun plain => correct node dirty found plain decided, correct⟩
      | none =>
          have asked : ∀ dep, node.kind = .file → Prerequisite.node dep ∈ node.prerequisites →
              ∀ next, registry.find? dep = some next → ∀ between : Verdicts,
                between.Correct registry disk → Answers registry disk next
                  (ruling registry disk depth (node.id :: underway) between next) := by
            intro dep _ needed next registered between kept
            have named := Registry.id_of_find? registered
            subst named
            have contained : registry.contains next.id = true :=
              (Registry.contains_iff (canonical.found registered)).mpr ⟨next, registered⟩
            -- One more is underway, and one less is the depth that is left.
            refine ih registered ?_ (by simp only [List.length_cons]; omega) kept
            rw [List.reverse_cons]
            exact route.extend found (by simpa using fresh)
              ⟨node, found, mem_nodePrerequisites.mpr needed, contained⟩
          have answers := evaluate_answers canonical found asked correct
          simp only [fresh, if_false]
          generalize evaluate registry disk (ruling registry disk depth (node.id :: underway))
            verdicts node = evaluated at answers
          obtain ⟨answer, after⟩ := evaluated
          cases answer with
          | error failure => exact answers
          | ok dirty =>
              exact ⟨answers.directory, answers.tells, answers.correct.record found answers.tells⟩

/-- What the answer about a file means. There is none just in case some file that it is made from,
itself included, has a source that is not there or a glob that does not compile, and the error names
such a prerequisite. A glob nested too deep, for which the program panics instead of answering, is
the failure `.nestedGlob` and counts here among the globs that do not compile. Otherwise the file is
dirty just in case something that it is made from is phony, is a file that is not there, or is a file
with a newer prerequisite. -/
theorem isDirty_means {registry : Registry} {disk : VirtualDisk} (canonical : registry.Canonical)
    (acyclic : ∀ id, ¬registry.OnCycle id) {node : Artifact}
    (found : registry.find? node.id = some node) (kind : node.kind = .file) :
    ((∃ failure, (isDirty registry disk .none node.id).1 = .error failure) ↔
        ∃ failure, Blocked registry disk node.id failure) ∧
      (∀ failure, (isDirty registry disk .none node.id).1 = .error failure →
        Blocked registry disk node.id failure) ∧
      ((∀ failure, ¬Blocked registry disk node.id failure) →
        ∃ dirty, (isDirty registry disk .none node.id).1 = .ok dirty ∧
          (dirty = true ↔ Outdated registry disk node.id)) := by
  have resolved := Registry.resolve_of_find? (canonical.found found) found
  have answers : Answers registry disk node (ruling registry disk registry.size [] .none node) :=
    ruling_answers canonical acyclic found (.start node.id) (by simp)
      (Verdicts.correct_none registry disk)
  have tells := answers.tells (by simp [kind])
  simp only [isDirty, resolved]
  generalize (ruling registry disk registry.size [] .none node).1 = answer at tells
  cases answer with
  | error failure =>
      refine ⟨iff_of_true ⟨failure, rfl⟩ ⟨failure, tells⟩, ?_, fun clear => absurd tells (clear _)⟩
      intro other same
      cases same
      exact tells
  | ok dirty =>
      refine ⟨iff_of_false (by simp) (by simpa using tells.1), by simp, fun _ => ?_⟩
      exact ⟨dirty, rfl, tells.2⟩

def cake : Artifact :=
  (Artifact.file "cake" (.run [⟨"bake", [], ⟨[]⟩, none, none⟩])).dependsOn "dough"

def kitchen : Registry where
  nodes := [cake, ((Artifact.file "dough" (.run [⟨"knead", [], ⟨[]⟩, none, none⟩])).dependsOn
    "flour").dependsOnGlob "spices/*"]

def spiced : VirtualDisk :=
  (((VirtualDisk.new.write ⟨"flour"⟩ []).write ⟨"dough"⟩ []).write ⟨"cake"⟩ []).write
    ⟨"spices/clove"⟩ []

theorem isDirty_means_kitchen :
    (isDirty kitchen spiced .none cake.id).1 = .ok true ∧ Outdated kitchen spiced cake.id := by
  have canonical : kitchen.Canonical := ⟨by decide, by decide⟩
  obtain ⟨plan, made⟩ : ∃ plan, Plan.make kitchen kitchen.ids = .ok plan := ⟨_, rfl⟩
  have found : kitchen.find? cake.id = some cake := rfl
  have answer : (isDirty kitchen spiced .none cake.id).1 = .ok true := by decide +kernel
  obtain ⟨stuck, -, answered⟩ := isDirty_means canonical
    (Registry.acyclic_of_make canonical made) found rfl
  have clear : ∀ failure, ¬Blocked kitchen spiced cake.id failure := by
    intro failure blocked
    obtain ⟨other, failed⟩ := stuck.mpr ⟨failure, blocked⟩
    rw [answer] at failed
    cases failed
  obtain ⟨dirty, told, means⟩ := answered clear
  rw [answer] at told
  cases told
  exact ⟨answer, means.mp rfl⟩

end Freshness

end ArtifactPipeline
