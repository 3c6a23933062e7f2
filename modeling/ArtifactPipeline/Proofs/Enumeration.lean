import ArtifactPipeline.Proofs.Numbering
import ArtifactPipeline.Proofs.Selection

set_option autoImplicit false

namespace ArtifactPipeline

/-- The list has what is coded, one item for each code and in the order of the codes. -/
def Enumerates {α : Type} (coded : List Nat → α → Prop) (items : List α) : Prop :=
  ∃ pairs : List (List Nat × α), pairs.map Prod.snd = items ∧
    pairs.Pairwise (fun earlier later => earlier.1 < later.1) ∧
      ∀ code item, (code, item) ∈ pairs ↔ coded code item

namespace Enumerates

variable {α β : Type} {coded : List Nat → α → Prop} {items : List α}

theorem congr (enumerates : Enumerates coded items) {other : List Nat → α → Prop}
    (same : ∀ code item, coded code item ↔ other code item) : Enumerates other items := by
  obtain ⟨pairs, projected, ordered, members⟩ := enumerates
  exact ⟨pairs, projected, ordered, fun code item => (members code item).trans (same code item)⟩

theorem single (item : α) : Enumerates (fun code other => code = [] ∧ other = item) [item] :=
  ⟨[([], item)], rfl, List.pairwise_singleton _ _, by simp⟩

theorem map (enumerates : Enumerates coded items) (f : α → β) :
    Enumerates (fun code made => ∃ item, coded code item ∧ f item = made) (items.map f) := by
  obtain ⟨pairs, rfl, ordered, members⟩ := enumerates
  refine ⟨pairs.map fun pair => (pair.1, f pair.2), by simp, ?_, fun code made => ?_⟩
  · rw [List.pairwise_map]
    exact ordered
  · simp [List.mem_map, ← members]

theorem filter (enumerates : Enumerates coded items) (keeps : α → Bool) :
    Enumerates (fun code item => coded code item ∧ keeps item = true) (items.filter keeps) := by
  obtain ⟨pairs, rfl, ordered, members⟩ := enumerates
  refine ⟨pairs.filter fun pair => keeps pair.2, ?_, ordered.filter _, fun code item => ?_⟩
  · rw [List.filter_map]
    rfl
  · simp [List.mem_filter, ← members]

theorem flatMap (items : List α) (keeps : α → Bool) {inner : α → List Nat → β → Prop}
    {f : α → List β} (each : ∀ item, Enumerates (inner item) (f item)) :
    Enumerates
      (fun code made => ∃ position item rest, code = position :: rest ∧
        items[position]? = some item ∧ keeps item = true ∧ inner item rest made)
      ((items.filter keeps).flatMap f) := by
  choose pairs projected ordered members using each
  let chosen := items.zipIdx.filter fun numbered => keeps numbered.1
  have kept : chosen.map Prod.fst = items.filter keeps := by
    conv_rhs => rw [← List.zipIdx_map_fst 0 items, List.filter_map]
    rfl
  refine ⟨chosen.flatMap fun numbered =>
    (pairs numbered.1).map fun pair => (numbered.2 :: pair.1, pair.2), ?_, ?_, ?_⟩
  · rw [← kept, List.flatMap_map, List.map_flatMap]
    refine List.flatMap_congr fun numbered _ => ?_
    rw [List.map_map, ← projected]
    rfl
  -- Codes of one item compare by what follows it, and those of two items by their positions.
  · refine List.pairwise_flatMap.mpr ⟨fun numbered _ => ?_, ?_⟩
    · rw [List.pairwise_map]
      exact (ordered numbered.1).imp fun before => List.cons_lt_cons_iff.mpr (.inr ⟨rfl, before⟩)
    · refine ((OutputNamer.pairwise_zipIdx items 0).filter _).imp ?_
      intro earlier later before first inFirst second inSecond
      obtain ⟨_, -, rfl⟩ := List.mem_map.mp inFirst
      obtain ⟨_, -, rfl⟩ := List.mem_map.mp inSecond
      exact List.cons_lt_cons_iff.mpr (.inl before)
  · intro code made
    simp only [List.mem_flatMap, List.mem_map, Prod.mk.injEq, chosen, List.mem_filter,
      List.mem_zipIdx_iff_getElem?]
    constructor
    · rintro ⟨⟨item, position⟩, ⟨placed, applies⟩, ⟨rest, _⟩, listed, rfl, rfl⟩
      exact ⟨position, item, rest, rfl, placed, applies, (members item _ _).mp listed⟩
    · rintro ⟨position, item, rest, rfl, placed, applies, holds⟩
      exact ⟨(item, position), ⟨placed, applies⟩, (rest, made), (members item _ _).mpr holds,
        rfl, rfl⟩

end Enumerates

inductive Picks : List Axis → List Nat → List (List String) → Prop
  | none : Picks [] [] []
  | axis {axis : Axis} {axes : List Axis} {position : Nat} {positions : List Nat}
      {subset : List String} {subsets : List (List String)}
      (placed : axis[position]? = some subset) (rest : Picks axes positions subsets) :
      Picks (axis :: axes) (position :: positions) (subset :: subsets)

theorem enumerates_choices (axes : List Axis) : Enumerates (Picks axes) (choices axes) := by
  induction axes with
  | nil =>
      refine (Enumerates.single []).congr fun code subsets => ?_
      constructor
      · rintro ⟨rfl, rfl⟩
        exact .none
      · rintro ⟨⟩
        exact ⟨rfl, rfl⟩
  | cons axis axes ih =>
      have every := Enumerates.flatMap axis (fun _ => true) fun subset => ih.map (subset :: ·)
      rw [List.filter_true] at every
      refine every.congr fun code subsets => ?_
      constructor
      · rintro ⟨position, subset, rest, rfl, placed, -, others, picks, rfl⟩
        exact .axis placed picks
      · rintro (_ | ⟨placed, rest⟩)
        exact ⟨_, _, _, rfl, placed, rfl, _, rest, rfl⟩

namespace FeatureSet

theorem flags_foldl_add (flags : List String) (features : FeatureSet) :
    (flags.foldl add features).flags = Pipeline.addNew features.flags flags := by
  induction flags generalizing features with
  | nil => rfl
  | cons flag rest ih =>
      rw [List.foldl_cons, ih, Pipeline.addNew, Pipeline.addNew, List.foldl_cons]
      unfold add
      split_ifs <;> rfl

theorem ofSubsets_eq (subsets : List (List String)) :
    ofSubsets subsets = ⟨subsets.flatten.eraseDups⟩ := by
  have flags := flags_foldl_add subsets.flatten empty
  rw [empty, Pipeline.addNew_nil] at flags
  exact congrArg FeatureSet.mk flags

end FeatureSet

namespace Experiment

def Fits (names : Option (List String)) (temporal : Option TemporalClass) (dataset : Dataset) :
    Prop :=
  (∀ listed, names = some listed → dataset.name ∈ listed) ∧
    ∀ wanted, temporal = some wanted → wanted = dataset.temporal

def TakesPart (publicOnly : Bool) (command : CommandEntry) : Prop :=
  (publicOnly = true → command.restricted = false) ∧
    (command.onlyIn = some .publicOnly → publicOnly = true) ∧
      (command.onlyIn = some .full → publicOnly = false)

def Agree (entry : MatrixEntry) (settings : RunSettings) (flags : List String) : Prop :=
  (∀ guard ∈ entry.guardEntries, guard.flag ∈ flags →
    (∀ needed ∈ guard.requires, needed ∈ flags) ∧ ∀ barred ∈ guard.excludes, barred ∉ flags) ∧
    (settings.publicOnly = true → ∀ flag ∈ entry.restrictedFeatures, flag ∉ flags)

/-- The choices that a matrix asks for, by position of the dataset, repetition, position of the
command and positions of the subsets. -/
inductive Admits (entry : MatrixEntry) (settings : RunSettings) (datasets : List Dataset) :
    List Nat → Slot → Prop
  | slot {datasetAt repetition commandAt : Nat} {positions : List Nat} {dataset : Dataset}
      {command : CommandEntry} {subsets : List (List String)}
      (unrestricted : settings.publicOnly = true → entry.restricted = false)
      (given : datasets[datasetAt]? = some dataset)
      (fits : Fits entry.datasets entry.temporal dataset)
      (visible : settings.publicOnly = true → dataset.visibility = .unrestricted)
      (repeated : repetition < entry.repetitions)
      (declared : entry.commands[commandAt]? = some command)
      (applies : Fits command.datasets command.temporal dataset)
      (takesPart : TakesPart settings.publicOnly command)
      (picks : Picks entry.axes positions subsets)
      (agree : Agree entry settings subsets.flatten.eraseDups) :
      Admits entry settings datasets (datasetAt :: repetition :: commandAt :: positions)
        ⟨dataset, repetition, command, ⟨subsets.flatten.eraseDups⟩⟩

variable {entry : MatrixEntry} {settings : RunSettings} {datasets : List Dataset}

theorem passes_iff {names : Option (List String)} {temporal : Option TemporalClass}
    {dataset : Dataset} : passes names temporal dataset = true ↔ Fits names temporal dataset := by
  cases names <;> cases temporal <;> simp [passes, Fits]

theorem usable_iff {dataset : Dataset} :
    dataset.usable settings = true ↔
      (settings.publicOnly = true → dataset.visibility = .unrestricted) := by
  cases known : settings.publicOnly <;> simp [Dataset.usable, known]

theorem enabled_iff {publicOnly : Bool} {command : CommandEntry} :
    command.enabled publicOnly = true ↔ TakesPart publicOnly command := by
  unfold CommandEntry.enabled TakesPart
  rcases command.onlyIn with _ | _ | _ <;> cases publicOnly <;> simp [ModeFilter.admits]

theorem guards_iff {guard : GuardEntry} {features : FeatureSet} :
    guard.guards.all (Guard.admits features) = true ↔ (guard.flag ∈ features.flags →
      (∀ needed ∈ guard.requires, needed ∈ features.flags) ∧
        ∀ barred ∈ guard.excludes, barred ∉ features.flags) := by
  -- A guard that needs or bars nothing is left out and admits everything.
  have needs : (if guard.requires.isEmpty then [] else
        [Guard.requires guard.flag guard.requires]).all (Guard.admits features) = true ↔
      (guard.flag ∈ features.flags → ∀ needed ∈ guard.requires, needed ∈ features.flags) := by
    split_ifs with none
    · simp [List.isEmpty_iff.mp none]
    · simp [Guard.admits, FeatureSet.contains, FeatureSet.containsAll, imp_iff_not_or]
  have bars : (if guard.excludes.isEmpty then [] else
        [Guard.excludes guard.flag guard.excludes]).all (Guard.admits features) = true ↔
      (guard.flag ∈ features.flags → ∀ barred ∈ guard.excludes, barred ∉ features.flags) := by
    split_ifs with none
    · simp [List.isEmpty_iff.mp none]
    · simp [Guard.admits, FeatureSet.contains, FeatureSet.containsAny, imp_iff_not_or]
  rw [GuardEntry.guards, List.all_append, Bool.and_eq_true, needs, bars, ← imp_and]

theorem featuresApply_iff {features : FeatureSet} :
    featuresApply entry settings features = true ↔ Agree entry settings features.flags := by
  have guards : entry.guards.all (Guard.admits features) = true ↔
      ∀ guard ∈ entry.guardEntries, guard.guards.all (Guard.admits features) = true := by
    rw [MatrixEntry.guards, List.all_flatMap, List.all_eq_true]
  have spared : (!(settings.publicOnly && features.containsAny entry.restrictedFeatures)) = true ↔
      (settings.publicOnly = true → ∀ flag ∈ entry.restrictedFeatures, flag ∉ features.flags) := by
    cases settings.publicOnly <;> simp [FeatureSet.containsAny, FeatureSet.contains]
  rw [featuresApply, Bool.and_eq_true, guards, spared]
  exact and_congr_left' (forall₂_congr fun guard _ => guards_iff)

theorem enumerates_combinations (entry : MatrixEntry) (settings : RunSettings) :
    Enumerates
      (fun positions features => ∃ subsets, Picks entry.axes positions subsets ∧
        Agree entry settings subsets.flatten.eraseDups ∧ ⟨subsets.flatten.eraseDups⟩ = features)
      (combinations entry settings) := by
  have every := ((enumerates_choices entry.axes).map FeatureSet.ofSubsets).filter
    (featuresApply entry settings)
  refine every.congr fun positions features => ?_
  simp only [FeatureSet.ofSubsets_eq, featuresApply_iff]
  constructor
  · rintro ⟨⟨subsets, picks, rfl⟩, agree⟩
    exact ⟨subsets, picks, agree, rfl⟩
  · rintro ⟨subsets, picks, agree, rfl⟩
    exact ⟨⟨subsets, picks, rfl⟩, agree⟩

theorem enumerates_slots (entry : MatrixEntry) (settings : RunSettings) (datasets : List Dataset)
    (unrestricted : settings.publicOnly = true → entry.restricted = false) :
    Enumerates (Admits entry settings datasets) (slots entry settings datasets) := by
  have every := Enumerates.flatMap datasets (datasetApplies entry settings) fun dataset =>
    Enumerates.flatMap (List.range entry.repetitions) (fun _ => true) fun repetition =>
      Enumerates.flatMap entry.commands (commandApplies settings dataset) fun command =>
        (enumerates_combinations entry settings).map fun features =>
          Slot.mk dataset repetition command features
  simp only [List.filter_true] at every
  -- What is left is to read the filters of each dimension as conditions on a choice, and back.
  refine every.congr fun code slot => ?_
  constructor
  · rintro ⟨datasetAt, dataset, _, rfl, given, selected, index, repetition, _, rfl, placed, -,
      commandAt, command, positions, rfl, declared, applies, _, ⟨subsets, picks, agree, rfl⟩, rfl⟩
    obtain ⟨fits, visible⟩ := Bool.and_eq_true _ _ ▸ selected
    obtain ⟨suits, enabled⟩ := Bool.and_eq_true _ _ ▸ applies
    obtain ⟨below, rfl⟩ := List.getElem?_eq_some_iff.mp placed
    rw [List.length_range] at below
    rw [List.getElem_range]
    exact .slot unrestricted given (passes_iff.mp fits) (usable_iff.mp visible) below declared
      (passes_iff.mp suits) (enabled_iff.mp enabled) picks agree
  · rintro ⟨-, given, fits, visible, below, declared, suits, enabled, picks, agree⟩
    refine ⟨_, _, _, rfl, given, ?_, _, _, _, rfl, List.getElem?_range below, trivial, _, _, _, rfl,
      declared, ?_, _, ⟨_, picks, agree, rfl⟩, rfl⟩
    · exact Bool.and_eq_true _ _ ▸ ⟨passes_iff.mpr fits, usable_iff.mpr visible⟩
    · exact Bool.and_eq_true _ _ ▸ ⟨passes_iff.mpr suits, enabled_iff.mpr enabled⟩

theorem enumerates_planned (entry : MatrixEntry) (settings : RunSettings)
    (datasets : List Dataset) :
    Enumerates (Admits entry settings datasets) (planned entry settings datasets) := by
  unfold planned
  split_ifs with hidden
  · -- No choice is admissible for a matrix that the run leaves out.
    obtain ⟨restricted, publicOnly⟩ := Bool.and_eq_true _ _ ▸ hidden
    refine ⟨[], rfl, .nil, fun code slot => ⟨nofun, ?_⟩⟩
    rintro ⟨unrestricted⟩
    rw [unrestricted publicOnly] at restricted
    cases restricted
  · refine enumerates_slots entry settings datasets fun publicOnly => ?_
    rw [publicOnly, Bool.and_true] at hidden
    exact Bool.eq_false_iff.mpr hidden

structure Realizes (entry : MatrixEntry) (settings : RunSettings) (expDir : Path) (stamp : String)
    (numbered : Slot × Nat) (made : Variant) : Prop where
  matrixName : made.matrixName = entry.name
  dataset : made.dataset = numbered.1.dataset.name
  features : made.features = numbered.1.features
  repetition : made.repetition = numbered.1.repetition
  category : made.category = numbered.1.category entry
  output : made.output = .ofPath ((expDir.join ⟨numbered.1.category entry⟩).join
    ⟨OutputNamer.fileName ⟨stamp, numbered.2⟩ (numbered.1.extension entry)⟩)
  command : command entry settings numbered.1 made.output = .ok made.command
  requires : made.requires = requires entry settings numbered.1.dataset

theorem realizes_of_makes {expDir : Path} {stamp : String} {slot : Slot} {seq : Nat}
    {made : Variant} (makes : Makes settings expDir stamp (⟨entry, slot⟩, seq) made) :
    Realizes entry settings expDir stamp (slot, seq + 1) made := by
  unfold Makes variant at makes
  split at makes
  · cases makes
  · rename_i rendered
    cases makes
    exact ⟨rfl, rfl, rfl, rfl, rfl, rfl, rendered, rfl⟩

/-- An expanded matrix has one variant for each admissible choice, in the order of their positions,
and numbers them on from where the namer stood. -/
theorem expand_enumerates {expDir : Path} {namer after : OutputNamer} {variants : List Variant}
    (expanded : expand entry settings datasets expDir namer = (.ok variants, after)) :
    ∃ chosen, Enumerates (Admits entry settings datasets) chosen ∧
      List.Forall₂ (Realizes entry settings expDir namer.stamp)
        (chosen.zipIdx (namer.seq + 1)) variants ∧
      after = ⟨namer.stamp, namer.seq + variants.length⟩ := by
  refine ⟨planned entry settings datasets, enumerates_planned entry settings datasets, ?_⟩
  obtain ⟨made, counted⟩ := expand_ok expanded
  refine ⟨?_, ?_⟩
  · rw [sources, List.zipIdx_map, List.forall₂_map_left_iff] at made
    rw [List.zipIdx_succ, List.forall₂_map_left_iff]
    exact made.imp fun numbered variant => realizes_of_makes
  · rw [counted, ← made.length_eq, List.length_zipIdx]

def grid : MatrixEntry where
  name := "speed"
  repetitions := 2
  axes := [[["fast"], ["fast", "exact"], ["secret"]], [["exact"], ["lazy"]]]
  guardEntries := [{ flag := "lazy", requires := ["fast"], excludes := ["exact"] }]
  restrictedFeatures := ["secret"]
  commands := [{ args := ["drive"] }, { args := ["walk"], onlyIn := some .full }]

def gridDatasets : List Dataset := [
  ⟨"vault", "vault", .restricted, .static, []⟩, ⟨"city", "city", .unrestricted, .static, []⟩
]

def gridVariants : List (Nat × List String × NodeId) := [
  (0, ["fast", "exact"], "exp/speed/T-0007.json"),
  (0, ["fast", "lazy"], "exp/speed/T-0008.json"),
  (0, ["fast", "exact"], "exp/speed/T-0009.json"),
  (1, ["fast", "exact"], "exp/speed/T-0010.json"),
  (1, ["fast", "lazy"], "exp/speed/T-0011.json"),
  (1, ["fast", "exact"], "exp/speed/T-0012.json")
]

theorem expand_enumerates_grid :
    ∃ variants after,
      expand grid { publicOnly := true } gridDatasets ⟨"exp"⟩ ⟨"T", 6⟩ = (.ok variants, after) ∧
      variants.map (fun made => (made.repetition, made.features.flags, made.output)) =
        gridVariants ∧
      ∃ chosen, Enumerates (Admits grid { publicOnly := true } gridDatasets) chosen ∧
        List.Forall₂ (Realizes grid { publicOnly := true } ⟨"exp"⟩ "T") (chosen.zipIdx 7)
          variants ∧
        after = ⟨"T", 6 + variants.length⟩ := by
  have rendered : (expand grid { publicOnly := true } gridDatasets ⟨"exp"⟩
      ⟨"T", 6⟩).1.toOption.map (List.map fun made =>
        (made.repetition, made.features.flags, made.output)) = some gridVariants := by
    decide +kernel
  obtain ⟨variants, after, expanded⟩ : ∃ variants after,
      expand grid { publicOnly := true } gridDatasets ⟨"exp"⟩ ⟨"T", 6⟩ = (.ok variants, after) := by
    cases known : (expand grid { publicOnly := true } gridDatasets ⟨"exp"⟩ ⟨"T", 6⟩).1 with
    | error failure =>
        rw [known] at rendered
        cases rendered
    | ok variants => exact ⟨variants, _, Prod.ext known rfl⟩
  rw [expanded] at rendered
  exact ⟨variants, after, expanded, Option.some.inj rendered, expand_enumerates expanded⟩

end Experiment

end ArtifactPipeline
