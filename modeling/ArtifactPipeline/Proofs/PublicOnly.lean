import ArtifactPipeline.Pipeline

set_option autoImplicit false

namespace ArtifactPipeline

def CommandEntry.isPublic (command : CommandEntry) : Bool :=
  !command.restricted && command.onlyIn != some .full

def DatasetEntry.isPublic (dataset : DatasetEntry) : Bool :=
  dataset.visibility == .unrestricted

def RuleEntry.publicPart (rule : RuleEntry) : RuleEntry :=
  { rule with
    restrictedDeps := []
    commands := rule.commands.filter CommandEntry.isPublic }

def Axis.without (flags : List String) (axis : Axis) : Axis :=
  axis.filter fun subset => !subset.any flags.contains

def MatrixEntry.publicPart (entry : MatrixEntry) : MatrixEntry :=
  if entry.restricted then
    { name := entry.name
      group := entry.group
      description := entry.description
      restricted := true }
  else
    { entry with
      restrictedRequires := []
      axes := entry.axes.map (Axis.without entry.restrictedFeatures)
      commands := entry.commands.filter CommandEntry.isPublic }

def PipelineFile.publicPart (file : PipelineFile) : PipelineFile :=
  { file with
    datasets := file.datasets.filter DatasetEntry.isPublic
    rules := file.rules.map RuleEntry.publicPart
    matrices := file.matrices.map MatrixEntry.publicPart }

theorem CommandEntry.enabled_true (command : CommandEntry) :
    command.enabled true = command.isPublic := by
  obtain ⟨args, cwd, env, stdout, append, header, mode, restricted, category, extension, datasets,
    temporal⟩ := command
  cases restricted <;> rcases mode with _ | _ | _ <;> rfl

namespace FeatureSet

theorem mem_add {features : FeatureSet} {flag other : String} :
    other ∈ (features.add flag).flags ↔ other ∈ features.flags ∨ other = flag := by
  unfold add
  split
  next known =>
    constructor
    · exact .inl
    · rintro (old | rfl)
      · exact old
      · exact known
  next => simp

theorem mem_foldl_add {flags : List String} {features : FeatureSet} {flag : String} :
    flag ∈ (flags.foldl add features).flags ↔ flag ∈ features.flags ∨ flag ∈ flags := by
  induction flags generalizing features with
  | nil => simp
  | cons first rest ih => rw [List.foldl_cons, ih, mem_add, List.mem_cons, or_assoc]

theorem mem_ofSubsets {subsets : List (List String)} {flag : String} :
    flag ∈ (ofSubsets subsets).flags ↔ ∃ subset ∈ subsets, flag ∈ subset := by
  simp [ofSubsets, mem_foldl_add, empty]

theorem containsAny_ofSubsets (subsets : List (List String)) (flags : List String) :
    (!(ofSubsets subsets).containsAny flags) =
      subsets.all fun subset => !subset.any flags.contains := by
  rw [Bool.eq_iff_iff]
  simp only [containsAny, contains, Bool.not_eq_true', List.any_eq_false, decide_eq_true_eq,
    mem_ofSubsets, List.all_eq_true, List.contains_iff_mem, not_exists, not_and]
  exact ⟨fun avoided subset chosen flag within known => avoided flag known subset chosen within,
    fun avoided flag known subset chosen within => avoided subset chosen flag within known⟩

end FeatureSet

theorem filter_choices (wanted : List String → Bool) (axes : List Axis) :
    (choices axes).filter (fun choice => choice.all wanted) =
      choices (axes.map fun axis => axis.filter wanted) := by
  induction axes with
  | nil => rfl
  | cons axis axes ih =>
      simp only [choices, List.map_cons, ← ih]
      induction axis with
      | nil => rfl
      | cons subset subsets each =>
          rw [List.flatMap_cons, List.filter_append, each]
          cases kept : wanted subset <;>
            simp [List.filter_map, Function.comp_def, kept]

namespace Experiment

variable {settings : RunSettings}

theorem combinations_publicPart (publicOnly : settings.publicOnly = true) {entry : MatrixEntry}
    (unrestricted : entry.restricted = false) :
    combinations entry.publicPart settings = combinations entry settings := by
  -- A run leaves out whole choices where the public part leaves out subsets.
  have avoiding (axes : List Axis) :
      (featureCombinations axes).filter
          (fun features => !features.containsAny entry.restrictedFeatures) =
        featureCombinations (axes.map (Axis.without entry.restrictedFeatures)) := by
    simp only [featureCombinations, List.filter_map, Function.comp_def,
      FeatureSet.containsAny_ofSubsets, filter_choices]
    rfl
  simp only [combinations, MatrixEntry.publicPart, unrestricted, Bool.false_eq_true, if_false,
    ← avoiding, List.filter_filter]
  refine List.filter_congr fun features _ => ?_
  simp [featuresApply, MatrixEntry.guards, publicOnly]

theorem slots_publicPart (publicOnly : settings.publicOnly = true) {entry : MatrixEntry}
    (unrestricted : entry.restricted = false) (datasets : List Dataset) :
    slots entry.publicPart settings datasets = slots entry settings datasets := by
  have applies : datasetApplies entry.publicPart settings = datasetApplies entry settings := by
    funext dataset
    simp [datasetApplies, MatrixEntry.publicPart, unrestricted]
  have repetitions : entry.publicPart.repetitions = entry.repetitions := by
    simp [MatrixEntry.publicPart, unrestricted]
  have commands (dataset : Dataset) :
      entry.publicPart.commands.filter (commandApplies settings dataset) =
        entry.commands.filter (commandApplies settings dataset) := by
    simp only [MatrixEntry.publicPart, unrestricted, Bool.false_eq_true, if_false,
      List.filter_filter]
    refine List.filter_congr fun command _ => ?_
    simp [commandApplies, publicOnly, CommandEntry.enabled_true]
  simp only [slots, applies, repetitions, commands,
    combinations_publicPart publicOnly unrestricted]

theorem variant_publicPart (publicOnly : settings.publicOnly = true) {entry : MatrixEntry}
    (unrestricted : entry.restricted = false) (slot : Slot) (output : NodeId) :
    variant entry.publicPart settings slot output = variant entry settings slot output := by
  simp [variant, command, environment, requires, Slot.category, MatrixEntry.category,
    MatrixEntry.publicPart, unrestricted, publicOnly]

theorem fill_publicPart (publicOnly : settings.publicOnly = true) {entry : MatrixEntry}
    (unrestricted : entry.restricted = false) (expDir : Path) (slots : List Slot)
    (used : List NodeId) (namer : OutputNamer) :
    fill entry.publicPart settings expDir used namer slots =
      fill entry settings expDir used namer slots := by
  have name : entry.publicPart.name = entry.name := by simp [MatrixEntry.publicPart, unrestricted]
  have category (slot : Slot) : slot.category entry.publicPart = slot.category entry := by
    simp [Slot.category, MatrixEntry.category, MatrixEntry.publicPart, unrestricted]
  have extension (slot : Slot) : slot.extension entry.publicPart = slot.extension entry := by
    simp [Slot.extension, MatrixEntry.publicPart, unrestricted]
  induction slots generalizing used namer with
  | nil => rfl
  | cons slot rest ih =>
      simp only [fill, name, category, extension, ih,
        variant_publicPart publicOnly unrestricted]

theorem expand_publicPart (publicOnly : settings.publicOnly = true) (entry : MatrixEntry)
    (datasets : List Dataset) (expDir : Path) (namer : OutputNamer) :
    expand entry.publicPart settings datasets expDir namer =
      expand entry settings datasets expDir namer := by
  cases restricted : entry.restricted with
  | true => simp [expand, MatrixEntry.publicPart, restricted, publicOnly]
  | false =>
      have open' : entry.publicPart.restricted = false := by
        simp [MatrixEntry.publicPart, restricted]
      simp only [expand, restricted, open', slots_publicPart publicOnly restricted,
        fill_publicPart publicOnly restricted]

end Experiment

namespace Pipeline

variable {settings : RunSettings}

theorem ruleArtifact_publicPart (publicOnly : settings.publicOnly = true) (rule : RuleEntry) :
    ruleArtifact settings rule.publicPart = ruleArtifact settings rule := by
  have action : ruleAction settings rule.publicPart = ruleAction settings rule := by
    simp [ruleAction, RuleEntry.publicPart, publicOnly, CommandEntry.enabled_true]
  have base : ruleBase settings rule.publicPart = ruleBase settings rule := by
    simp only [ruleBase, action]
    rfl
  simp only [ruleArtifact, base, publicOnly, if_true]
  rfl

theorem usableDatasets_publicPart (publicOnly : settings.publicOnly = true)
    (file : PipelineFile) :
    usableDatasets file.publicPart settings = usableDatasets file settings := by
  simp [usableDatasets, PipelineFile.publicPart, List.filter_map, Function.comp_def,
    Dataset.usable, Dataset.ofEntry, DatasetEntry.isPublic, publicOnly]

namespace Draft

theorem addRule_publicPart (publicOnly : settings.publicOnly = true) (draft : Draft)
    (rule : RuleEntry) : draft.addRule settings rule.publicPart = draft.addRule settings rule := by
  simp only [addRule, ruleArtifact_publicPart publicOnly]
  rfl

theorem addMatrix_publicPart (publicOnly : settings.publicOnly = true) (expDir : String)
    (datasets : List Dataset) (draft : Draft) (entry : MatrixEntry) :
    draft.addMatrix expDir settings datasets entry.publicPart =
      draft.addMatrix expDir settings datasets entry := by
  have group : entry.publicPart.group = entry.group := by
    unfold MatrixEntry.publicPart; split <;> rfl
  have whole (variants : List Variant) :
      aggregate expDir entry.publicPart variants = aggregate expDir entry variants := by
    unfold MatrixEntry.publicPart; split <;> rfl
  simp only [addMatrix, matrixArtifacts, Experiment.expand_publicPart publicOnly, group, whole]

end Draft

theorem assemble_publicPart (publicOnly : settings.publicOnly = true) (file : PipelineFile)
    (namer : OutputNamer) :
    assemble file.publicPart settings namer = assemble file settings namer := by
  have rules (draft : Draft) :
      file.publicPart.rules.foldlM (Draft.addRule settings) draft =
        file.rules.foldlM (Draft.addRule settings) draft := by
    simp only [PipelineFile.publicPart, List.foldlM_map, Draft.addRule_publicPart publicOnly]
  have matrices (datasets : List Dataset) (draft : Draft) :
      file.publicPart.matrices.foldlM
          (Draft.addMatrix file.settings.expDir settings datasets) draft =
        file.matrices.foldlM (Draft.addMatrix file.settings.expDir settings datasets) draft := by
    simp only [PipelineFile.publicPart, List.foldlM_map, Draft.addMatrix_publicPart publicOnly]
  simp only [assemble, usableDatasets_publicPart publicOnly, rules]
  simp only [← matrices]
  rfl

/-- A public-only run is assembled from the public part of its file: restricted data changes
neither what is built, nor the names of the outputs, nor the error that assembly ends with. -/
theorem build_publicPart (file : PipelineFile) (settings : RunSettings) (namer : OutputNamer)
    (publicOnly : settings.publicOnly = true) :
    build file settings namer = build file.publicPart settings namer := by
  simp only [build, assemble_publicPart publicOnly]
  rfl

def tollRoads : PipelineFile where
  datasets := [
    { name := "city", path := "city" },
    { name := "toll", path := "toll", visibility := .restricted }
  ]
  rules := [{
    id := "report"
    restrictedDeps := ["ledger"]
    commands := [{ args := ["sum"] }, { args := ["audit"], restricted := true }]
  }]
  matrices := [
    { name := "speed"
      restrictedRequires := ["ledger"]
      axes := [[["fast"], ["fast", "toll"]]]
      restrictedFeatures := ["toll"]
      commands := [{ args := ["drive"] }, { args := ["trace"], onlyIn := some .full }] },
    { name := "fees", restricted := true, commands := [{ args := ["bill"] }] }
  ]

theorem build_publicPart_tollRoads :
    tollRoads.publicPart ≠ tollRoads ∧
      (build tollRoads { publicOnly := true } ⟨"T", 0⟩).isOk = true ∧
      build tollRoads { publicOnly := true } ⟨"T", 0⟩ =
        build tollRoads.publicPart { publicOnly := true } ⟨"T", 0⟩ :=
  ⟨by decide, by decide +kernel, build_publicPart tollRoads { publicOnly := true } ⟨"T", 0⟩ rfl⟩

theorem build_eq_of_publicPart_eq (publicOnly : settings.publicOnly = true)
    {file other : PipelineFile} (alike : file.publicPart = other.publicPart)
    (namer : OutputNamer) : build file settings namer = build other settings namer := by
  have defaults : file.settings = other.settings := congrArg (·.settings) alike
  have same : assemble file settings namer = assemble other settings namer := by
    rw [← assemble_publicPart publicOnly, alike, assemble_publicPart publicOnly]
  simp only [build, same, defaults]

end Pipeline

end ArtifactPipeline
