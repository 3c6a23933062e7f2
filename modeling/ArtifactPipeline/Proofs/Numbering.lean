import ArtifactPipeline.Proofs.Assembly
import Mathlib.Data.List.Forall2

set_option autoImplicit false

namespace ArtifactPipeline

namespace OutputNamer

structure Request where
  expDir : Path
  category : String
  extension : String

def Request.outputId (request : Request) (stamp : String) (seq : Nat) : NodeId :=
  OutputNamer.outputId stamp request.expDir request.category request.extension seq

def outputs : OutputNamer → List Request → List NodeId
  | _, [] => []
  | namer, request :: rest =>
      let (path, namer) := namer.next request.expDir request.category request.extension
      .ofPath path :: outputs namer rest

@[simp] theorem outputs_cons (namer : OutputNamer) (request : Request) (rest : List Request) :
    namer.outputs (request :: rest) =
      request.outputId namer.stamp namer.seq :: namer.advance.outputs rest := rfl

theorem outputs_eq (namer : OutputNamer) (requests : List Request) :
    namer.outputs requests =
      (requests.zipIdx namer.seq).map fun numbered =>
        numbered.1.outputId namer.stamp numbered.2 := by
  induction requests generalizing namer with
  | nil => rfl
  | cons request rest ih =>
      rw [outputs_cons, ih, List.zipIdx_cons, List.map_cons]
      rfl

theorem pairwise_zipIdx {α : Type} (items : List α) (start : Nat) :
    (items.zipIdx start).Pairwise fun earlier later => earlier.2 < later.2 := by
  rw [← List.pairwise_map (f := Prod.snd), List.zipIdx_map_snd]
  exact List.pairwise_lt_range'

theorem nodup_outputs (namer : OutputNamer) {requests : List Request}
    (flat : ∀ request ∈ requests, Flat request.extension) : (namer.outputs requests).Nodup := by
  rw [outputs_eq, List.Nodup, List.pairwise_map]
  refine (pairwise_zipIdx requests namer.seq).imp_of_mem ?_
  intro earlier later memberEarlier memberLater before same
  have equal := outputId_inj (flat _ (List.fst_mem_of_mem_zipIdx memberEarlier))
    (flat _ (List.fst_mem_of_mem_zipIdx memberLater)) same
  omega

end OutputNamer

namespace Experiment

open OutputNamer

structure Source where
  entry : MatrixEntry
  slot : Slot

def Source.request (source : Source) (expDir : Path) : Request :=
  ⟨expDir, source.slot.category source.entry, source.slot.extension source.entry⟩

def Makes (settings : RunSettings) (expDir : Path) (stamp : String) (numbered : Source × Nat)
    (made : Variant) : Prop :=
  variant numbered.1.entry settings numbered.1.slot
    ((numbered.1.request expDir).outputId stamp numbered.2) = .ok made

/-- The slots that a run fills: none for a restricted matrix in a public-only run. -/
def planned (entry : MatrixEntry) (settings : RunSettings) (datasets : List Dataset) :
    List Slot :=
  if entry.restricted && settings.publicOnly then [] else slots entry settings datasets

def sources (entry : MatrixEntry) (settings : RunSettings) (datasets : List Dataset) :
    List Source :=
  (planned entry settings datasets).map (.mk entry)

variable {entry : MatrixEntry} {settings : RunSettings} {expDir : Path}

theorem expand_eq_fill (datasets : List Dataset) (namer : OutputNamer) :
    expand entry settings datasets expDir namer =
      fill entry settings expDir [] namer (planned entry settings datasets) := by
  unfold expand planned
  split <;> rfl

theorem variant_failure {slot : Slot} {output : NodeId} {failure : Failure}
    (failed : variant entry settings slot output = .error failure) :
    failure = .config (.commandWithoutArgs (.matrix entry.name)) := by
  unfold variant command at failed
  dsimp only at failed
  split at failed
  · rename_i refused
    split at refused <;> cases refused
    cases failed
    rfl
  · cases failed

theorem Makes.named {stamp : String} {numbered : Source × Nat} {made : Variant}
    (makes : Makes settings expDir stamp numbered made) :
    made.category = numbered.1.slot.category numbered.1.entry ∧
      made.output = (numbered.1.request expDir).outputId stamp numbered.2 := by
  unfold Makes variant at makes
  split at makes
  · cases makes
  · cases makes
    exact ⟨rfl, rfl⟩

theorem fill_ok {slots : List Slot} {used : List NodeId} {namer after : OutputNamer}
    {variants : List Variant}
    (filled : fill entry settings expDir used namer slots = (.ok variants, after)) :
    List.Forall₂ (Makes settings expDir namer.stamp)
        ((slots.map (Source.mk entry)).zipIdx namer.seq) variants ∧
      after = ⟨namer.stamp, namer.seq + slots.length⟩ := by
  -- The namer's number moves on with each slot, so it is general in the induction.
  induction slots generalizing used namer variants with
  | nil =>
      cases filled
      exact ⟨.nil, rfl⟩
  | cons slot rest ih =>
      simp only [fill, next_snd] at filled
      split at filled
      · cases filled
      split at filled
      · cases filled
      rename_i first rendered
      split at filled
      · cases filled
      rename_i others ended later
      cases filled
      obtain ⟨made, counted⟩ := ih later
      refine ⟨.cons rendered made, ?_⟩
      rw [counted, advance_seq, advance_stamp, List.length_cons, Nat.add_assoc, Nat.add_comm 1]

theorem expand_ok {datasets : List Dataset} {namer after : OutputNamer} {variants : List Variant}
    (expanded : expand entry settings datasets expDir namer = (.ok variants, after)) :
    List.Forall₂ (Makes settings expDir namer.stamp)
        ((sources entry settings datasets).zipIdx namer.seq) variants ∧
      after = ⟨namer.stamp, namer.seq + (sources entry settings datasets).length⟩ := by
  rw [expand_eq_fill] at expanded
  obtain ⟨made, counted⟩ := fill_ok expanded
  rw [sources, List.length_map]
  exact ⟨made, counted⟩

theorem fill_not_repeated {slots : List Slot} {used : List NodeId} {namer : OutputNamer}
    (nodup : (namer.outputs (slots.map fun slot => (Source.mk entry slot).request expDir)).Nodup)
    (fresh : ∀ output ∈ namer.outputs
      (slots.map fun slot => (Source.mk entry slot).request expDir), output ∉ used)
    (place : Place) (output : NodeId) :
    (fill entry settings expDir used namer slots).1 ≠
      .error (.config (.repeatedOutput place output)) := by
  -- Along the slots the outputs to come stay distinct, and none of them is taken yet.
  induction slots generalizing used namer with
  | nil =>
      intro same
      cases same
  | cons slot rest ih =>
      rw [List.map_cons, outputs_cons, List.nodup_cons] at nodup
      rw [List.map_cons, outputs_cons, List.forall_mem_cons] at fresh
      simp only [fill, next_snd]
      split
      · rename_i again
        exact absurd again fresh.1
      split
      · -- A slot that cannot be rendered fails with a message of its own.
        rename_i failure failed
        intro same
        cases same
        cases variant_failure failed
      have fresher : ∀ later ∈ namer.advance.outputs
          (rest.map fun slot => (Source.mk entry slot).request expDir),
          later ∉ ((Source.mk entry slot).request expDir).outputId namer.stamp namer.seq ::
            used := by
        intro later member
        rw [List.mem_cons, not_or]
        refine ⟨?_, fresh.2 later member⟩
        rintro rfl
        exact nodup.1 member
      have others := ih nodup.2 fresher
      change (fill entry settings expDir (NodeId.ofPath (namer.next expDir (slot.category entry)
        (slot.extension entry)).1 :: used) namer.advance rest).1 ≠ _ at others
      split <;> rename_i ended <;> rw [ended] at others
      · exact others
      · intro same
        cases same

theorem expand_not_repeated {datasets : List Dataset} (namer : OutputNamer)
    (flat : ∀ source ∈ sources entry settings datasets,
      Flat (source.slot.extension source.entry)) (place : Place) (output : NodeId) :
    (expand entry settings datasets expDir namer).1 ≠
      .error (.config (.repeatedOutput place output)) := by
  rw [expand_eq_fill]
  refine fill_not_repeated (nodup_outputs namer ?_) (fun _ _ => List.not_mem_nil) place output
  refine List.forall_mem_map.mpr fun slot member => ?_
  exact flat _ (List.mem_map_of_mem member)

theorem outputs_of_makes {stamp : String} {seq : Nat} {sources : List Source}
    {variants : List Variant}
    (made : List.Forall₂ (Makes settings expDir stamp) (sources.zipIdx seq) variants) :
    variants.map (·.output) =
      OutputNamer.outputs ⟨stamp, seq⟩ (sources.map (·.request expDir)) := by
  rw [outputs_eq, List.zipIdx_map, List.map_map]
  generalize sources.zipIdx seq = numbered at made ⊢
  induction made with
  | nil => rfl
  | cons first rest ih => rw [List.map_cons, List.map_cons, first.named.2, ih]; rfl

end Experiment

namespace Pipeline

open Experiment

def sources (file : PipelineFile) (settings : RunSettings) : List Source :=
  file.matrices.flatMap fun entry =>
    Experiment.sources entry settings (usableDatasets file settings)

variable {settings : RunSettings}

theorem Draft.registerAll_keeps {draft next : Draft} {artifacts : List Artifact}
    (registered : draft.registerAll artifacts = .ok next) :
    next.variants = draft.variants ∧ next.namer = draft.namer := by
  unfold Draft.registerAll at registered
  split at registered <;> cases registered
  exact ⟨rfl, rfl⟩

theorem Draft.addMatrix_numbers {expDir : String} {datasets : List Dataset} {draft next : Draft}
    {entry : MatrixEntry} (added : draft.addMatrix expDir settings datasets entry = .ok next) :
    ∃ variants, next.variants = draft.variants ++ variants ∧
      List.Forall₂ (Makes settings ⟨expDir⟩ draft.namer.stamp)
        ((Experiment.sources entry settings datasets).zipIdx draft.namer.seq) variants ∧
      next.namer = ⟨draft.namer.stamp,
        draft.namer.seq + (Experiment.sources entry settings datasets).length⟩ := by
  unfold Draft.addMatrix at added
  split at added
  · cases added
  rename_i variants after expanded
  split at added
  · cases added
  rename_i between registered
  cases added
  obtain ⟨made, counted⟩ := expand_ok expanded
  refine ⟨variants, ?_, made, counted⟩
  change between.variants ++ variants = _
  rw [(Draft.registerAll_keeps registered).1]

theorem foldlM_addMatrix_numbers {expDir : String} {datasets : List Dataset}
    {entries : List MatrixEntry} {draft next : Draft}
    (added : entries.foldlM (Draft.addMatrix expDir settings datasets) draft = .ok next) :
    ∃ variants, next.variants = draft.variants ++ variants ∧
      List.Forall₂ (Makes settings ⟨expDir⟩ draft.namer.stamp)
        ((entries.flatMap fun entry => Experiment.sources entry settings datasets).zipIdx
          draft.namer.seq) variants := by
  induction entries generalizing draft with
  | nil =>
      cases added
      exact ⟨[], by simp, .nil⟩
  | cons entry rest ih =>
      rw [List.foldlM_cons] at added
      cases known : draft.addMatrix expDir settings datasets entry with
      | error failure =>
          rw [known] at added
          cases added
      | ok between =>
          rw [known] at added
          obtain ⟨first, placed, made, counted⟩ := Draft.addMatrix_numbers known
          obtain ⟨others, appended, later⟩ := ih added
          -- The next experiment goes on where the numbers of this one end.
          rw [counted] at later
          refine ⟨first ++ others, by rw [appended, placed, List.append_assoc], ?_⟩
          rw [List.flatMap_cons, List.zipIdx_append]
          exact List.rel_append made later

theorem Draft.addRule_keeps {draft next : Draft} {rule : RuleEntry}
    (added : draft.addRule settings rule = .ok next) :
    next.variants = draft.variants ∧ next.namer = draft.namer := by
  unfold Draft.addRule at added
  split at added
  · cases added
  split at added
  · rename_i artifact _ _ group _
    obtain ⟨variants, named⟩ := Draft.registerAll_keeps added
    exact ⟨variants, named⟩
  · exact Draft.registerAll_keeps added

theorem Draft.addDataset_keeps {draft next : Draft} {derivation : Derivation} {dataset : Dataset}
    (added : draft.addDataset derivation settings dataset = .ok next) :
    next.variants = draft.variants ∧ next.namer = draft.namer := by
  unfold Draft.addDataset at added
  split at added
  · cases added
  split at added
  · cases added
  rename_i between registered
  cases added
  exact (Draft.registerAll_keeps registered : between.variants = _ ∧ between.namer = _)

theorem experiments_of_build {file : PipelineFile} {namer after : OutputNamer}
    {pipeline : Pipeline} (made : build file settings namer = .ok (pipeline, after)) :
    ∃ prepared last, prepared.variants = [] ∧ prepared.namer = namer ∧
      file.matrices.foldlM
        (Draft.addMatrix file.settings.expDir settings (usableDatasets file settings)) prepared =
          .ok last ∧
      pipeline.registry = last.registry ∧ pipeline.variants = last.variants := by
  -- Experiments come last, and nothing is named before them.
  let unnamed (draft : Draft) : Prop := draft.variants = [] ∧ draft.namer = namer
  have rules : Ends unnamed (fun _ => True)
      (file.rules.foldlM (Draft.addRule settings) (Draft.start namer)) :=
    .foldlM ⟨rfl, rfl⟩ fun rule _ draft kept => by
      cases added : draft.addRule settings rule with
      | error failure => trivial
      | ok next =>
          obtain ⟨variants, named⟩ := Draft.addRule_keeps added
          exact ⟨variants.trans kept.1, named.trans kept.2⟩
  unfold build assemble at made
  dsimp only at made
  split at made
  · cases made
  rename_i last assembled
  split at assembled
  · cases assembled
  rename_i ruled known
  rw [known] at rules
  have datasets : Ends unnamed (fun _ => True)
      ((usableDatasets file settings).foldlM (Draft.addDataset file.derivation settings) ruled) :=
    .foldlM rules fun dataset _ draft kept => by
      cases added : draft.addDataset file.derivation settings dataset with
      | error failure => trivial
      | ok next =>
          obtain ⟨variants, named⟩ := Draft.addDataset_keeps added
          exact ⟨variants.trans kept.1, named.trans kept.2⟩
  split at assembled
  · cases assembled
  rename_i prepared derived
  rw [derived] at datasets
  split at made
  · cases made
  cases made
  exact ⟨prepared, last, datasets.1, datasets.2, assembled, rfl, rfl⟩

theorem variants_of_build {file : PipelineFile} {namer after : OutputNamer} {pipeline : Pipeline}
    (made : build file settings namer = .ok (pipeline, after)) :
    List.Forall₂ (Makes settings ⟨file.settings.expDir⟩ namer.stamp)
      ((sources file settings).zipIdx namer.seq) pipeline.variants := by
  obtain ⟨prepared, last, unnamed, rfl, added, -, listed⟩ := experiments_of_build made
  obtain ⟨variants, appended, numbered⟩ := foldlM_addMatrix_numbers added
  rw [listed, appended, unnamed, List.nil_append]
  exact numbered

/-- Outputs of one namer have different ids when no extension opens a directory, whatever their
directories and the stamp. So no two variants of a pipeline share an output, across all its
matrices, and expanding a matrix never comes upon an output that is taken. -/
theorem outputs_distinct :
    (∀ (namer : OutputNamer) (requests : List OutputNamer.Request),
      (∀ request ∈ requests, OutputNamer.Flat request.extension) →
        (namer.outputs requests).Nodup) ∧
    (∀ (file : PipelineFile) (settings : RunSettings) (namer after : OutputNamer)
      (pipeline : Pipeline), build file settings namer = .ok (pipeline, after) →
      (∀ source ∈ sources file settings,
        OutputNamer.Flat (source.slot.extension source.entry)) →
        (pipeline.variants.map (·.output)).Nodup) ∧
    ∀ (entry : MatrixEntry) (settings : RunSettings) (datasets : List Dataset) (expDir : Path)
      (namer : OutputNamer),
      (∀ source ∈ Experiment.sources entry settings datasets,
        OutputNamer.Flat (source.slot.extension source.entry)) →
        ∀ (place : Place) (output : NodeId),
          (Experiment.expand entry settings datasets expDir namer).1 ≠
            .error (.config (.repeatedOutput place output)) := by
  refine ⟨fun namer requests => OutputNamer.nodup_outputs namer, ?_,
    fun entry settings datasets expDir namer => expand_not_repeated namer⟩
  intro file settings namer after pipeline made flat
  rw [outputs_of_makes (variants_of_build made)]
  exact OutputNamer.nodup_outputs _ (List.forall_mem_map.mpr flat)

def twinRuns : PipelineFile where
  datasets := [{ name := "city", path := "city" }]
  matrices := [
    { name := "speed", categoryName := some "/data\\x", extension := "0001",
      commands := [{ args := ["drive"] }, { args := ["walk"], category := some "../speed " }] },
    { name := "delay", categoryName := some "", extension := "0002. ",
      commands := [{ args := ["drive"] }] }
  ]

theorem outputs_distinct_twinRuns :
    (∀ source ∈ sources twinRuns {}, OutputNamer.Flat (source.slot.extension source.entry)) ∧
      ∃ pipeline after, build twinRuns {} ⟨"T", 9998⟩ = .ok (pipeline, after) ∧
        pipeline.variants.map (·.output) = [
          "/data/x/T-9999.0001", "exp/../speed /T-10000.0001", "exp/T-10001.0002."] ∧
        (pipeline.variants.map (·.output)).Nodup := by
  have flat : ∀ source ∈ sources twinRuns {},
      OutputNamer.Flat (source.slot.extension source.entry) := by decide +kernel
  have outputs : (build twinRuns {} ⟨"T", 9998⟩).toOption.map
      (fun built => built.1.variants.map (·.output)) = some [
        "/data/x/T-9999.0001", "exp/../speed /T-10000.0001", "exp/T-10001.0002."] := by
    decide +kernel
  cases made : build twinRuns {} ⟨"T", 9998⟩ with
  | error failure =>
      rw [made] at outputs
      cases outputs
  | ok built =>
      rw [made] at outputs
      exact ⟨flat, built.1, built.2, rfl, Option.some.inj outputs,
        outputs_distinct.2.1 twinRuns {} ⟨"T", 9998⟩ built.2 built.1 made flat⟩

end Pipeline

end ArtifactPipeline
