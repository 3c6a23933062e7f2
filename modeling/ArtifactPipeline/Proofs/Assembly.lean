import ArtifactPipeline.Config.Check
import ArtifactPipeline.Pipeline
import ArtifactPipeline.Proofs.OutputNames

set_option autoImplicit false

namespace ArtifactPipeline

namespace Template

theorem renderArg_eq_nil {ctx : Context} {arg : String} :
    renderArg ctx arg = [] ↔
      arg.toList = Placeholder.features.pattern ∧
        ∃ features, ctx.features = some features ∧ features.isEmpty = true := by
  unfold renderArg
  cases known : ctx.features with
  | none => simp
  | some features =>
      by_cases whole : arg.toList = Placeholder.features.pattern <;>
        cases flagless : features.isEmpty <;> simp [whole, flagless]

/-- A command vanishes when all its arguments are the features placeholder and there are no
flags. -/
theorem renderArgs_eq_nil {ctx : Context} {args : List String} :
    renderArgs ctx args = [] ↔
      ∀ arg ∈ args, arg.toList = Placeholder.features.pattern ∧
        ∃ features, ctx.features = some features ∧ features.isEmpty = true := by
  simp only [renderArgs, List.flatMap_eq_nil_iff, renderArg_eq_nil]

theorem renderArgs_ne_nil {ctx : Context} (featureless : ctx.features = none) {args : List String}
    (some' : args ≠ []) : renderArgs ctx args ≠ [] := by
  intro vanished
  obtain ⟨arg, rest, rfl⟩ := List.exists_cons_of_ne_nil some'
  obtain ⟨_, features, known, _⟩ := renderArgs_eq_nil.mp vanished arg (by simp)
  rw [featureless] at known
  cases known

end Template

namespace Check

theorem of_faultIf {condition : Bool} {fault : ConfigFault} (none : faultIf condition fault = []) :
    condition = false := by
  cases condition
  · rfl
  · cases none

theorem args_ne_nil_of_command {place : Place} {allowed : List Placeholder}
    {command : CommandEntry} (checked : commandFaults place allowed command = []) :
    command.args ≠ [] := by
  simp only [commandFaults, List.append_eq_nil_iff] at checked
  simpa using of_faultIf checked.1.1.1.1.1.1

theorem args_ne_nil_of_program {name : String} {program : ProgramEntry}
    (checked : programFaults name (some program) = []) : program.args ≠ [] := by
  simp only [programFaults, List.append_eq_nil_iff] at checked
  simpa using of_faultIf checked.1.1.1

theorem ruleFaults_of_rules {rules : List RuleEntry} {earlier : List NodeId}
    (checked : rulesFaults earlier rules = []) {rule : RuleEntry} (listed : rule ∈ rules) :
    ruleFaults (NodeId.canonical rule.id) rule = [] := by
  induction rules generalizing earlier with
  | nil => cases listed
  | cons first rest ih =>
      simp only [rulesFaults, List.append_eq_nil_iff, List.map_eq_nil_iff] at checked
      rcases List.mem_cons.mp listed with rfl | later
      · exact checked.1.2
      · exact ih checked.2 later

theorem matrixFaults_of_matrices {datasets : List String} {entries : List MatrixEntry}
    {earlier : List String} (checked : matricesFaults datasets earlier entries = [])
    {entry : MatrixEntry} (listed : entry ∈ entries) : matrixFaults datasets entry = [] := by
  induction entries generalizing earlier with
  | nil => cases listed
  | cons first rest ih =>
      simp only [matricesFaults, List.append_eq_nil_iff] at checked
      rcases List.mem_cons.mp listed with rfl | later
      · exact checked.1.2
      · exact ih checked.2 later

end Check

open Check

structure PipelineFile.Ready (file : PipelineFile) : Prop where
  rules : ∀ rule ∈ file.rules, ∀ command ∈ rule.commands, command.args ≠ []
  matrices : ∀ entry ∈ file.matrices, ∀ command ∈ entry.commands, command.args ≠ []
  chBuilder : ∀ program ∈ file.derivation.chBuilder, program.args ≠ []
  tdLowerBound : ∀ program ∈ file.derivation.tdLowerBound, program.args ≠ []
  cchOrder : ∀ program ∈ file.derivation.cchOrder, program.args ≠ []
  bounded : ∀ dataset ∈ file.datasets, dataset.temporal = .timeDependent →
    file.derivation.tdLowerBound ≠ none

theorem PipelineFile.ready_of_check {file : PipelineFile} (accepted : file.faults = []) :
    file.Ready := by
  simp only [faults, derivationFaults, List.append_eq_nil_iff, List.map_eq_nil_iff] at accepted
  obtain ⟨⟨⟨-, ⟨⟨⟨builder, bound⟩, order⟩, temporal⟩⟩, rules⟩, matrices⟩ := accepted
  constructor
  · intro rule listed command member
    have checked := ruleFaults_of_rules rules listed
    simp only [ruleFaults, ruleCommandFaults, List.append_eq_nil_iff,
      List.flatMap_eq_nil_iff] at checked
    exact args_ne_nil_of_command (checked.2 command member).2
  · intro entry listed command member
    have checked := matrixFaults_of_matrices matrices listed
    simp only [matrixFaults, List.append_eq_nil_iff, List.flatMap_eq_nil_iff] at checked
    exact args_ne_nil_of_command (checked.2 command member)
  · intro program given
    rw [Option.mem_def.mp given] at builder
    exact args_ne_nil_of_program builder
  · intro program given
    rw [Option.mem_def.mp given] at bound
    exact args_ne_nil_of_program bound
  · intro program given
    rw [Option.mem_def.mp given] at order
    exact args_ne_nil_of_program order
  · intro dataset listed timed missing
    simp only [lowerBoundFaults, missing, Option.isSome_none, Bool.false_eq_true, if_false,
      List.map_eq_nil_iff, List.filter_eq_nil_iff] at temporal
    exact temporal dataset listed (by simp [timed])

theorem Registry.register_error {registry : Registry} {node : Artifact} {failure : Failure}
    (failed : registry.register node = .error failure) : failure = .duplicateRule node.id := by
  unfold register at failed
  cases offered : registry.offer node with
  | ok registration =>
      rw [offered] at failed
      cases registration <;> cases failed
  | error other =>
      rw [offered] at failed
      cases failed
      unfold offer at offered
      split at offered
      · split_ifs at offered
        cases offered
        rfl
      · cases offered

theorem Registry.registerAll_error {registry : Registry} {nodes : List Artifact}
    {failure : Failure} (failed : registry.registerAll nodes = .error failure) :
    ∃ id, failure = .duplicateRule id := by
  induction nodes generalizing registry with
  | nil => cases failed
  | cons node rest ih =>
      rw [registerAll] at failed
      split at failed
      · exact ih failed
      · rename_i refused
        cases failed
        exact ⟨node.id, register_error refused⟩

namespace Pipeline

theorem ruleCommands_ok (settings : RunSettings) (id : String) (entries : List CommandEntry)
    (filled : ∀ entry ∈ entries, entry.args ≠ []) :
    ∃ commands, ruleCommands settings id entries = .ok commands := by
  induction entries with
  | nil => exact ⟨[], rfl⟩
  | cons entry rest ih =>
      obtain ⟨others, rendered⟩ := ih fun other member => filled other (by simp [member])
      obtain ⟨program, args, split⟩ := List.exists_cons_of_ne_nil
        (Template.renderArgs_ne_nil (rfl : (ruleContext settings).features = none)
          (filled entry (by simp)))
      simp [ruleCommands, ruleCommand, split, rendered]

theorem ruleArtifact_ok (settings : RunSettings) {rule : RuleEntry}
    (filled : ∀ command ∈ rule.commands, command.args ≠ []) :
    ∃ artifact, ruleArtifact settings rule = .ok artifact := by
  obtain ⟨action, acted⟩ : ∃ action, ruleAction settings rule = .ok action := by
    obtain ⟨commands, rendered⟩ := ruleCommands_ok settings rule.id
      (rule.commands.filter fun entry => entry.enabled settings.publicOnly)
      fun command member => filled command (List.mem_of_mem_filter member)
    unfold ruleAction
    cases rule.symlink with
    | some target => exact ⟨_, rfl⟩
    | none =>
        simp only [rendered]
        cases commands <;> exact ⟨_, rfl⟩
  cases kind : rule.kind <;> simp [ruleArtifact, ruleBase, kind, acted]

end Pipeline

namespace Derived

theorem programCommand_ok {program : ProgramEntry} (filled : program.args ≠ [])
    (dataset : Dataset) (settings : RunSettings) :
    ∃ command, programCommand program dataset settings = .ok command := by
  obtain ⟨name, args, split⟩ := List.exists_cons_of_ne_nil
    (Template.renderArgs_ne_nil (rfl : (context dataset settings).features = none) filled)
  simp [programCommand, split]

theorem ofDataset_ok {file : PipelineFile} (ready : file.Ready) (settings : RunSettings)
    {dataset : Dataset} (bounded : dataset.temporal = .timeDependent →
      file.derivation.tdLowerBound ≠ none) :
    ∃ derived, ofDataset file.derivation settings dataset = .ok derived := by
  obtain ⟨base, bound⟩ : ∃ base, lowerBoundBase file.derivation settings dataset = .ok base := by
    unfold lowerBoundBase
    cases timed : dataset.temporal with
    | static => exact ⟨_, rfl⟩
    | timeDependent =>
        obtain ⟨program, given⟩ := Option.ne_none_iff_exists'.mp (bounded timed)
        obtain ⟨command, rendered⟩ :=
          programCommand_ok (ready.tdLowerBound program given) dataset settings
        simp [given, rendered]
  obtain ⟨levels, levelled⟩ : ∃ levels, hierarchy file.derivation settings dataset = .ok levels := by
    unfold hierarchy
    cases given : file.derivation.chBuilder with
    | none => exact ⟨_, rfl⟩
    | some program =>
        obtain ⟨command, rendered⟩ :=
          programCommand_ok (ready.chBuilder program given) dataset settings
        simp [rendered]
  obtain ⟨order, ordered⟩ : ∃ order, dissection file.derivation settings dataset = .ok order := by
    unfold dissection
    cases given : file.derivation.cchOrder with
    | none => exact ⟨_, rfl⟩
    | some program =>
        obtain ⟨command, rendered⟩ :=
          programCommand_ok (ready.cchOrder program given) dataset settings
        simp [rendered]
  simp [ofDataset, lowerBound, bound, levelled, ordered]

end Derived

namespace Experiment

def Slot.outputId (slot : Slot) (entry : MatrixEntry) (expDir stamp : String) (seq : Nat) :
    NodeId :=
  OutputNamer.outputId stamp ⟨expDir⟩ (slot.category entry) (slot.extension entry) seq

inductive Mishap (entry : MatrixEntry) (slots : List Slot) (expDir stamp : String) :
    ConfigFault → Prop
  | vanished (slot : Slot) (chosen : slot ∈ slots) (filled : slot.command.args ≠ [])
      (bare : ∀ arg ∈ slot.command.args, arg.toList = Placeholder.features.pattern)
      (flagless : slot.features.isEmpty = true) :
      Mishap entry slots expDir stamp (.commandWithoutArgs (.matrix entry.name))
  | repeated (seq i j : Nat) (earlier later : Slot) (before : i < j)
      (first : slots[i]? = some earlier) (second : slots[j]? = some later)
      (same : earlier.outputId entry expDir stamp (seq + i) =
        later.outputId entry expDir stamp (seq + j))
      (branching : ¬(OutputNamer.Flat (earlier.extension entry) ∧
        OutputNamer.Flat (later.extension entry))) :
      Mishap entry slots expDir stamp (.repeatedOutput (.matrix entry.name)
        (later.outputId entry expDir stamp (seq + j)))

variable {entry : MatrixEntry} {settings : RunSettings}

theorem variant_error {slot : Slot} {output : NodeId} {failure : Failure}
    (filled : slot.command.args ≠ [])
    (failed : variant entry settings slot output = .error failure) :
    failure = .config (.commandWithoutArgs (.matrix entry.name)) ∧
      (∀ arg ∈ slot.command.args, arg.toList = Placeholder.features.pattern) ∧
        slot.features.isEmpty = true := by
  have vanished : Template.renderArgs (context settings slot output) slot.command.args = [] ∧
      failure = .config (.commandWithoutArgs (.matrix entry.name)) := by
    cases rendered : Template.renderArgs (context settings slot output) slot.command.args with
    | nil =>
        simp only [variant, command, rendered] at failed
        cases failed
        exact ⟨rfl, rfl⟩
    | cons program args =>
        simp only [variant, command, rendered] at failed
        cases failed
  have each := Template.renderArgs_eq_nil.mp vanished.1
  refine ⟨vanished.2, fun arg member => (each arg member).1, ?_⟩
  obtain ⟨arg, member⟩ := List.exists_mem_of_ne_nil _ filled
  obtain ⟨-, features, known, flagless⟩ := each arg member
  cases known
  exact flagless

theorem fill_error {slots : List Slot} {expDir stamp : String} {seq : Nat}
    (filled : ∀ slot ∈ slots, slot.command.args ≠ []) {failure : Failure} {namer : OutputNamer}
    {done rest : List Slot} {used : List NodeId} (split : slots = done ++ rest)
    (known : ∀ output ∈ used, ∃ (i : Nat) (slot : Slot), done[i]? = some slot ∧
      slot.outputId entry expDir stamp (seq + i) = output)
    (failed : fill entry settings ⟨expDir⟩ used ⟨stamp, seq + done.length⟩ rest =
      (.error failure, namer)) :
    ∃ fault, failure = .config fault ∧ Mishap entry slots expDir stamp fault := by
  induction rest generalizing done used namer with
  | nil => cases failed
  | cons slot rest ih =>
      have here : slots[done.length]? = some slot := by simp [split]
      have listed : slot ∈ slots := by simp [split]
      have output : NodeId.ofPath (OutputNamer.next ⟨stamp, seq + done.length⟩ ⟨expDir⟩
          (slot.category entry) (slot.extension entry)).1 =
        slot.outputId entry expDir stamp (seq + done.length) := rfl
      have advanced : (OutputNamer.mk stamp (seq + done.length)).advance =
          ⟨stamp, seq + (done ++ [slot]).length⟩ := by
        simp [OutputNamer.advance, Nat.add_assoc]
      simp only [fill, output, OutputNamer.next_snd, advanced] at failed
      split_ifs at failed with again
      · cases failed
        refine ⟨_, rfl, ?_⟩
        obtain ⟨i, earlier, first, same⟩ := known _ again
        have before : i < done.length := (List.getElem?_eq_some_iff.mp first).1
        refine .repeated seq i done.length earlier slot before ?_ here same ?_
        · rw [split, List.getElem?_append_left before, first]
        · -- Otherwise the ids would tell which numbers they were made from.
          rintro ⟨flat, flat'⟩
          have equal := OutputNamer.outputId_inj flat flat' same
          omega
      · split at failed
        · rename_i other broken
          cases failed
          obtain ⟨rfl, bare, flagless⟩ := variant_error (filled slot listed) broken
          exact ⟨_, rfl, .vanished slot listed (filled slot listed) bare flagless⟩
        · split at failed
          · rename_i other after later
            cases failed
            refine ih (by simp [split]) (fun output member => ?_) later
            rcases List.mem_cons.mp member with rfl | old
            · exact ⟨done.length, slot, by simp, rfl⟩
            · obtain ⟨i, earlier, first, same⟩ := known output old
              exact ⟨i, earlier, by
                rw [List.getElem?_append_left (List.getElem?_eq_some_iff.mp first).1, first], same⟩
          · cases failed

theorem fill_stamp (expDir : Path) (slots : List Slot) (used : List NodeId) (namer : OutputNamer) :
    (fill entry settings expDir used namer slots).2.stamp = namer.stamp := by
  induction slots generalizing used namer with
  | nil => rfl
  | cons slot rest ih =>
      simp only [fill, OutputNamer.next_snd]
      split_ifs
      · rfl
      · split
        · rfl
        · rename_i first rendered
          have later := ih (NodeId.ofPath (namer.next expDir (slot.category entry)
            (slot.extension entry)).1 :: used) namer.advance
          split <;> rename_i ended <;> rw [ended] at later <;> exact later

theorem command_of_mem_slots {datasets : List Dataset} {slot : Slot}
    (chosen : slot ∈ slots entry settings datasets) : slot.command ∈ entry.commands := by
  simp only [slots, List.mem_flatMap, List.mem_map] at chosen
  obtain ⟨dataset, -, repetition, -, command, applies, features, -, rfl⟩ := chosen
  exact List.mem_of_mem_filter applies

theorem expand_stamp (datasets : List Dataset) (expDir : Path) (namer : OutputNamer) :
    (expand entry settings datasets expDir namer).2.stamp = namer.stamp := by
  unfold expand
  split_ifs
  · rfl
  · exact fill_stamp expDir _ [] namer

theorem expand_error {datasets : List Dataset} {expDir : String} {namer after : OutputNamer}
    {failure : Failure} (filled : ∀ command ∈ entry.commands, command.args ≠ [])
    (failed : expand entry settings datasets ⟨expDir⟩ namer = (.error failure, after)) :
    (entry.restricted && settings.publicOnly) = false ∧
      ∃ fault, failure = .config fault ∧
        Mishap entry (slots entry settings datasets) expDir namer.stamp fault := by
  unfold expand at failed
  split at failed
  · cases failed
  rename_i expanded
  refine ⟨Bool.eq_false_iff.mpr expanded, ?_⟩
  have nothingDone : slots entry settings datasets = [] ++ slots entry settings datasets := rfl
  exact fill_error (fun slot chosen => filled slot.command (command_of_mem_slots chosen))
    nothingDone (by simp) failed

end Experiment

namespace Pipeline

/-- How assembly can end for a file that has no fault. -/
inductive AssemblyFailure (file : PipelineFile) (settings : RunSettings) (stamp : String) :
    Failure → Prop
  | duplicateRule (id : NodeId) : AssemblyFailure file settings stamp (.duplicateRule id)
  | cyclicGraph (id : NodeId) : AssemblyFailure file settings stamp (.cyclicGraph id)
  | experiment (entry : MatrixEntry) (listed : entry ∈ file.matrices)
      (expanded : (entry.restricted && settings.publicOnly) = false) (fault : ConfigFault)
      (mishap : Experiment.Mishap entry
        (Experiment.slots entry settings (usableDatasets file settings))
        file.settings.expDir stamp fault) :
      AssemblyFailure file settings stamp (.config fault)

def Ends {State : Type} (keeps : State → Prop) (fails : Failure → Prop) :
    Except Failure State → Prop
  | .ok state => keeps state
  | .error failure => fails failure

theorem Ends.foldlM {State Item : Type} {keeps : State → Prop} {fails : Failure → Prop}
    {step : State → Item → Except Failure State} {items : List Item} {start : State}
    (first : keeps start)
    (each : ∀ item ∈ items, ∀ state, keeps state → Ends keeps fails (step state item)) :
    Ends keeps fails (items.foldlM step start) := by
  induction items generalizing start with
  | nil => exact first
  | cons item rest ih =>
      have taken := each item (by simp) start first
      rw [List.foldlM_cons]
      cases known : step start item with
      | error failure => rwa [known] at taken
      | ok next =>
          rw [known] at taken
          exact ih taken fun other member => each other (by simp [member])

namespace Draft

variable {fails : Failure → Prop} {stamp : String}

theorem registerAll_ends (clash : ∀ id, fails (.duplicateRule id)) (draft : Draft)
    (named : draft.namer.stamp = stamp) (artifacts : List Artifact) :
    Ends (fun next : Draft => next.namer.stamp = stamp) fails (draft.registerAll artifacts) := by
  unfold registerAll
  cases registered : draft.registry.registerAll artifacts with
  | ok registry => exact named
  | error failure =>
      obtain ⟨id, rfl⟩ := Registry.registerAll_error registered
      exact clash id

theorem addRule_ends (clash : ∀ id, fails (.duplicateRule id)) (settings : RunSettings)
    {draft : Draft} (named : draft.namer.stamp = stamp) {rule : RuleEntry}
    (filled : ∀ command ∈ rule.commands, command.args ≠ []) :
    Ends (fun next : Draft => next.namer.stamp = stamp) fails (draft.addRule settings rule) := by
  obtain ⟨artifact, made⟩ := ruleArtifact_ok settings filled
  simp only [addRule, made]
  cases rule.group with
  | none => exact registerAll_ends clash draft named _
  | some group => exact registerAll_ends clash (draft.join group [artifact.id]) named _

theorem addDataset_ends (clash : ∀ id, fails (.duplicateRule id)) {file : PipelineFile}
    (ready : file.Ready) (settings : RunSettings) {draft : Draft}
    (named : draft.namer.stamp = stamp) {dataset : Dataset}
    (bounded : dataset.temporal = .timeDependent → file.derivation.tdLowerBound ≠ none) :
    Ends (fun next : Draft => next.namer.stamp = stamp) fails
      (draft.addDataset file.derivation settings dataset) := by
  obtain ⟨derived, made⟩ := Derived.ofDataset_ok ready settings bounded
  have registered := registerAll_ends clash draft named derived.artifacts
  simp only [addDataset, made]
  cases known : draft.registerAll derived.artifacts <;> rw [known] at registered <;>
    exact registered

theorem addMatrix_ends {file : PipelineFile} (ready : file.Ready) {settings : RunSettings}
    {draft : Draft} (named : draft.namer.stamp = stamp) {entry : MatrixEntry}
    (listed : entry ∈ file.matrices) :
    Ends (fun next : Draft => next.namer.stamp = stamp) (AssemblyFailure file settings stamp)
      (draft.addMatrix file.settings.expDir settings (usableDatasets file settings) entry) := by
  have stamped : (Experiment.expand entry settings (usableDatasets file settings)
      ⟨file.settings.expDir⟩ draft.namer).2.stamp = draft.namer.stamp :=
    Experiment.expand_stamp _ _ _
  unfold addMatrix
  split
  · rename_i failure after failed
    obtain ⟨expanded, fault, rfl, mishap⟩ :=
      Experiment.expand_error (ready.matrices entry listed) failed
    rw [named] at mishap
    exact .experiment entry listed expanded fault mishap
  · rename_i variants after filled
    rw [filled] at stamped
    have clash : ∀ id, AssemblyFailure file settings stamp (.duplicateRule id) := .duplicateRule
    have registered := registerAll_ends clash draft named
      (matrixArtifacts file.settings.expDir entry variants)
    cases known : draft.registerAll (matrixArtifacts file.settings.expDir entry variants) with
    | error failure => rwa [known] at registered
    | ok next => exact stamped.trans named

end Draft

theorem assemble_ends {file : PipelineFile} (ready : file.Ready) (settings : RunSettings)
    (namer : OutputNamer) :
    Ends (fun draft : Draft => draft.namer.stamp = namer.stamp)
      (AssemblyFailure file settings namer.stamp) (assemble file settings namer) := by
  have rules : Ends (fun draft : Draft => draft.namer.stamp = namer.stamp)
      (AssemblyFailure file settings namer.stamp)
      (file.rules.foldlM (Draft.addRule settings) (Draft.start namer)) :=
    .foldlM rfl fun rule listed draft named =>
      Draft.addRule_ends .duplicateRule settings named (ready.rules rule listed)
  unfold assemble
  dsimp only
  split
  · rename_i failure failed
    rwa [failed] at rules
  · rename_i draft ruled
    rw [ruled] at rules
    have datasets : Ends (fun draft : Draft => draft.namer.stamp = namer.stamp)
        (AssemblyFailure file settings namer.stamp)
        ((usableDatasets file settings).foldlM
          (Draft.addDataset file.derivation settings) draft) := by
      refine .foldlM rules fun dataset usable draft named => ?_
      obtain ⟨entry, listed, rfl⟩ := List.mem_map.mp (List.mem_of_mem_filter usable)
      exact Draft.addDataset_ends .duplicateRule ready settings named (ready.bounded entry listed)
    split
    · rename_i failure failed
      rwa [failed] at datasets
    · rename_i derived prepared
      rw [prepared] at datasets
      exact .foldlM datasets fun entry listed draft named =>
        Draft.addMatrix_ends ready named listed

/-- A file without faults is assembled, unless two artifacts clash, the graph has a cycle, or an
experiment meets a mishap that only shows once its commands are rendered. -/
theorem build_checked (file : PipelineFile) (settings : RunSettings) (namer : OutputNamer)
    (accepted : file.check = .ok file) :
    (∃ built, build file settings namer = .ok built) ∨
      ∃ failure, build file settings namer = .error failure ∧
        AssemblyFailure file settings namer.stamp failure := by
  have ready := PipelineFile.ready_of_check (PipelineFile.check_eq_ok_iff.mp accepted).1
  have assembled := assemble_ends ready settings namer
  unfold build
  cases known : assemble file settings namer with
  | error failure =>
      rw [known] at assembled
      exact .inr ⟨failure, rfl, assembled⟩
  | ok draft =>
      simp only [Graph.validate]
      cases Graph.cycleWitness? (.ofRegistry draft.registry) with
      | some id => exact .inr ⟨_, rfl, .cyclicGraph id⟩
      | none => exact .inl ⟨_, rfl⟩

def speedRuns (commands : List CommandEntry) : PipelineFile where
  datasets := [{ name := "city", path := "city" }]
  matrices := [{ name := "speed", commands }]

theorem build_checked_speedRuns :
    (speedRuns [{ args := ["drive"] }]).check = .ok (speedRuns [{ args := ["drive"] }]) ∧
      ((∃ built, build (speedRuns [{ args := ["drive"] }]) {} ⟨"T", 0⟩ = .ok built) ∨
        ∃ failure, build (speedRuns [{ args := ["drive"] }]) {} ⟨"T", 0⟩ = .error failure ∧
          AssemblyFailure (speedRuns [{ args := ["drive"] }]) {} "T" failure) :=
  have accepted : (speedRuns [{ args := ["drive"] }]).check =
      .ok (speedRuns [{ args := ["drive"] }]) := by decide +kernel
  ⟨accepted, build_checked (speedRuns [{ args := ["drive"] }]) {} ⟨"T", 0⟩ accepted⟩

def bareCommand : CommandEntry where
  args := [String.ofList Placeholder.features.pattern]

def nestedCommands : List CommandEntry := [
  { args := ["drive"], category := some "c", extension := some "a/T-0002.b" },
  { args := ["drive"], category := some "c/T-0001.a", extension := some "b" }
]

theorem build_config_fault :
    ((speedRuns [bareCommand]).check = .ok (speedRuns [bareCommand]) ∧
      build (speedRuns [bareCommand]) {} ⟨"T", 0⟩ =
        .error (.config (.commandWithoutArgs (.matrix "speed")))) ∧
    (speedRuns nestedCommands).check = .ok (speedRuns nestedCommands) ∧
      build (speedRuns nestedCommands) {} ⟨"T", 0⟩ =
        .error (.config (.repeatedOutput (.matrix "speed") "exp/c/T-0001.a/T-0002.b")) :=
  ⟨⟨by decide +kernel, by decide +kernel⟩, by decide +kernel, by decide +kernel⟩

end Pipeline

end ArtifactPipeline
