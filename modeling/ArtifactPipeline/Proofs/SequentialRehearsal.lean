import ArtifactPipeline.Proofs.Links
import ArtifactPipeline.Proofs.MissingPrerequisites
import ArtifactPipeline.Text.Utf8
import Mathlib.Tactic.IntervalCases

set_option autoImplicit false

namespace ArtifactPipeline.Text

theorem utf8FaultFrom_skip (index : Nat) (bytes rest : List UInt8) :
    utf8FaultFrom index bytes.length (bytes ++ rest) =
      utf8FaultFrom (index + bytes.length) 0 rest := by
  induction bytes generalizing index with
  | nil => rfl
  | cons b bytes ih =>
      rw [List.length_cons, List.cons_append, utf8FaultFrom, ih, Nat.add_right_comm]
      rfl

theorem utf8FaultFrom_lead {lead low high : UInt8} {bytes : List UInt8}
    (known : continuationsAfter lead = some (bytes.length, low, high)) (index : Nat)
    (rest : List UInt8)
    (read : readContinuations 1 bytes.length low high (bytes ++ rest) = .complete) :
    utf8FaultFrom index 0 (lead :: bytes ++ rest) =
      utf8FaultFrom (index + (lead :: bytes).length) 0 rest := by
  rw [List.cons_append, utf8FaultFrom]
  simp only [known, read]
  rw [utf8FaultFrom_skip, List.length_cons, Nat.add_right_comm, Nat.add_assoc]

theorem readContinuations_complete {low high b : UInt8} (lower : low ≤ b) (upper : b ≤ high)
    {bytes : List UInt8} (others : ∀ c ∈ bytes, 0x80 ≤ c ∧ c ≤ 0xBF) (seen : Nat)
    (rest : List UInt8) :
    readContinuations seen (b :: bytes).length low high (b :: bytes ++ rest) = .complete := by
  induction bytes generalizing b low high seen with
  | nil => cases rest <;> simp [readContinuations, lower, upper]
  | cons c bytes ih =>
      obtain ⟨first, later⟩ := List.forall_mem_cons.mp others
      rw [List.length_cons, List.cons_append, readContinuations]
      simp only [lower, upper, decide_true, Bool.and_self, if_true]
      exact ih first.1 first.2 later (seen + 1)

theorem byte_le {a b : Nat} (below : a ≤ b) (small : b < 256) :
    UInt8.ofNat a ≤ UInt8.ofNat b := by
  rw [UInt8.le_iff_toNat_le, UInt8.toNat_ofNat', UInt8.toNat_ofNat']
  omega

theorem continuation_range (n : Nat) :
    0x80 ≤ UInt8.ofNat (n % 64 + 128) ∧ UInt8.ofNat (n % 64 + 128) ≤ 0xBF := by
  change UInt8.ofNat 0x80 ≤ _ ∧ _ ≤ UInt8.ofNat 0xBF
  constructor
  · apply byte_le <;> omega
  · apply byte_le <;> omega

theorem continuationsAfter_one {n : Nat} (upper : n ≤ 0x7F) :
    continuationsAfter (.ofNat n) = some (0, 0x80, 0xBF) := by
  have small : UInt8.ofNat n ≤ UInt8.ofNat 0x7F := byte_le upper (by omega)
  exact if_pos small

theorem continuationsAfter_two {n : Nat} (lower : 0xC2 ≤ n) (upper : n ≤ 0xDF) :
    continuationsAfter (.ofNat n) = some (1, 0x80, 0xBF) := by
  interval_cases n <;> rfl

theorem continuationsAfter_three {n : Nat} (lower : 0xE0 ≤ n) (upper : n ≤ 0xEF) :
    ∃ low high : Nat, continuationsAfter (.ofNat n) = some (2, .ofNat low, .ofNat high) ∧
      low = (if n = 0xE0 then 0xA0 else 0x80) ∧ high = if n = 0xED then 0x9F else 0xBF := by
  interval_cases n <;> exact ⟨_, _, rfl, rfl, rfl⟩

theorem continuationsAfter_four {n : Nat} (lower : 0xF0 ≤ n) (upper : n ≤ 0xF4) :
    ∃ low high : Nat, continuationsAfter (.ofNat n) = some (3, .ofNat low, .ofNat high) ∧
      low = (if n = 0xF0 then 0x90 else 0x80) ∧ high = if n = 0xF4 then 0x8F else 0xBF := by
  interval_cases n <;> exact ⟨_, _, rfl, rfl, rfl⟩

theorem utf8FaultFrom_char (c : Char) (index : Nat) (rest : List UInt8) :
    utf8FaultFrom index 0 (String.utf8EncodeChar c ++ rest) =
      utf8FaultFrom (index + (String.utf8EncodeChar c).length) 0 rest := by
  have valid : c.val.toNat < 0xD800 ∨ 0xDFFF < c.val.toNat ∧ c.val.toNat < 0x110000 := c.valid
  unfold String.utf8EncodeChar
  generalize c.val.toNat = n at valid
  dsimp only
  split_ifs with one two three
  · refine utf8FaultFrom_lead (continuationsAfter_one one) index rest ?_
    cases rest <;> rfl
  · refine utf8FaultFrom_lead (continuationsAfter_two (by omega) (by omega)) index rest ?_
    obtain ⟨lower, upper⟩ := continuation_range n
    exact readContinuations_complete lower upper (by simp) 1 rest
  · obtain ⟨low, high, known, rfl, rfl⟩ :=
      continuationsAfter_three (n := n / 4096 % 16 + 224) (by omega) (by omega)
    refine utf8FaultFrom_lead known index rest ?_
    refine readContinuations_complete (byte_le ?_ (by omega)) (byte_le ?_ ?_) ?_ 1 rest
    · split_ifs <;> omega
    · split_ifs <;> omega
    · split_ifs <;> omega
    · intro b member
      rw [List.mem_singleton.mp member]
      exact continuation_range n
  · obtain ⟨low, high, known, rfl, rfl⟩ :=
      continuationsAfter_four (n := n / 262144 % 8 + 240) (by omega) (by omega)
    refine utf8FaultFrom_lead known index rest ?_
    refine readContinuations_complete (byte_le ?_ (by omega)) (byte_le ?_ ?_) ?_ 1 rest
    · split_ifs <;> omega
    · split_ifs <;> omega
    · split_ifs <;> omega
    · intro b member
      rcases List.mem_cons.mp member with rfl | last
      · exact continuation_range (n / 64)
      · rw [List.mem_singleton.mp last]
        exact continuation_range n

theorem utf8FaultFrom_chars (chars : List Char) (index : Nat) :
    utf8FaultFrom index 0 (chars.flatMap String.utf8EncodeChar) = none := by
  induction chars generalizing index with
  | nil => rfl
  | cons c chars ih => rw [List.flatMap_cons, utf8FaultFrom_char, ih]

theorem toList_loop (bytes : ByteArray) (index : Nat) (collected : List UInt8) :
    ByteArray.toList.loop bytes index collected =
      collected.reverse ++ bytes.data.toList.drop index := by
  fun_induction ByteArray.toList.loop bytes index collected with
  | case1 index collected inside ih =>
      have bound : index < bytes.data.toList.length := inside
      have here : bytes.get! index = bytes.data.toList[index] := by
        change bytes.data[index]! = _
        rw [getElem!_pos bytes.data index inside]
        rfl
      rw [ih, here, List.drop_eq_getElem_cons bound, List.reverse_cons, List.append_assoc]
      rfl
  | case2 index collected outside =>
      have bound : bytes.data.toList.length ≤ index := Nat.le_of_not_lt outside
      rw [List.drop_eq_nil_of_le bound, List.append_nil]

theorem decodeUtf8_utf8 (text : String) : decodeUtf8 (utf8 text) = .ok text := by
  have listed : utf8 text = text.toByteArray.data.toList := toList_loop _ 0 []
  have whole : (⟨(utf8 text).toArray⟩ : ByteArray) = text.toByteArray := by
    rw [listed, Array.toArray_toList]
  have sound : utf8Fault? (utf8 text) = none := by
    obtain ⟨chars, encoded⟩ := text.isValidUTF8
    rw [listed, encoded, List.utf8Encode, List.toList_data_toByteArray]
    exact utf8FaultFrom_chars chars 0
  rw [decodeUtf8, sound]
  dsimp only
  rw [whole, String.fromUTF8?, dif_pos text.isValidUTF8]
  rfl

end ArtifactPipeline.Text

namespace ArtifactPipeline

open Function

namespace Rehearsal

def Legible (disk : VirtualDisk) (loc : Location) : Prop :=
  ∃ text mtime, disk.bare? loc = some (.file (Text.utf8 text) mtime)

def produceAll (node : Artifact) (commands : List Command) (disk : VirtualDisk) :
    Except DiskFault VirtualDisk :=
  commands.foldlM (fun disk command => produce disk ⟨node.id, node.kind, command⟩) disk

variable {node : Artifact} {command : Command} {commands : List Command}
  {disk before after : VirtualDisk}

theorem leftBy_text (old : Option Outline) (command : Command) :
    ∃ text, leftBy old command = Text.utf8 text := by
  unfold leftBy
  split
  · exact ⟨_, rfl⟩
  · dsimp only
    split <;> exact ⟨_, rfl⟩

theorem legible_write (disk : VirtualDisk) (path : Path) (text : String) :
    Legible (disk.write path (Text.utf8 text)) (.ofPath path) :=
  ⟨text, _, VirtualDisk.bare?_write_self disk path _⟩

theorem Legible.readText {path : Path} (legible : Legible disk (.ofPath path)) :
    ∃ text, disk.readText path = .ok text := by
  obtain ⟨text, mtime, lies⟩ := legible
  obtain ⟨entry, found, bare⟩ := Option.map_eq_some_iff.mp lies
  cases entry with
  | dir | link => cases bare
  | file content dated =>
      cases bare
      refine ⟨text, ?_⟩
      rw [VirtualDisk.readText, VirtualDisk.readFrom, show disk.get? (.ofPath path) = _ from found]
      dsimp only
      rw [Text.decodeUtf8_utf8]

theorem produce_ok (own : Own node command)
    (legible : node.kind = .file → Legible disk node.location) :
    ∃ after, produce disk ⟨node.id, node.kind, command⟩ = .ok after := by
  unfold produce
  cases redirected : command.stdout with
  | none =>
      dsimp only [redirectOutput]
      split_ifs <;> exact ⟨_, rfl⟩
  | some redirect =>
      obtain ⟨kind, same⟩ := own redirect redirected
      have place : Location.ofPath redirect.path = node.location := by
        have components : redirect.path.components = node.path.components := eq_of_beq same
        rw [Location.ofPath, components]
        rfl
      -- Only what the output is added to has to be read.
      obtain ⟨lead, led⟩ : ∃ lead, leadIn disk redirect = .ok lead := by
        unfold leadIn
        split_ifs
        · obtain ⟨text, read⟩ := Legible.readText (place ▸ legible kind)
          rw [read]
          exact ⟨_, rfl⟩
        · exact ⟨_, rfl⟩
      simp only [redirectOutput, led]
      split_ifs <;> exact ⟨_, rfl⟩

theorem produceAll_cons :
    produceAll node (command :: commands) before = .ok after ↔
      ∃ between, produce before ⟨node.id, node.kind, command⟩ = .ok between ∧
        produceAll node commands between = .ok after := by
  simp only [produceAll, List.foldlM_cons]
  cases produce before ⟨node.id, node.kind, command⟩ <;> simp [bind, Except.bind]

theorem produceAll_file (kind : node.kind = .file) (own : ∀ command ∈ commands, Own node command)
    (solid : before.Solid node.location) (commanded : commands ≠ [])
    (produced : produceAll node commands before = .ok after) :
    ∃ middle text, node.Leaves before middle ∧
      after = middle.write node.path (Text.utf8 text) := by
  induction commands generalizing before with
  | nil => exact absurd rfl commanded
  | cons command rest ih =>
      obtain ⟨between, first, onward⟩ := produceAll_cons.mp produced
      obtain ⟨-, written⟩ :=
        (produce_own (fun _ => solid) (own command (by simp)) first).resolve_right
          fun other => other.1 kind
      obtain ⟨text, same⟩ := leftBy_text (before.outline? (.ofPath node.path)) command
      rw [same] at written
      -- The last command is what wrote the file; those before it leave the disk that it finds.
      by_cases last : rest = []
      · subst last
        cases onward
        exact ⟨before, text, .refl node before, written⟩
      · have here : between.bare? node.location = _ :=
          written ▸ VirtualDisk.bare?_write_self before node.path _
        have still : between.Solid node.location := VirtualDisk.solid_of_bare here (by simp)
        obtain ⟨middle, last, leaves, done⟩ :=
          ih (fun other member => own other (by simp [member])) still last onward
        have begun : node.Leaves before between := written ▸ .write node before _
        exact ⟨middle, last, begun.trans leaves, done⟩

theorem produceAll_other (kind : node.kind ≠ .file)
    (own : ∀ command ∈ commands, Own node command)
    (produced : produceAll node commands before = .ok after) : after = before := by
  induction commands generalizing before with
  | nil => exact (Except.ok.inj produced).symm
  | cons command rest ih =>
      obtain ⟨between, first, onward⟩ := produceAll_cons.mp produced
      obtain ⟨-, rfl⟩ :=
        (produce_own (absurd · kind) (own command (by simp)) first).resolve_left
          fun file => kind file.1
      exact ih (fun other member => own other (by simp [member])) onward

theorem produceAll_ok (own : ∀ command ∈ commands, Own node command)
    (legible : node.kind = .file → Legible disk node.location) :
    ∃ after, produceAll node commands disk = .ok after := by
  induction commands generalizing disk with
  | nil => exact ⟨disk, rfl⟩
  | cons command rest ih =>
      have ownFirst := own command (by simp)
      obtain ⟨between, first⟩ := produce_ok ownFirst legible
      have still (kind : node.kind = .file) : Legible between node.location := by
        obtain ⟨text, mtime, lies⟩ := legible kind
        have solid : disk.Solid node.location := VirtualDisk.solid_of_bare lies (by simp)
        obtain ⟨-, written⟩ := (produce_own (fun _ => solid) ownFirst first).resolve_right
          fun other => other.1 kind
        obtain ⟨text, same⟩ := leftBy_text (disk.outline? (.ofPath node.path)) command
        rw [written, same]
        exact legible_write disk node.path text
      obtain ⟨after, onward⟩ := ih (fun other member => own other (by simp [member])) still
      exact ⟨after, produceAll_cons.mpr ⟨between, first, onward⟩⟩

/-- The action of a node goes well and leaves this disk. -/
def Enacts (node : Artifact) (before after : VirtualDisk) : Prop :=
  match node.action with
  | .run commands => produceAll node commands before = .ok after
  | _ => (Run.runInternal node before).1 = .ok () ∧ (Run.runInternal node before).2.2 = after

theorem runCommands_eq_succeeded {stage : Stage} :
    (∃ events last, Run.runCommands (worker []).executor node commands stage =
      (.succeeded, events, last) ∧ last.disk = after) ↔
        produceAll node commands stage.disk = .ok after := by
  induction commands generalizing stage with
  | nil => simp [Run.runCommands, produceAll, pure, Except.pure]
  | cons command rest ih =>
      obtain ⟨calls, finished, executed⟩ := execute_eq ⟨node.id, node.kind, command⟩ stage
      rw [produceAll_cons, Run.runCommands, executed]
      cases produce stage.disk ⟨node.id, node.kind, command⟩ with
      | error fault => simp
      | ok between =>
          -- The rest is run where the first command has left its output.
          have later := @ih ⟨between, calls, finished⟩
          dsimp only at later ⊢
          generalize Run.runCommands _ node rest _ = ran at later ⊢
          obtain ⟨result, events, last⟩ := ran
          simpa using later

theorem act_eq_succeeded {session : Session Stage} :
    (∃ last, Run.act (worker []).executor node session = (.succeeded, last) ∧
      last.world.disk = after) ↔ Enacts node session.world.disk after := by
  -- With commands the act is their run; without, it is the same on the stage as on its disk.
  by_cases external : ∃ commands, node.action = .run commands
  · obtain ⟨commands, action⟩ := external
    obtain ⟨old, prepared⟩ : ∃ old, Run.outputTime session.world node = .ok old := by
      unfold Run.outputTime
      split <;> exact ⟨_, rfl⟩
    simp only [Enacts, action]
    rw [← runCommands_eq_succeeded, Run.act, action]
    simp only [prepared, Run.runTask, action, Run.commandsOf]
    generalize Run.runCommands _ node commands _ = ran
    obtain ⟨result, events, last⟩ := ran
    cases result <;> simp
  · have internal : ∀ commands, node.action ≠ .run commands := by simpa using external
    have mirrors := Run.runInternal_linking node session.world
    have enacts : Enacts node session.world.disk after ↔
        (Run.runInternal node session.world.disk).1 = .ok () ∧
          (Run.runInternal node session.world.disk).2.2 = after := by
      unfold Enacts
      split
      · rename_i commands action
        exact absurd action (internal commands)
      · rfl
    rw [Run.act_internal internal, enacts]
    obtain ⟨result, disk⟩ := Prod.mk.inj mirrors
    change (Run.runInternal node session.world).2.2.disk = _ at disk
    change _ ↔ (Run.runInternal node (Mounted.disk session.world)).1 = _ ∧ _ = _
    rw [← result]
    rw [show (Run.runInternal node session.world.disk).2.2 = _ from disk.symm]
    cases (Run.runInternal node session.world).1 <;> simp [Run.deedOf]

end Rehearsal

inductive Artifact.Does (node : Artifact) (before : VirtualDisk) : VirtualDisk → Prop where
  | write {middle : VirtualDisk} {text : String} (kind : node.kind = .file)
      (leaves : node.Leaves before middle) :
      Does node before (middle.write node.path (Text.utf8 text))
  | makeDir {after : VirtualDisk} {mtime : Nat} (making : node.action = .createDir)
      (leaves : node.Leaves before after)
      (made : after.bare? node.location = some (.dir [] mtime)) : Does node before after
  | link {target : Path} (linking : node.action = .symlink target) :
      Does node before (before.insertEntry node.location (.link target))
  | nothing (making : node.action ≠ .createDir)
      (idle : node.kind = .file →
        Run.commandsOf node.action = [] ∧ before.mtimeOf node.path ≠ none) :
      Does node before before

theorem Artifact.Does.leaves {node : Artifact} {before after : VirtualDisk}
    (does : node.Does before after) : node.Leaves before after := by
  cases does with
  | write kind leaves => exact leaves.trans (.write node _ _)
  | makeDir _ leaves => exact leaves
  | link linking => exact .link linking before
  | nothing => exact .refl node before

namespace Rehearsal

variable {registry : Registry} {node : Artifact} {disk before after : VirtualDisk}

theorem Enacts.does (enacts : Enacts node before after) (linked : registry.Linked)
    (laid : registry.Laid before) (found : registry.find? node.id = some node) :
    node.Does before after := by
  have member := Registry.mem_of_find? found
  unfold Enacts at enacts
  cases action : node.action with
  | run commands =>
      rw [action] at enacts
      have own : ∀ command ∈ commands, Own node command := by
        intro command commanded
        exact linked.redirects node member command (by rw [action]; exact commanded)
      by_cases kind : node.kind = .file
      · have commanded : commands ≠ [] := by
          rcases linked.file_cases member kind with commanded | ⟨_, linking⟩
          · rwa [action] at commanded
          · rw [action] at linking
            cases linking
        have ground : registry.Ground node.id := by
          intro other known
          cases found.symm.trans known
          simp [kind, action]
        have solid := laid.solid (linked.tangible found (by simp [kind])) ground
        obtain ⟨middle, text, leaves, rfl⟩ := produceAll_file kind own solid commanded enacts
        exact .write kind leaves
      · rw [produceAll_other kind own enacts]
        exact .nothing (by simp [action]) (absurd · kind)
  | none =>
      simp only [action, Run.runInternal, true_and] at enacts
      subst enacts
      refine .nothing (by simp [action]) fun kind => ?_
      rcases linked.file_cases member kind with commanded | ⟨_, linking⟩
      · exact absurd (by rw [action]; rfl) commanded
      · rw [action] at linking
        cases linking
  | createDir =>
      rw [action] at enacts
      have done : Run.runInternal node before = (.ok (), _, after) :=
        Prod.ext enacts.1 (Prod.ext rfl enacts.2)
      rcases Run.runInternal_done (by simp [action]) done with ⟨other, -⟩ | ⟨-, _, touches, made⟩
      · exact absurd action other
      · exact .makeDir action (.of_touches touches) made
  | symlink target =>
      by_cases there : before.present node.path = true
      · have idle : Run.runInternal node before = (.ok (), [.alreadyLinked node.id], before) := by
          simp only [Run.runInternal, action]
          exact if_pos there
        simp only [action, idle, true_and] at enacts
        subst enacts
        refine .nothing (by simp [action]) fun _ => ⟨by rw [action]; rfl, ?_⟩
        exact Option.isSome_iff_ne_none.mp there
      · rw [action] at enacts
        have done : Run.runInternal node before = (.ok (), _, after) :=
          Prod.ext enacts.1 (Prod.ext rfl enacts.2)
        generalize (Run.runInternal node before).2.1 = events at done
        have absent : Disk.present before node.path = false := Bool.not_eq_true _ ▸ there
        have made : Disk.symlink before target node.path = before.symlink target node.path := rfl
        simp only [Run.runInternal, action, absent, Bool.false_eq_true, if_false, made,
          VirtualDisk.symlink] at done
        split at done
        · rename_i put
          split at put <;> cases put
          cases done
          exact .link action
        · cases done

theorem exists_enacts (linked : registry.Linked) (found : registry.find? node.id = some node)
    (legible : node.kind = .file → Run.commandsOf node.action ≠ [] → Legible disk node.location)
    (dir : node.action = .createDir → ∃ mtime, disk.bare? node.location = some (.dir [] mtime))
    (there : ∀ target, node.action = .symlink target → disk.mtimeOf node.path ≠ none) :
    ∃ after, Enacts node disk after := by
  have member := Registry.mem_of_find? found
  unfold Enacts
  cases action : node.action with
  | run commands =>
      refine produceAll_ok ?_ fun kind => ?_
      · intro command commanded
        exact linked.redirects node member command (by rw [action]; exact commanded)
      · rcases linked.file_cases member kind with commanded | ⟨_, linking⟩
        · exact legible kind commanded
        · rw [action] at linking
          cases linking
  | none => exact ⟨disk, by simp [Run.runInternal, action]⟩
  | createDir =>
      obtain ⟨mtime, lies⟩ := dir action
      obtain ⟨entry, here, bare⟩ := Option.map_eq_some_iff.mp lies
      cases entry with
      | file | link => cases bare
      | dir names dated =>
          have made : Disk.createDirs disk node.path = (.ok (), disk) := by
            change disk.createDirs node.path = _
            rw [VirtualDisk.createDirs, show disk.get? (.ofPath node.path) = _ from here]
          exact ⟨disk, by simp [Run.runInternal, action, made]⟩
  | symlink target =>
      have present : Disk.present disk node.path = true :=
        Option.isSome_iff_ne_none.mpr (there target action)
      exact ⟨disk, by simp [Run.runInternal, action, present]⟩

end Rehearsal

def Session.known {W : Type} (session : Session W) (id : NodeId) : Bool :=
  (session.verdicts.get? id).getD false

namespace Run

open Rehearsal

/-- What handling one node comes to when nothing goes wrong. -/
structure Takes (registry : Registry) (node : Artifact) (dirty : Bool)
    (session next : Session Stage) : Prop where
  answer : Freshness.isDirty registry session.world session.verdicts node.id =
    (.ok dirty, next.verdicts)
  enacts : dirty = true → Enacts node session.world.disk next.world.disk
  still : dirty = false → next.world = session.world
  moved : ∃ state : NodeState, state.isSatisfied = true ∧
    next.states.get = update session.states.get node.id state
  executed : next.report.executed = session.report.executed ++ if dirty then [node.id] else []
  skipped : next.report.skipped = session.report.skipped ++ if !dirty then [node.id] else []

variable {registry : Registry} {node : Artifact} {dirty : Bool} {session next : Session Stage}
  {verdicts : Verdicts}

theorem Takes.passes (takes : Takes registry node dirty session next) :
    Passes registry node.id session next :=
  ⟨⟨dirty, takes.answer⟩, takes.moved⟩

theorem takes_of_continues (resolved : registry.resolve node.id = .ok node)
    (continues : Continues registry (worker []).executor node.id session next) :
    ∃ dirty, Takes registry node dirty session next := by
  have moved := continues.passes.moved
  cases continues with
  | skipped _ _ answer =>
      refine ⟨false, answer, by simp, fun _ => rfl, moved, ?_, ?_⟩
      · simp [Session.reportSkipped, Session.note]
      · simp [Session.reportSkipped]
  | executed attempt =>
      cases resolved.symm.trans attempt.resolved
      have enacts := act_eq_succeeded.mp ⟨_, attempt.acted, rfl⟩
      refine ⟨true, attempt.answer, fun _ => enacts, by simp, moved, ?_, ?_⟩
      · simp [Session.reportExecuted, attempt.report]
      · simp [Session.reportExecuted, attempt.report]

theorem takes_of_answer (resolved : registry.resolve node.id = .ok node)
    (waiting : session.states.get node.id = .evaluating)
    (answer : Freshness.isDirty registry session.world session.verdicts node.id =
      (.ok dirty, verdicts))
    (able : dirty = true → ∃ after, Enacts node session.world.disk after) :
    ∃ next, Takes registry node dirty session next ∧ ∀ rest,
      inSequence registry (worker []).executor (node.id :: rest) session =
        inSequence registry (worker []).executor rest next := by
  rcases inSequence_proceeds registry (worker []).executor node.id session with
    ⟨next, continues, onward⟩ | ⟨outcome, last, halts, -⟩
  · obtain ⟨answered, takes⟩ := takes_of_continues resolved continues
    have same := answer.symm.trans takes.answer
    cases same
    exact ⟨next, takes, onward⟩
  · -- An action that can be carried out goes well when its node is found dirty.
    have able {other : Artifact} {deed : Deed} {after : Session Stage}
        (attempt : Attempt registry (worker []).executor node.id session other deed after) :
        deed = .succeeded := by
      cases resolved.symm.trans attempt.resolved
      have dirty := answer.symm.trans attempt.answer
      cases dirty
      obtain ⟨disk, enacts⟩ := able rfl
      have possible : Enacts node (acting session node.id after.verdicts).world.disk disk := enacts
      obtain ⟨last, done, -⟩ := act_eq_succeeded.mpr possible
      exact (Prod.mk.inj (attempt.acted.symm.trans done)).1
    cases halts with
    | unknown unresolved => cases resolved.symm.trans unresolved
    | unanswered _ silent => cases answer.symm.trans silent
    | astray _ astray => exact absurd waiting astray
    | unprepared attempt | crashed attempt | failed attempt => cases able attempt

theorem takes_of_completed (resolved : registry.resolve node.id = .ok node) {rest : List NodeId}
    {report : Report}
    (completed : (inSequence registry (worker []).executor (node.id :: rest) session).1 =
      .completed report) :
    ∃ dirty next, Takes registry node dirty session next ∧
      inSequence registry (worker []).executor (node.id :: rest) session =
        inSequence registry (worker []).executor rest next := by
  obtain ⟨next, continues, onward⟩ := continues_of_completed completed
  obtain ⟨dirty, takes⟩ := takes_of_continues resolved continues
  exact ⟨dirty, next, takes, onward rest⟩

section Sequence

variable {plan : Plan} {done rest : List NodeId}

theorem Turns.oracle (turns : Turns done (node.id :: rest) session) (linked : registry.Linked)
    (sound : plan.Sound registry) (split : plan.order = done ++ node.id :: rest)
    (found : registry.find? node.id = some node)
    (stocked : node.kind = .file → ∀ dep ∈ node.nodePrerequisites, registry.find? dep = none →
      session.world.disk.mtimeOf ⟨dep⟩ ≠ none) :
    let dirty := Freshness.dirtyGiven registry session.world.disk session.known node
    Freshness.isDirty registry session.world session.verdicts node.id =
      (.ok dirty, session.verdicts.record node.id dirty) := by
  have spelled {dep : NodeId} (needed : dep ∈ node.nodePrerequisites) :=
    (linked.prerequisites node (Registry.mem_of_find? found) dep needed).spelled
  rw [Freshness.isDirty_mounted linked.globFree]
  refine Freshness.isDirty_next linked.canonical linked.globFree found
    (turns.heard.waiting _ (turns.waiting _ (by simp))) session.known ?_ ?_
  · -- Registered prerequisites have been handled before, and are remembered.
    intro dep needed registered
    have before := sound.ordered.preceded done node.id rest split dep
      ⟨node, found, needed, registered⟩
    obtain ⟨known, decided⟩ := Option.isSome_iff_exists.mp
      (turns.heard.begun dep (NodeState.isBegun_of_isSatisfied (turns.finished dep before)))
    rw [Session.known, decided]
    rfl
  · intro kind dep needed unregistered
    refine Option.isSome_iff_ne_none.mpr (stocked kind dep needed ?_)
    rwa [Registry.contains, Registry.get?_eq_find? (spelled needed), Option.isSome_eq_false_iff,
      Option.isNone_iff_eq_none] at unregistered

theorem Takes.ruled (takes : Takes registry node dirty session next)
    (turns : Turns done (node.id :: rest) session) (linked : registry.Linked)
    (sound : plan.Sound registry) (split : plan.order = done ++ node.id :: rest)
    (found : registry.find? node.id = some node) :
    (node.kind = .file → ∀ dep ∈ node.nodePrerequisites, registry.find? dep = none →
      session.world.disk.mtimeOf ⟨dep⟩ ≠ none) ∧
    dirty = Freshness.dirtyGiven registry session.world.disk session.known node ∧
      next.known = update session.known node.id dirty := by
  have undecided := turns.heard.waiting _ (turns.waiting node.id (by simp))
  have stocked : node.kind = .file → ∀ dep ∈ node.nodePrerequisites, registry.find? dep = none →
      session.world.disk.mtimeOf ⟨dep⟩ ≠ none := by
    intro kind dep needed unregistered
    have answer := takes.answer
    rw [Freshness.isDirty_mounted linked.globFree] at answer
    have spelled :=
      (linked.prerequisites node (Registry.mem_of_find? found) dep needed).spelled
    refine Option.isSome_iff_ne_none.mp (Freshness.present_of_isDirty linked.canonical found
      undecided answer kind needed ?_)
    rw [Registry.contains, Registry.get?_eq_find? spelled, unregistered]
    rfl
  have oracle := turns.oracle linked sound split found stocked
  dsimp only at oracle
  rw [takes.answer] at oracle
  obtain ⟨same, recorded⟩ := Prod.mk.inj oracle
  cases same
  refine ⟨stocked, rfl, ?_⟩
  funext id
  rw [Session.known, recorded, Verdicts.get?_record, update_apply]
  split_ifs with same
  · rw [same, undecided]
    rfl
  · rw [Option.or_none]
    rfl

theorem holds_of_completed {motive : List NodeId → Session Stage → Prop} (linked : registry.Linked)
    (sound : plan.Sound registry)
    (step : ∀ done node rest session next dirty, plan.order = done ++ node.id :: rest →
      registry.find? node.id = some node → Turns done (node.id :: rest) session →
      Takes registry node dirty session next → motive done session →
        motive (done ++ [node.id]) next)
    (split : plan.order = done ++ rest) (turns : Turns done rest session)
    (holds : motive done session) {report : Report}
    (completed : (inSequence registry (worker []).executor rest session).1 = .completed report) :
    ∃ last, motive plan.order last ∧ (inSequence registry (worker []).executor rest session).2 =
      last.note (.finished false) := by
  induction rest generalizing done session with
  | nil => exact ⟨session, by simpa [split] using holds, rfl⟩
  | cons id rest ih =>
      obtain ⟨node, rfl, due⟩ := turns.due sound split
      have resolved := Registry.resolve_of_find? (linked.canonical.found due.found) due.found
      obtain ⟨dirty, next, takes, onward⟩ := takes_of_completed resolved completed
      rw [onward] at completed ⊢
      exact ih (by simp [split]) (turns.pass linked.canonical sound split takes.passes)
        (step done node rest session next dirty split due.found turns takes holds) completed

theorem completed_of_holds {motive : List NodeId → Session Stage → Prop} (linked : registry.Linked)
    (sound : plan.Sound registry)
    (step : ∀ done node rest session, plan.order = done ++ node.id :: rest →
      registry.find? node.id = some node → Turns done (node.id :: rest) session →
      motive done session → ∃ dirty verdicts,
        Freshness.isDirty registry session.world session.verdicts node.id = (.ok dirty, verdicts) ∧
        (dirty = true → ∃ after, Enacts node session.world.disk after) ∧
        ∀ next, Takes registry node dirty session next → motive (done ++ [node.id]) next)
    (split : plan.order = done ++ rest) (turns : Turns done rest session)
    (holds : motive done session) :
    ∃ last, motive plan.order last ∧
      (inSequence registry (worker []).executor rest session).1 = .completed last.report := by
  induction rest generalizing done session with
  | nil => exact ⟨session, by simpa [split] using holds, rfl⟩
  | cons id rest ih =>
      obtain ⟨node, rfl, due⟩ := turns.due sound split
      have resolved := Registry.resolve_of_find? (linked.canonical.found due.found) due.found
      obtain ⟨dirty, verdicts, answer, able, onward⟩ :=
        step done node rest session split due.found turns holds
      obtain ⟨next, takes, goesOn⟩ := takes_of_answer resolved due.waiting answer able
      rw [goesOn]
      exact ih (by simp [split]) (turns.pass linked.canonical sound split takes.passes)
        (onward next takes)

end Sequence

end Run

end ArtifactPipeline
