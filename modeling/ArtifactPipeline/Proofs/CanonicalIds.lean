import ArtifactPipeline.Proofs.OutputDirectories

set_option autoImplicit false

namespace ArtifactPipeline

namespace Text

theorem trimLeft_eq_self_iff {text : List Char} :
    trimLeft text = text ↔ ∀ c ∈ text.head?, isBlank c = false := by
  cases text with
  | nil => simp [trimLeft]
  | cons c rest =>
      by_cases blank : isBlank c = true
      · have shorter := (List.dropWhile_sublist (l := rest) isBlank).length_le
        have other : trimLeft (c :: rest) ≠ c :: rest := by
          intro same
          have length := congrArg List.length same
          simp only [trimLeft, List.dropWhile_cons, blank, if_true, List.length_cons] at length
          omega
        simp [other, blank]
      · simp [trimLeft, blank]

theorem trimRight_eq_self_iff {text : List Char} :
    trimRight text = text ↔ ∀ c ∈ text.getLast?, isBlank c = false := by
  rw [← List.head?_reverse, ← trimLeft_eq_self_iff, trimRight, trimLeft, List.reverse_eq_iff]

theorem trim_sublist (text : List Char) : (trim text).Sublist text := by
  have right : (trimRight (trimLeft text)).Sublist (trimLeft text) := by
    rw [trimRight, ← List.reverse_sublist, List.reverse_reverse]
    exact List.dropWhile_sublist _
  exact right.trans (List.dropWhile_sublist _)

theorem trim_eq_self_iff {text : List Char} :
    trim text = text ↔
      (∀ c ∈ text.head?, isBlank c = false) ∧ ∀ c ∈ text.getLast?, isBlank c = false := by
  rw [← trimLeft_eq_self_iff, ← trimRight_eq_self_iff]
  constructor
  · intro same
    -- Either trimming alone already keeps the length.
    have left : trimLeft text = text := by
      refine (List.dropWhile_sublist _).eq_of_length_le ?_
      have kept := congrArg List.length same
      have further := (trim_sublist (trimLeft text)).length_le
      have once : trim (trimLeft text) = trim text := by rw [trim, trimLeft_trimLeft, trim]
      rw [once, kept] at further
      exact further
    exact ⟨left, by rw [trim, left] at same; exact same⟩
  · rintro ⟨left, right⟩
    rw [trim, left, right]

theorem joinWith_filter_sublist (sep : List Char) (keep : List Char → Bool)
    (pieces : List (List Char)) :
    (joinWith sep (pieces.filter keep)).Sublist (joinWith sep pieces) := by
  induction pieces with
  | nil => exact List.Sublist.refl _
  | cons first rest ih =>
      cases rest with
      | nil => by_cases kept : keep first = true <;> simp [kept, joinWith]
      | cons second rest =>
          have later : (joinWith sep ((second :: rest).filter keep)).Sublist
              (sep ++ joinWith sep (second :: rest)) := ih.trans (List.sublist_append_right _ _)
          rw [joinWith, List.append_assoc]
          · by_cases kept : keep first = true
            · rw [List.filter_cons_of_pos kept]
              cases others : (second :: rest).filter keep with
              | nil => simp [joinWith]
              | cons third more =>
                  rw [others] at ih
                  rw [joinWith, List.append_assoc]
                  · exact (List.Sublist.refl _).append ((List.Sublist.refl _).append ih)
                  · simp
            · rw [List.filter_cons_of_neg kept]
              exact later.trans (List.sublist_append_right _ _)
          · simp

end Text

namespace NodeId

theorem spell_segments_sublist (text : List Char) :
    spell (Path.isAbsoluteText text) (segments text) = ['.'] ∨
      (spell (Path.isAbsoluteText text) (segments text)).Sublist text := by
  have kept (rest : List Char) : (Text.joinWith ['/'] (segments rest)).Sublist rest := by
    have filtered := Text.joinWith_filter_sublist ['/'] (fun part => !Path.isIdle part)
      (Text.splitOn '/' rest)
    rwa [Text.joinWith_splitOn] at filtered
  unfold spell
  split_ifs with absolute empty
  · obtain ⟨rest, rfl⟩ := Path.exists_eq_cons_of_absolute absolute
    refine .inr ?_
    rw [← List.nil_append ('/' :: rest), segments_append_slash]
    exact (kept rest).cons_cons '/'
  · exact .inl rfl
  · exact .inr (kept text)

theorem canonical_canonical_iff (raw : String) :
    canonical (canonical raw) = canonical raw ↔
      Text.trim (canonical raw).toList = (canonical raw).toList := by
  constructor
  · intro same
    generalize canonical raw = id at same ⊢
    have spelled : canonicalText id.toList = id.toList := by
      have texts := congrArg String.toList same
      simpa [canonical] using texts
    rw [canonicalText_eq_spell] at spelled
    -- The spelling has no more characters than the trimmed text, so nothing can have been trimmed.
    rcases spell_segments_sublist (Text.trim id.toList) with dot | sublist
    · rw [← spelled, dot]
      rfl
    · rw [spelled] at sublist
      exact (Text.trim_sublist _).antisymm sublist
  · exact canonical_canonical

/-- The steps that are kept of a text meet its edges without a blank. Nothing but a step that is
dropped can stand before a blank at the front or behind one at the end. -/
structure Settled (raw : String) : Prop where
  front : Path.isAbsoluteText (Text.trim raw.toList) = false →
    ∀ step ∈ (segments (Text.trim raw.toList)).head?, ∀ c ∈ step.head?, Text.isBlank c = false
  back : ∀ step ∈ (segments (Text.trim raw.toList)).getLast?, ∀ c ∈ step.getLast?,
    Text.isBlank c = false

-- The edges are read off by `Option.all`: to try all characters would be no way to decide this.
instance (raw : String) : Decidable (Settled raw) :=
  decidable_of_iff
    ((Path.isAbsoluteText (Text.trim raw.toList) = false →
      (segments (Text.trim raw.toList)).head?.all (fun step =>
        step.head?.all fun c => !Text.isBlank c) = true) ∧
      (segments (Text.trim raw.toList)).getLast?.all (fun step =>
        step.getLast?.all fun c => !Text.isBlank c) = true)
    (by
      simp only [Option.all_eq_true, Bool.not_eq_true']
      exact ⟨fun ⟨front, back⟩ => ⟨front, back⟩, fun settled => ⟨settled.front, settled.back⟩⟩)

theorem head?_spell {steps : List (List Char)} (proper : Proper steps) (absolute : Bool) :
    (∀ c ∈ (spell absolute steps).head?, Text.isBlank c = false) ↔
      (absolute = false → ∀ step ∈ steps.head?, ∀ c ∈ step.head?, Text.isBlank c = false) := by
  cases absolute with
  | true => simp [spell, show Text.isBlank '/' = false by decide]
  | false =>
      cases steps with
      | nil => simp [spell, show Text.isBlank '.' = false by decide]
      | cons first rest =>
          obtain ⟨c, tail, rfl⟩ :=
            List.exists_cons_of_ne_nil (ne_nil_of_notIdle (proper.solid first (by simp)))
          cases rest <;> simp [spell, Text.joinWith]

theorem getLast?_spell {steps : List (List Char)} (proper : Proper steps) (absolute : Bool) :
    (∀ c ∈ (spell absolute steps).getLast?, Text.isBlank c = false) ↔
      ∀ step ∈ steps.getLast?, ∀ c ∈ step.getLast?, Text.isBlank c = false := by
  cases steps using List.reverseRecOn with
  | nil => cases absolute <;> simp [spell, Text.joinWith] <;> decide
  | append_singleton front last =>
      have filled := ne_nil_of_notIdle (proper.solid last (by simp))
      obtain ⟨before, split⟩ := spell_suffix absolute front (proper.clean last (by simp))
      simp [split, List.getLast?_append_of_ne_nil _ filled]

theorem canonical_canonical_iff_settled (raw : String) :
    canonical (canonical raw) = canonical raw ↔ Settled raw := by
  have proper := proper_segments (Text.trim raw.toList)
  rw [canonical_canonical_iff, Text.trim_eq_self_iff]
  have spelled : (canonical raw).toList = spell _ _ :=
    (String.toList_ofList).trans (canonicalText_eq_spell raw.toList)
  rw [spelled, head?_spell proper, getLast?_spell proper]
  exact ⟨fun ⟨front, back⟩ => ⟨front, back⟩, fun settled => ⟨settled.front, settled.back⟩⟩

end NodeId

namespace Artifact

inductive Written : Artifact → Prop where
  | file (id : String) (action : Action) : Written (.file id action)
  | directory (id : String) : Written (.directory id)
  | phony (id : String) (action : Action) : Written (.phony id action)
  | dependsOn {artifact : Artifact} (written : Written artifact) (id : String) :
      Written (artifact.dependsOn id)
  | dependsOnGlob {artifact : Artifact} (written : Written artifact) (pattern : String) :
      Written (artifact.dependsOnGlob pattern)
  | described {artifact : Artifact} (written : Written artifact) (description : String) :
      Written (artifact.described description)

theorem Written.id_spelled {artifact : Artifact} (written : Written artifact) :
    ∃ raw, artifact.id = NodeId.canonical raw := by
  induction written with
  | file id | directory id | phony id => exact ⟨id, rfl⟩
  | dependsOn _ id ih => rwa [id_dependsOn]
  | dependsOnGlob _ _ ih | described _ _ ih => exact ih

theorem Written.prerequisites_spelled {artifact : Artifact} (written : Written artifact) :
    ∀ dep ∈ artifact.nodePrerequisites, ∃ raw, dep = NodeId.canonical raw := by
  induction written with
  | file | directory | phony => nofun
  | described _ _ ih => exact ih
  | dependsOnGlob _ pattern ih =>
      simpa [nodePrerequisites, Artifact.dependsOnGlob, Prerequisite.node?] using ih
  | @dependsOn artifact _ id ih =>
      unfold Artifact.dependsOn
      dsimp only
      split_ifs
      · exact ih
      · intro dep needed
        simp only [nodePrerequisites, List.filterMap_append, List.mem_append] at needed
        rcases needed with old | new
        · exact ih dep old
        · exact ⟨id, by simpa [Prerequisite.node?] using new⟩

end Artifact

namespace Registry

/-- The registry comes from registering rules that were written down, one after the other. -/
def Composed (registry : Registry) : Prop :=
  ∃ nodes : List Artifact, (∀ node ∈ nodes, node.Written) ∧
    Registry.empty.registerAll nodes = .ok registry

theorem nodes_register {registry next : Registry} {node : Artifact}
    (registered : registry.register node = .ok next) :
    next.nodes = registry.nodes ∨ next.nodes = registry.nodes ++ [node] := by
  unfold register offer at registered
  cases known : registry.find? node.id with
  | none =>
      rw [known] at registered
      cases registered
      exact .inr rfl
  | some old =>
      rw [known] at registered
      dsimp only at registered
      split at registered <;> rename_i offered <;> split at offered <;> cases offered <;>
        cases registered
      exact .inl rfl

theorem mem_of_registerAll {nodes : List Artifact} {registry next : Registry}
    (registered : registry.registerAll nodes = .ok next) :
    ∀ node ∈ next.nodes, node ∈ registry.nodes ∨ node ∈ nodes := by
  induction nodes generalizing registry with
  | nil =>
      cases registered
      exact fun _ => .inl
  | cons first rest ih =>
      rw [registerAll] at registered
      split at registered
      · rename_i between added
        intro node stored
        rcases ih registered node stored with early | late
        · rcases nodes_register added with same | grown
          · exact .inl (same ▸ early)
          · rw [grown, List.mem_append, List.mem_singleton] at early
            rcases early with old | rfl
            · exact .inl old
            · exact .inr List.mem_cons_self
        · exact .inr (List.mem_cons_of_mem _ late)
      · cases registered

namespace Composed

variable {registry : Registry} {node : Artifact}

theorem built (composed : registry.Composed) : registry.Built := by
  obtain ⟨nodes, -, registered⟩ := composed
  exact ⟨nodes, registered⟩

theorem written (composed : registry.Composed) (stored : node ∈ registry.nodes) :
    node.Written := by
  obtain ⟨nodes, written, registered⟩ := composed
  exact written node ((mem_of_registerAll registered node stored).resolve_left List.not_mem_nil)

theorem resolve_iff (composed : registry.Composed) (stored : node ∈ registry.nodes) :
    registry.resolve node.id = .ok node ↔ NodeId.canonical node.id = node.id := by
  constructor
  · intro resolved
    exact (find?_of_resolve resolved).1.symm
  · intro spelled
    exact resolve_of_find? spelled (find?_of_mem composed.built.nodup stored)

end Composed

theorem composed_singleton {node : Artifact} (written : node.Written) : Composed ⟨[node]⟩ :=
  ⟨[node], by simpa using written, rfl⟩

/-- Lookups by the spelling that is stored and by the one that is looked up agree in every registry
only if these are one. -/
theorem contains_eq_iff (raw : String) :
    (∀ registry : Registry, registry.Composed →
      registry.contains (NodeId.canonical raw) =
        (registry.find? (NodeId.canonical raw)).isSome) ↔
      NodeId.canonical (NodeId.canonical raw) = NodeId.canonical raw := by
  constructor
  · intro agree
    have alone := agree _ (composed_singleton (.phony raw .none))
    by_contra other
    simp [contains, get?, find?, Artifact.phony, Ne.symm other] at alone
  · intro spelled registry _
    rw [contains, get?_eq_find? spelled]

/-- All ids and prerequisites come from texts in their canonical form, and such a form is read again
as it is spelled exactly when its text is settled. It is then that a stored node is found again, and
that the two ways to look up a prerequisite agree. -/
theorem found_as_spelled (raw : String) :
    (NodeId.canonical (NodeId.canonical raw) = NodeId.canonical raw ↔ NodeId.Settled raw) ∧
    (∀ registry : Registry, registry.Composed → ∀ node ∈ registry.nodes,
      ((∃ text, node.id = NodeId.canonical text) ∧
        ∀ dep ∈ node.nodePrerequisites, ∃ text, dep = NodeId.canonical text) ∧
      (node.id = NodeId.canonical raw →
        (registry.resolve node.id = .ok node ↔ NodeId.Settled raw))) ∧
    ((∀ registry : Registry, registry.Composed →
      registry.contains (NodeId.canonical raw) =
        (registry.find? (NodeId.canonical raw)).isSome) ↔ NodeId.Settled raw) := by
  refine ⟨NodeId.canonical_canonical_iff_settled raw, ?_, ?_⟩
  · intro registry composed node stored
    have written := composed.written stored
    refine ⟨⟨written.id_spelled, written.prerequisites_spelled⟩, fun spelled => ?_⟩
    rw [composed.resolve_iff stored, spelled, NodeId.canonical_canonical_iff_settled]
  · rw [contains_eq_iff, NodeId.canonical_canonical_iff_settled]

def drawer : Registry where
  nodes := [Artifact.phony "./ a" .none, (Artifact.phony "b/" .none).dependsOn "./ a"]

theorem found_as_spelled_drawer :
    drawer.Composed ∧ drawer.resolve "b" = .ok ((Artifact.phony "b" .none).dependsOn "./ a") ∧
      drawer.resolve " a" = .error (.unknownTarget "a") ∧
      (drawer.find? " a").isSome = true ∧ ¬NodeId.Settled "./ a" ∧
      ∃ registry : Registry, registry.Composed ∧
        registry.contains " a" ≠ (registry.find? " a").isSome := by
  have composed : drawer.Composed := by
    refine ⟨drawer.nodes, ?_, rfl⟩
    intro node listed
    simp only [drawer, List.mem_cons, List.not_mem_nil, or_false] at listed
    rcases listed with rfl | rfl
    · exact .phony _ _
    · exact .dependsOn (.phony _ _) _
  have loose : ¬NodeId.Settled "./ a" := by decide
  refine ⟨composed, ?_, by decide, by decide, loose, ?_⟩
  · obtain ⟨-, found, -⟩ := found_as_spelled "b"
    obtain ⟨-, resolves⟩ := found drawer composed
      ((Artifact.phony "b" .none).dependsOn "./ a") (by decide)
    exact (resolves (by decide)).mpr (by decide)
  · obtain ⟨-, -, agree⟩ := found_as_spelled "./ a"
    have differ := mt agree.mp loose
    push Not at differ
    exact differ

end Registry

end ArtifactPipeline
