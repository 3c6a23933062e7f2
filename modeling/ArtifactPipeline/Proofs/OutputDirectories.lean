import ArtifactPipeline.Proofs.Numbering
import ArtifactPipeline.Proofs.Selection

set_option autoImplicit false

namespace ArtifactPipeline

namespace Text

theorem exists_mem_splitOn {sep c : Char} (other : c ≠ sep) {text : List Char} (member : c ∈ text) :
    ∃ piece ∈ splitOn sep text, c ∈ piece := by
  induction text with
  | nil => cases member
  | cons d rest ih =>
      rw [splitOn]
      split
      · rename_i same
        rcases List.mem_cons.mp member with rfl | later
        · exact absurd same other
        · obtain ⟨piece, listed, inside⟩ := ih later
          exact ⟨piece, List.mem_cons_of_mem _ listed, inside⟩
      · split
        · rename_i none
          exact absurd none (splitOn_ne_nil sep rest)
        · rename_i piece pieces known
          rcases List.mem_cons.mp member with rfl | later
          · exact ⟨_, List.mem_cons_self, List.mem_cons_self⟩
          · obtain ⟨found, listed, inside⟩ := ih later
            rw [known] at listed
            rcases List.mem_cons.mp listed with rfl | further
            · exact ⟨_, List.mem_cons_self, List.mem_cons_of_mem _ inside⟩
            · exact ⟨found, List.mem_cons_of_mem _ further, inside⟩

theorem mem_of_mem_splitOn {sep c : Char} {text piece : List Char}
    (listed : piece ∈ splitOn sep text) (member : c ∈ piece) : c ∈ text := by
  induction text generalizing piece with
  | nil =>
      rw [splitOn_nil, List.mem_singleton] at listed
      exact listed ▸ member
  | cons d rest ih =>
      rw [splitOn] at listed
      split at listed
      · rcases List.mem_cons.mp listed with rfl | later
        · cases member
        · exact List.mem_cons_of_mem _ (ih later member)
      · split at listed
        · rename_i none
          exact absurd none (splitOn_ne_nil sep rest)
        · rename_i first pieces known
          rcases List.mem_cons.mp listed with rfl | later
          · rcases List.mem_cons.mp member with rfl | inside
            · exact List.mem_cons_self
            · exact List.mem_cons_of_mem _ (ih (known ▸ List.mem_cons_self) inside)
          · exact List.mem_cons_of_mem _ (ih (known ▸ List.mem_cons_of_mem _ later) member)

theorem trim_append_slash (front rest : List Char) :
    trim (front ++ '/' :: rest) = trimLeft front ++ '/' :: trimRight rest := by
  have solid : isBlank '/' = false := by decide
  rw [trim, trimLeft_append solid, trimRight_append solid]

theorem mem_trimLeft {c : Char} (solid : isBlank c = false) {text : List Char}
    (member : c ∈ text) : c ∈ trimLeft text := by
  obtain ⟨front, rest, rfl⟩ := List.append_of_mem member
  rw [trimLeft_append solid]
  simp

theorem mem_trimRight {c : Char} (solid : isBlank c = false) {text : List Char}
    (member : c ∈ text) : c ∈ trimRight text := by
  obtain ⟨front, rest, rfl⟩ := List.append_of_mem member
  rw [trimRight_append solid]
  simp

theorem trimLeft_ne_nil {text : List Char} :
    trimLeft text ≠ [] ↔ ∃ c ∈ text, isBlank c = false := by
  rw [trimLeft, Ne, List.dropWhile_eq_nil_iff]
  simp

theorem trimRight_eq_or (text : List Char) :
    trimRight text = text ∨ ∃ front c, text = front ++ [c] ∧ isBlank c = true := by
  cases text using List.reverseRecOn with
  | nil => exact .inl rfl
  | append_singleton front c =>
      cases blank : isBlank c with
      | true => exact .inr ⟨front, c, rfl, blank⟩
      | false => exact .inl (trimRight_append blank front [])

theorem trimRight_ne_concat {c : Char} (blank : isBlank c = true) (text front : List Char) :
    trimRight text ≠ front ++ [c] := by
  intro ended
  have reversed : text.reverse.dropWhile isBlank = c :: front.reverse := by
    rw [trimRight, List.reverse_eq_iff] at ended
    simpa using ended
  have solid := List.head?_dropWhile_not isBlank text.reverse
  rw [reversed] at solid
  exact Bool.noConfusion (solid.symm.trans blank)

theorem joinWith_splitOn (sep : Char) (text : List Char) :
    joinWith [sep] (splitOn sep text) = text := by
  induction text with
  | nil => rfl
  | cons c rest ih =>
      rw [splitOn]
      split_ifs with same
      · cases pieces : splitOn sep rest with
        | nil => exact absurd pieces (splitOn_ne_nil sep rest)
        | cons first more => simpa [joinWith, same, pieces] using ih
      · split
        · rename_i none
          exact absurd none (splitOn_ne_nil sep rest)
        · rename_i first more known
          rw [known] at ih
          cases more <;> simpa [joinWith] using ih

theorem joinWith_append (sep : List Char) {front rest : List (List Char)} (filled : front ≠ [])
    (more : rest ≠ []) :
    joinWith sep (front ++ rest) = joinWith sep front ++ sep ++ joinWith sep rest := by
  obtain ⟨next, rest, rfl⟩ := List.exists_cons_of_ne_nil more
  induction front with
  | nil => exact absurd rfl filled
  | cons first front ih =>
      cases front with
      | nil => simp [joinWith]
      | cons second front =>
          have later := ih (List.cons_ne_nil _ _)
          simp only [List.cons_append, joinWith, List.append_assoc] at later ⊢
          rw [later]

end Text

namespace Path

theorem joinText_split {base name : List Char} (filled : base ≠ [])
    (relative : isAbsoluteText name = false) :
    ∃ front, joinText base name = front ++ '/' :: name ∧
      (base = front ∨ base = front ++ ['/']) := by
  unfold joinText
  rw [relative, if_neg Bool.false_ne_true]
  split_ifs with open'
  · -- The slash between them is the directory's own.
    have slash : base.getLast? = some '/' := by
      simpa [List.isEmpty_iff, filled] using open'
    obtain ⟨front, rfl⟩ := List.getLast?_eq_some_iff.mp slash
    exact ⟨front, by simp, .inr rfl⟩
  · exact ⟨base, rfl, .inl rfl⟩

theorem joinText_suffix (base name : List Char) :
    ∃ front, joinText base name = front ++ name := by
  unfold joinText
  split_ifs
  · exact ⟨[], rfl⟩
  · exact ⟨base, rfl⟩
  · exact ⟨base ++ ['/'], by simp⟩

theorem joinText_absolute {base name : List Char} (absolute : isAbsoluteText name = true) :
    joinText base name = name := if_pos absolute

theorem isAbsoluteText_of_notMem {text : List Char} (clean : '/' ∉ text) :
    isAbsoluteText text = false := by
  cases text with
  | nil => rfl
  | cons c rest =>
      rw [isAbsoluteText_cons, decide_eq_false_iff_not]
      rintro rfl
      exact clean List.mem_cons_self

theorem isAbsoluteText_append {front : List Char} (filled : front ≠ []) (rest : List Char) :
    isAbsoluteText (front ++ rest) = isAbsoluteText front := by
  obtain ⟨c, tail, rfl⟩ := List.exists_cons_of_ne_nil filled
  rw [List.cons_append, isAbsoluteText_cons, isAbsoluteText_cons]

theorem exists_eq_cons_of_absolute {text : List Char} (absolute : isAbsoluteText text = true) :
    ∃ rest, text = '/' :: rest := by
  cases text with
  | nil => cases absolute
  | cons c rest =>
      rw [isAbsoluteText_cons, decide_eq_true_iff] at absolute
      exact ⟨rest, by rw [absolute]⟩

end Path

namespace NodeId

def segments (text : List Char) : List (List Char) :=
  (Text.splitOn '/' text).filter fun part => !Path.isIdle part

structure Proper (steps : List (List Char)) : Prop where
  solid : ∀ step ∈ steps, Path.isIdle step = false
  clean : ∀ step ∈ steps, '/' ∉ step

theorem Proper.concat {steps : List (List Char)} (proper : Proper steps) {step : List Char}
    (solid : Path.isIdle step = false) (clean : '/' ∉ step) : Proper (steps ++ [step]) where
  solid := List.forall_mem_append.mpr ⟨proper.solid, List.forall_mem_singleton.mpr solid⟩
  clean := List.forall_mem_append.mpr ⟨proper.clean, List.forall_mem_singleton.mpr clean⟩

theorem canonicalText_eq_spell (raw : List Char) :
    canonicalText raw = spell (Path.isAbsoluteText (Text.trim raw)) (segments (Text.trim raw)) :=
  canonicalText_eq raw

theorem proper_segments (text : List Char) : Proper (segments text) where
  solid step member := by simpa using (List.mem_filter.mp member).2
  clean step member := Text.notMem_of_mem_splitOn (List.mem_filter.mp member).1

theorem segments_append_slash (front rest : List Char) :
    segments (front ++ '/' :: rest) = segments front ++ segments rest := by
  rw [segments, Text.splitOn_append_slash, List.filter_append]
  rfl

theorem segments_of_notMem {text : List Char} (clean : '/' ∉ text)
    (solid : Path.isIdle text = false) : segments text = [text] := by
  simp [segments, Text.splitOn_of_notMem clean, solid]

theorem notIdle_of_mem {c : Char} (dot : c ≠ '.') {part : List Char} (member : c ∈ part) :
    Path.isIdle part = false := by
  have filled : part ≠ [] := List.ne_nil_of_mem member
  have other : part ≠ ['.'] := by
    rintro rfl
    exact dot (List.mem_singleton.mp member)
  simp [Path.isIdle, filled, other]

theorem exists_mem_segments {c : Char} (slash : c ≠ '/') (dot : c ≠ '.') {text : List Char}
    (member : c ∈ text) : ∃ step ∈ segments text, c ∈ step := by
  obtain ⟨piece, listed, inside⟩ := Text.exists_mem_splitOn slash member
  exact ⟨piece, List.mem_filter.mpr ⟨listed, by simp [notIdle_of_mem dot inside]⟩, inside⟩

theorem mem_of_mem_segments {c : Char} {text step : List Char} (listed : step ∈ segments text)
    (member : c ∈ step) : c ∈ text :=
  Text.mem_of_mem_splitOn (List.mem_filter.mp listed).1 member

theorem segments_eq_append (text : List Char)
    (solid : Path.isIdle (Text.lastPiece text) = false) :
    ∃ front, segments text = front ++ [Text.lastPiece text] := by
  obtain ⟨front, split⟩ := Text.splitOn_lastPiece text
  refine ⟨front.filter fun part => !Path.isIdle part, ?_⟩
  rw [segments, split, List.filter_append]
  simp [solid]

section Spell

theorem segments_joinWith {steps : List (List Char)} (proper : Proper steps) :
    segments (Text.joinWith ['/'] steps) = steps := by
  cases steps with
  | nil => rfl
  | cons first rest =>
      rw [segments, Text.splitOn_joinWith (List.cons_ne_nil _ _) proper.clean]
      exact List.filter_eq_self.mpr fun step member => by simp [proper.solid step member]

variable (absolute : Bool) {steps : List (List Char)}

theorem segments_spell (proper : Proper steps) : segments (spell absolute steps) = steps := by
  unfold spell
  split_ifs with rooted empty
  · rw [← List.nil_append ('/' :: _), segments_append_slash, segments_joinWith proper]
    rfl
  · rw [List.isEmpty_iff.mp empty]
    rfl
  · exact segments_joinWith proper

theorem isAbsoluteText_spell (proper : Proper steps) :
    Path.isAbsoluteText (spell absolute steps) = absolute := by
  cases absolute with
  | true => rfl
  | false =>
      cases steps with
      | nil => rfl
      | cons first rest =>
          have filled := ne_nil_of_notIdle (proper.solid first (by simp))
          have relative := Path.isAbsoluteText_of_notMem (proper.clean first (by simp))
          cases rest with
          | nil => exact relative
          | cons next rest =>
              simp only [spell, Bool.false_eq_true, if_false, List.isEmpty_cons, Text.joinWith,
                List.append_assoc]
              rw [Path.isAbsoluteText_append filled, relative]

theorem spell_inj {other : Bool} {steps' : List (List Char)} (proper : Proper steps)
    (proper' : Proper steps') (same : spell absolute steps = spell other steps') :
    absolute = other ∧ steps = steps' := by
  constructor
  · rw [← isAbsoluteText_spell absolute proper, same, isAbsoluteText_spell _ proper']
  · rw [← segments_spell absolute proper, same, segments_spell _ proper']

theorem canonicalText_spell (proper : Proper steps)
    (trimmed : Text.trim (spell absolute steps) = spell absolute steps) :
    canonicalText (spell absolute steps) = spell absolute steps := by
  rw [canonicalText_eq_spell, trimmed, isAbsoluteText_spell _ proper, segments_spell _ proper]

theorem canonical_canonical {raw : String}
    (trimmed : Text.trim (canonical raw).toList = (canonical raw).toList) :
    canonical (canonical raw) = canonical raw := by
  have spelled : (canonical raw).toList =
      spell (Path.isAbsoluteText (Text.trim raw.toList)) (segments (Text.trim raw.toList)) := by
    rw [canonical, String.toList_ofList, canonicalText_eq_spell]
  rw [spelled] at trimmed
  conv_lhs => rw [canonical, spelled, canonicalText_spell _ (proper_segments _) trimmed, ← spelled]
  rw [String.ofList_toList]

theorem spell_concat {step : List Char} (filled : steps ≠ []) :
    spell absolute (steps ++ [step]) = spell absolute steps ++ '/' :: step := by
  have joined := Text.joinWith_append ['/'] filled (List.cons_ne_nil step [])
  cases absolute <;> simp [spell, joined, filled, Text.joinWith]

theorem lastPiece_spell (steps : List (List Char)) {step : List Char} (clean : '/' ∉ step) :
    Text.lastPiece (spell absolute (steps ++ [step])) = step := by
  cases absolute with
  | true =>
      rw [spell, if_pos rfl, ← List.nil_append ('/' :: _), Text.lastPiece_append_slash,
        Text.lastPiece_joinWith clean]
  | false => simp [spell, Text.lastPiece_joinWith clean]

theorem spell_suffix (steps : List (List Char)) {step : List Char} (clean : '/' ∉ step) :
    ∃ front, spell absolute (steps ++ [step]) = front ++ step := by
  have last := lastPiece_spell absolute steps clean
  rcases Text.eq_lastPiece_or (spell absolute (steps ++ [step])) with whole | ⟨front, split⟩
  · exact ⟨[], by rw [← whole, last, List.nil_append]⟩
  · rw [last] at split
    exact ⟨front ++ ['/'], by simp [split]⟩

end Spell

def inside (dir : NodeId) (name : String) : NodeId :=
  if dir = "." then name else ((Path.mk dir).join ⟨name⟩).text

theorem inside_spell {absolute : Bool} {steps : List (List Char)} {name : String}
    (proper : Proper steps) (clean : '/' ∉ name.toList) :
    inside (String.ofList (spell absolute steps)) name =
      String.ofList (spell absolute (steps ++ [name.toList])) := by
  have relative := Path.isAbsoluteText_of_notMem clean
  rcases List.eq_nil_or_concat' steps with rfl | ⟨front, last, rfl⟩
  · cases absolute with
    | true => simp [inside, spell, Text.joinWith, Path.join, Path.joinText, relative]
    | false => simp [inside, spell, Text.joinWith]
  -- The spelling ends in its last step, so a slash comes between it and the name.
  have filled : front ++ [last] ≠ [] := by simp
  have ended := lastPiece_spell absolute front (proper.clean last (by simp))
  have unslashed : ∀ front' : List Char,
      spell absolute (front ++ [last]) ≠ front' ++ ['/'] := by
    intro front' slash
    rw [slash, Text.lastPiece_append_slash] at ended
    exact ne_nil_of_notIdle (proper.solid last (by simp)) ended.symm
  have other : spell absolute (front ++ [last]) ≠ ['.'] := by
    intro dot
    have none := segments_spell absolute proper
    rw [dot] at none
    exact filled none.symm
  have named : spell absolute (front ++ [last]) ≠ [] := by
    intro empty
    rw [empty] at ended
    exact ne_nil_of_notIdle (proper.solid last (by simp)) ended.symm
  obtain ⟨front', joined, split | split⟩ := Path.joinText_split named relative
  · rw [inside, if_neg (by simpa [String.ext_iff] using other), Path.join, String.toList_ofList,
      joined, ← split, spell_concat absolute filled]
  · exact absurd split (unslashed front')

/-- The id is that of a file right in the directory. -/
def LiesIn (id dir : NodeId) : Prop :=
  ∃ name : String, '/' ∉ name.toList ∧ id = inside dir name

theorem liesIn_spell_iff {absolute rooted : Bool} {steps home : List (List Char)}
    {name : List Char} (proper : Proper steps) (proper' : Proper (home ++ [name])) :
    LiesIn (String.ofList (spell rooted (home ++ [name])))
        (String.ofList (spell absolute steps)) ↔
      rooted = absolute ∧ home = steps := by
  constructor
  · rintro ⟨found, clean, same⟩
    rw [inside_spell proper clean, String.ofList_inj] at same
    -- Both ids end in the name.
    have last := congrArg Text.lastPiece same
    rw [lastPiece_spell _ _ (proper'.clean name (by simp)), lastPiece_spell _ _ clean] at last
    subst last
    have both := proper.concat (proper'.solid found.toList (by simp)) clean
    obtain ⟨rfl, steps⟩ := spell_inj _ proper' both same
    exact ⟨rfl, List.append_cancel_right steps⟩
  · rintro ⟨rfl, rfl⟩
    have clean : '/' ∉ (String.ofList name).toList := by
      rw [String.toList_ofList]
      exact proper'.clean name (by simp)
    exact ⟨String.ofList name, clean, by rw [inside_spell proper clean, String.toList_ofList]⟩

def slashed (text : List Char) : List Char :=
  Text.trimLeft (Text.exchange '\\' '/' text)

theorem slashed_append_slash (front rest : List Char) :
    slashed (front ++ '/' :: rest) = slashed front ++ '/' :: Text.exchange '\\' '/' rest := by
  have solid : Text.isBlank '/' = false := by decide
  rw [slashed, Text.exchange, List.map_append, List.map_cons, if_neg (by decide),
    Text.trimLeft_append solid]
  rfl

theorem slashed_ne_nil {text : List Char} (filled : Text.trimLeft text ≠ []) :
    slashed text ≠ [] := by
  obtain ⟨c, member, solid⟩ := Text.trimLeft_ne_nil.mp filled
  refine Text.trimLeft_ne_nil.mpr ⟨_, List.mem_map_of_mem member, ?_⟩
  split_ifs
  · decide
  · exact solid

theorem slashed_of_notMem {text : List Char} (clean : '\\' ∉ text) :
    slashed text = Text.trimLeft text := by
  rw [slashed, Text.exchange_of_notMem clean]

theorem backslash_notMem_slashed (text : List Char) : '\\' ∉ slashed text := by
  intro member
  obtain ⟨c, -, exchanged⟩ := List.mem_map.mp ((List.dropWhile_suffix _).mem member)
  split_ifs at exchanged with same
  · cases exchanged
  · exact same exchanged

theorem joinText_slashed {base name : List Char} (filled : Text.trimLeft base ≠ [])
    (relative : Path.isAbsoluteText name = false) :
    ∃ front, Path.joinText base name = front ++ '/' :: name ∧ ∀ rest,
      Path.isAbsoluteText (slashed front ++ '/' :: rest) = Path.isAbsoluteText (slashed base) ∧
        segments (slashed front ++ '/' :: rest) = segments (slashed base) ++ segments rest := by
  have named : base ≠ [] := by
    rintro rfl
    exact filled rfl
  have read := slashed_ne_nil filled
  obtain ⟨front, joined, rfl | rfl⟩ := Path.joinText_split named relative
  · exact ⟨base, joined, fun rest =>
      ⟨Path.isAbsoluteText_append read _, segments_append_slash _ _⟩⟩
  · -- The slash that the directory ends in opens one more step, but an idle one.
    refine ⟨front, joined, fun rest => ?_⟩
    rw [slashed_append_slash] at read ⊢
    constructor
    · rw [← Path.isAbsoluteText_append read rest, List.append_assoc]
      rfl
    · rw [segments_append_slash, segments_append_slash, List.append_assoc]
      rfl

end NodeId

namespace OutputNamer

open NodeId

theorem flat_fileName {stamp extension : String} (stamped : Flat stamp) (flat : Flat extension)
    (number : Nat) : Flat (fileName ⟨stamp, number⟩ extension) := by
  simp [Flat, fileName, stamped.1, stamped.2, flat.1, flat.2, Text.notMem_padZeros]

theorem outputId_spelled {stamp expDir category extension : String}
    (placed : Text.trimLeft (Path.joinText expDir.toList category.toList) ≠ [])
    (stamped : Flat stamp) (flat : Flat extension) (seq : Nat) :
    ∃ name, Proper (segments (slashed (Path.joinText expDir.toList category.toList)) ++ [name]) ∧
      outputId stamp ⟨expDir⟩ category extension seq = String.ofList
        (spell (Path.isAbsoluteText (slashed (Path.joinText expDir.toList category.toList)))
          (segments (slashed (Path.joinText expDir.toList category.toList)) ++ [name])) := by
  have slash : Text.isBlank '/' = false := by decide
  have dash : Text.isBlank '-' = false := by decide
  obtain ⟨clean, straight⟩ := flat_fileName stamped flat (seq + 1)
  have dashed : '-' ∈ (fileName ⟨stamp, seq + 1⟩ extension).toList := by simp [fileName]
  have named : outputId stamp ⟨expDir⟩ category extension seq =
      String.ofList (canonicalText (Text.exchange '\\' '/'
        (Path.joinText (Path.joinText expDir.toList category.toList)
          (fileName ⟨stamp, seq + 1⟩ extension).toList))) := by
    simp [outputId, NodeId.ofPath, next, advance, Path.join]
  generalize (fileName ⟨stamp, seq + 1⟩ extension).toList = file at clean straight dashed named
  obtain ⟨front, joined, read⟩ := joinText_slashed placed (Path.isAbsoluteText_of_notMem clean)
  obtain ⟨absolute, steps⟩ := read (Text.trimRight file)
  have trimmed : Text.trim (Text.exchange '\\' '/' (front ++ '/' :: file)) =
      slashed front ++ '/' :: Text.trimRight file := by
    rw [Text.trim, ← slashed, slashed_append_slash, Text.exchange_of_notMem straight,
      Text.trimRight_append slash]
  -- The dash in front of the number stays, so what is left of the name is a step of its own.
  have unslashed : '/' ∉ Text.trimRight file := fun member =>
    clean (Text.mem_of_mem_trimRight member)
  have solid : Path.isIdle (Text.trimRight file) = false :=
    notIdle_of_mem (by decide) (Text.mem_trimRight dash dashed)
  rw [segments_of_notMem unslashed solid] at steps
  refine ⟨Text.trimRight file, (proper_segments _).concat solid unslashed, ?_⟩
  rw [named, joined, canonicalText_eq_spell, trimmed, absolute, steps]

end OutputNamer

namespace Experiment

open NodeId

/-- Names from which the path of an output and the id of its directory are read alike: nothing is
exchanged or trimmed, and an absolute category does not lead away from the experiments' directory. -/
structure Tidy (expDir category : String) : Prop where
  dirStraight : '\\' ∉ expDir.toList
  categoryStraight : '\\' ∉ category.toList
  trimmed : Text.trimRight category.toList = category.toList
  below : Path.isAbsoluteText category.toList = true → NodeId.canonical (expDir ++ "/") = "/"

instance (expDir category : String) : Decidable (Tidy expDir category) :=
  decidable_of_iff ('\\' ∉ expDir.toList ∧ '\\' ∉ category.toList ∧
      Text.trimRight category.toList = category.toList ∧
      (Path.isAbsoluteText category.toList = true → NodeId.canonical (expDir ++ "/") = "/"))
    ⟨fun ⟨dir, category, trimmed, below⟩ => ⟨dir, category, trimmed, below⟩,
      fun tidy => ⟨tidy.dirStraight, tidy.categoryStraight, tidy.trimmed, tidy.below⟩⟩

variable {expDir category : String}

theorem canonical_slash (filled : Text.trimLeft expDir.toList ≠ []) (rest : String) :
    canonical (expDir ++ "/" ++ rest) =
      String.ofList (spell (Path.isAbsoluteText (Text.trimLeft expDir.toList))
        (segments (Text.trimLeft expDir.toList) ++ segments (Text.trimRight rest.toList))) := by
  have listed : (expDir ++ "/" ++ rest).toList = expDir.toList ++ '/' :: rest.toList := by simp
  rw [canonical, listed, canonicalText_eq_spell, Text.trim_append_slash,
    Path.isAbsoluteText_append filled, segments_append_slash]

theorem canonical_slash_eq_root (filled : Text.trimLeft expDir.toList ≠ []) :
    canonical (expDir ++ "/") = "/" ↔ Path.isAbsoluteText (Text.trimLeft expDir.toList) = true ∧
      segments (Text.trimLeft expDir.toList) = [] := by
  have spelled := canonical_slash filled ""
  have none : segments (Text.trimRight "".toList) = [] := rfl
  have root : "/" = String.ofList (spell true []) := rfl
  have empty : Proper [] := ⟨nofun, nofun⟩
  rw [String.append_empty, none, List.append_nil] at spelled
  rw [spelled, root, String.ofList_inj]
  constructor
  · exact spell_inj _ (proper_segments _) empty
  · rintro ⟨absolute, steps⟩
    rw [absolute, steps]

theorem joinText_read (category : String) (filled : Text.trimLeft expDir.toList ≠ []) :
    Path.isAbsoluteText (slashed (Path.joinText expDir.toList category.toList)) =
        (Path.isAbsoluteText category.toList ||
          Path.isAbsoluteText (slashed expDir.toList)) ∧
      segments (slashed (Path.joinText expDir.toList category.toList)) =
        (if Path.isAbsoluteText category.toList then [] else segments (slashed expDir.toList)) ++
          segments (Text.exchange '\\' '/' category.toList) := by
  cases absolute : Path.isAbsoluteText category.toList with
  | true =>
      obtain ⟨rest, split⟩ := Path.exists_eq_cons_of_absolute absolute
      rw [Path.joinText_absolute absolute, split]
      exact ⟨rfl, rfl⟩
  | false =>
      obtain ⟨front, joined, read⟩ := joinText_slashed filled absolute
      rw [joined, slashed_append_slash]
      exact read _

theorem joinText_solid (category : String) (filled : Text.trimLeft expDir.toList ≠ []) :
    Text.trimLeft (Path.joinText expDir.toList category.toList) ≠ [] := by
  refine Text.trimLeft_ne_nil.mpr ⟨'/', ?_, by decide⟩
  cases absolute : Path.isAbsoluteText category.toList with
  | true =>
      obtain ⟨rest, split⟩ := Path.exists_eq_cons_of_absolute absolute
      rw [Path.joinText_absolute absolute, split]
      exact List.mem_cons_self
  | false =>
      obtain ⟨front, joined, -⟩ := joinText_slashed filled absolute
      simp [joined]

theorem segments_blank (filled : Text.trimLeft expDir.toList ≠ []) {c : Char}
    (blank : Text.isBlank c = true) {front : List Char} (split : category.toList = front ++ [c]) :
    ∃ steps step, segments (slashed (Path.joinText expDir.toList category.toList)) =
      steps ++ [step ++ [c]] := by
  have other (d : Char) (solid : Text.isBlank d = false) : c ≠ d := by
    rintro rfl
    exact Bool.noConfusion (solid.symm.trans blank)
  obtain ⟨above, joined⟩ := Path.joinText_suffix expDir.toList category.toList
  have placed := slashed_ne_nil (joinText_solid category filled)
  have ended : slashed (Path.joinText expDir.toList category.toList) =
      slashed (above ++ front) ++ [c] := by
    rw [joined, split, ← List.append_assoc] at placed ⊢
    rw [slashed, Text.exchange, List.map_append, List.map_singleton,
      if_neg (other '\\' (by decide)), Text.trimLeft, List.dropWhile_append] at placed ⊢
    split_ifs at placed ⊢ with gone
    · simp [blank] at placed
    · rfl
  have clean : '/' ∉ [c] := by simpa using (other '/' (by decide)).symm
  have last := Text.lastPiece_append clean (slashed (above ++ front))
  obtain ⟨steps, listed⟩ := segments_eq_append (slashed (above ++ front) ++ [c]) (by
    rw [last]
    exact notIdle_of_mem (other '.' (by decide)) (by simp))
  exact ⟨steps, _, by rw [ended, listed, last]⟩

theorem straight_of_alike
    (alike : segments (slashed (Path.joinText expDir.toList category.toList)) =
      segments (Text.trimLeft expDir.toList) ++ segments (Text.trimRight category.toList)) :
    '\\' ∉ expDir.toList ∧ '\\' ∉ category.toList := by
  have solid : Text.isBlank '\\' = false := by decide
  -- The path of an output has no backslash left, but the id of a directory keeps its own.
  have straight : ∀ step ∈ segments (Text.trimLeft expDir.toList) ++
      segments (Text.trimRight category.toList), '\\' ∉ step := by
    intro step listed member
    rw [← alike] at listed
    exact backslash_notMem_slashed _ (mem_of_mem_segments listed member)
  constructor
  · intro member
    obtain ⟨step, listed, inside⟩ := exists_mem_segments (by decide) (by decide)
      (Text.mem_trimLeft solid member)
    exact straight step (List.mem_append_left _ listed) inside
  · intro member
    obtain ⟨step, listed, inside⟩ := exists_mem_segments (by decide) (by decide)
      (Text.mem_trimRight solid member)
    exact straight step (List.mem_append_right _ listed) inside

theorem trimmed_of_alike (filled : Text.trimLeft expDir.toList ≠ [])
    (spelled : Text.trim (canonical (expDir ++ "/" ++ category)).toList =
      (canonical (expDir ++ "/" ++ category)).toList)
    (alike : segments (slashed (Path.joinText expDir.toList category.toList)) =
      segments (Text.trimLeft expDir.toList) ++ segments (Text.trimRight category.toList)) :
    Text.trimRight category.toList = category.toList := by
  -- Else the path of the output would keep the blank that the category ends in, and the id of the
  -- directory would end in it.
  refine (Text.trimRight_eq_or category.toList).resolve_right ?_
  rintro ⟨front, c, split, blank⟩
  obtain ⟨others, step, listed⟩ := segments_blank filled blank split
  have clean := (proper_segments _).clean (step ++ [c]) (by rw [listed]; simp)
  obtain ⟨rest, ended⟩ := spell_suffix
    (Path.isAbsoluteText (Text.trimLeft expDir.toList)) others clean
  rw [canonical_slash filled, ← alike, listed, String.toList_ofList, ended,
    ← List.append_assoc] at spelled
  exact Text.trimRight_ne_concat blank _ _ spelled

theorem read_alike_iff (filled : Text.trimLeft expDir.toList ≠ [])
    (spelled : Text.trim (canonical (expDir ++ "/" ++ category)).toList =
      (canonical (expDir ++ "/" ++ category)).toList) :
    (Path.isAbsoluteText (slashed (Path.joinText expDir.toList category.toList)) =
        Path.isAbsoluteText (Text.trimLeft expDir.toList) ∧
      segments (slashed (Path.joinText expDir.toList category.toList)) =
        segments (Text.trimLeft expDir.toList) ++ segments (Text.trimRight category.toList)) ↔
    Tidy expDir category := by
  obtain ⟨absolute, steps⟩ := joinText_read category filled
  constructor
  · rintro ⟨sameRoot, alike⟩
    obtain ⟨dirStraight, categoryStraight⟩ := straight_of_alike alike
    have trimmed := trimmed_of_alike filled spelled alike
    refine ⟨dirStraight, categoryStraight, trimmed, fun rooted => ?_⟩
    -- In front of an absolute category the experiments' directory must not add a step.
    rw [rooted, Bool.true_or] at absolute
    rw [rooted, if_pos rfl, Text.exchange_of_notMem categoryStraight] at steps
    rw [steps, trimmed] at alike
    exact (canonical_slash_eq_root filled).mpr
      ⟨sameRoot.symm.trans absolute, (List.append_cancel_right alike).symm⟩
  · intro tidy
    rw [Text.exchange_of_notMem tidy.categoryStraight, slashed_of_notMem tidy.dirStraight] at steps
    rw [slashed_of_notMem tidy.dirStraight] at absolute
    rw [absolute, steps, tidy.trimmed]
    cases rooted : Path.isAbsoluteText category.toList with
    | true =>
        obtain ⟨root, none⟩ := (canonical_slash_eq_root filled).mp (tidy.below rooted)
        rw [root, none]
        exact ⟨rfl, rfl⟩
    | false => exact ⟨rfl, rfl⟩

theorem liesIn_iff_tidy {stamp extension : String} (filled : Text.trimLeft expDir.toList ≠ [])
    (stamped : OutputNamer.Flat stamp) (flat : OutputNamer.Flat extension) (seq : Nat)
    (spelled : Text.trim (canonical (expDir ++ "/" ++ category)).toList =
      (canonical (expDir ++ "/" ++ category)).toList) :
    LiesIn (OutputNamer.outputId stamp ⟨expDir⟩ category extension seq)
      (canonical (expDir ++ "/" ++ category)) ↔ Tidy expDir category := by
  obtain ⟨name, proper, output⟩ := OutputNamer.outputId_spelled
    (joinText_solid category filled) stamped flat seq
  have proper' : Proper (segments (Text.trimLeft expDir.toList) ++
      segments (Text.trimRight category.toList)) :=
    segments_append_slash _ _ ▸ proper_segments _
  rw [← read_alike_iff filled spelled, output, canonical_slash filled,
    liesIn_spell_iff proper' proper]

end Experiment

namespace Registry

def Stores (registry : Registry) (artifact : Artifact) : Prop :=
  ∃ node, registry.find? artifact.id = some node ∧ node.same artifact = true

theorem stores_register {registry next : Registry} {node : Artifact}
    (registered : registry.register node = .ok next) :
    next.Stores node ∧ ∀ artifact, registry.Stores artifact → next.Stores artifact := by
  unfold register offer at registered
  cases known : registry.find? node.id with
  | none =>
      rw [known] at registered
      cases registered
      constructor
      · refine ⟨node, ?_, Artifact.same_refl node⟩
        rw [find?, List.find?_append, ← find?, known]
        simp
      · rintro artifact ⟨old, found, same⟩
        refine ⟨old, ?_, same⟩
        rw [find?, List.find?_append, ← find?, found]
        rfl
  | some old =>
      -- The same node again changes nothing, and another one is refused.
      rw [known] at registered
      dsimp only at registered
      split at registered <;> rename_i offered <;> split at offered <;> cases offered <;>
        cases registered
      rename_i same
      exact ⟨⟨old, known, same⟩, fun _ stored => stored⟩

theorem stores_registerAll {nodes : List Artifact} {registry next : Registry}
    (registered : registry.registerAll nodes = .ok next) :
    (∀ node ∈ nodes, next.Stores node) ∧
      ∀ artifact, registry.Stores artifact → next.Stores artifact := by
  induction nodes generalizing registry with
  | nil =>
      cases registered
      exact ⟨nofun, fun _ stored => stored⟩
  | cons node rest ih =>
      rw [registerAll] at registered
      split at registered
      · rename_i between added
        obtain ⟨own, kept⟩ := stores_register added
        obtain ⟨others, later⟩ := ih registered
        exact ⟨List.forall_mem_cons.mpr ⟨later node own, others⟩,
          fun artifact stored => later artifact (kept artifact stored)⟩
      · cases registered

end Registry

namespace Artifact

theorem dependsOnAll_eq (ids : List String) {artifact : Artifact} {known : List NodeId}
    (needs : artifact.prerequisites = known.map .node) :
    artifact.dependsOnAll ids = { artifact with
      prerequisites := (Pipeline.addNew known (ids.map NodeId.canonical)).map .node } := by
  induction ids generalizing artifact known with
  | nil =>
      rw [List.map_nil, Pipeline.addNew, List.foldl_nil, ← needs]
      rfl
  | cons id rest ih =>
      have first : (artifact.dependsOn id).prerequisites =
          (Pipeline.addNew known [NodeId.canonical id]).map .node := by
        simp only [dependsOn, needs, Pipeline.addNew, List.foldl_cons, List.foldl_nil,
          List.mem_map, Prerequisite.node.injEq, exists_eq_right]
        split_ifs <;> simp [needs]
      have others := ih first
      rw [← Pipeline.addNew_append] at others
      rw [dependsOnAll, List.foldl_cons, ← dependsOnAll, others]
      unfold dependsOn
      dsimp only
      split_ifs <;> rfl

end Artifact

namespace Pipeline

open Experiment NodeId

theorem expDir_filled {file : PipelineFile} (accepted : file.faults = []) :
    Text.trimLeft file.settings.expDir.toList ≠ [] := by
  simp only [PipelineFile.faults, Check.settingsFaults, List.append_eq_nil_iff,
    List.map_eq_nil_iff] at accepted
  have filled := Check.of_faultIf accepted.1.1.1.1.1.2
  rw [Text.trimLeft_ne_nil]
  simpa [Text.isBlankText] using filled

def Draft.Stocked (expDir : String) (draft : Draft) : Prop :=
  ∀ made ∈ draft.variants, ∀ artifact ∈ Draft.variantArtifacts expDir made,
    draft.registry.Stores artifact

theorem Draft.Stocked.addMatrix {expDir : String} {settings : RunSettings}
    {datasets : List Dataset} {entry : MatrixEntry} {draft next : Draft}
    (stocked : draft.Stocked expDir)
    (added : draft.addMatrix expDir settings datasets entry = .ok next) :
    next.Stocked expDir := by
  unfold Draft.addMatrix at added
  split at added
  · cases added
  rename_i variants after expanded
  split at added
  · cases added
  rename_i between registered
  cases added
  obtain ⟨new, kept⟩ := Registry.stores_registerAll (Draft.registerAll_eq_ok registered).1
  intro made listed artifact own
  change made ∈ between.variants ++ variants at listed
  rw [(Draft.registerAll_keeps registered).1] at listed
  rcases List.mem_append.mp listed with old | fresh
  · exact kept artifact (stocked made old artifact own)
  · exact new artifact (List.mem_append_left _ (List.mem_flatMap.mpr ⟨made, fresh, own⟩))

theorem stocked_of_build {file : PipelineFile} {settings : RunSettings}
    {namer after : OutputNamer} {pipeline : Pipeline}
    (made : build file settings namer = .ok (pipeline, after)) :
    ∀ made ∈ pipeline.variants, ∀ artifact ∈ Draft.variantArtifacts file.settings.expDir made,
      pipeline.registry.Stores artifact := by
  obtain ⟨prepared, last, unnamed, -, added, registered, listed⟩ := experiments_of_build made
  have stocked : Ends (Draft.Stocked file.settings.expDir) (fun _ => True)
      (file.matrices.foldlM (Draft.addMatrix file.settings.expDir settings
        (usableDatasets file settings)) prepared) := by
    refine .foldlM (fun made member => ?_) fun entry _ draft kept => ?_
    · -- Before the first experiment there are no variants.
      rw [unnamed] at member
      cases member
    · cases known : draft.addMatrix file.settings.expDir settings (usableDatasets file settings)
          entry with
      | error failure => trivial
      | ok next => exact kept.addMatrix known
  rw [added] at stocked
  rw [registered, listed]
  exact stocked

def directoryId (expDir : String) (made : Variant) : NodeId :=
  (Artifact.directory (Draft.categoryDir expDir made)).id

/-- There are nodes for a directory and for the file of a variant's output, and the file needs what
the variant requires and then the directory. -/
structure Prepared (registry : Registry) (dir : NodeId) (made : Variant) : Prop where
  directory : ∃ node, registry.find? dir = some node ∧ node.kind = .directory
  file : ∃ node, registry.find? (canonical made.output) = some node ∧ node.kind = .file ∧
    node.prerequisites = (made.requires.map canonical ++ [dir]).eraseDups.map .node ∧
      (dir ∉ made.requires.map canonical → node.prerequisites.getLast? = some (.node dir))

theorem prepared_of_stores {registry : Registry} {expDir : String} {made : Variant}
    (stored : ∀ artifact ∈ Draft.variantArtifacts expDir made, registry.Stores artifact) :
    Prepared registry (directoryId expDir made) made := by
  have output : Draft.outputArtifact expDir made =
      { Artifact.file made.output (.run [made.command]) with
        prerequisites :=
          (made.requires.map canonical ++ [directoryId expDir made]).eraseDups.map .node } := by
    have bare : (Artifact.file made.output (.run [made.command])).prerequisites =
        List.map .node [] := rfl
    rw [Draft.outputArtifact, Artifact.dependsOnAll_eq _ bare, addNew_nil, List.map_append]
    rfl
  obtain ⟨dir, foundDir, sameDir⟩ := stored _ List.mem_cons_self
  obtain ⟨file, foundFile, sameFile⟩ := stored _ (List.mem_cons_of_mem _ List.mem_cons_self)
  rw [output] at foundFile sameFile
  simp only [Artifact.same, Bool.and_eq_true, beq_iff_eq] at sameDir sameFile
  refine ⟨⟨dir, foundDir, sameDir.1.1.1.2⟩, file, foundFile, sameFile.1.1.1.2, sameFile.1.1.2, ?_⟩
  intro fresh
  -- The directory is not among the requirements, so it is the one that comes last.
  have alone : ([directoryId expDir made].removeAll (made.requires.map canonical)).eraseDups =
      [directoryId expDir made] := by
    rw [List.removeAll, List.filter_cons_of_pos (by simpa using fresh)]
    rfl
  rw [sameFile.1.1.2, List.eraseDups_append, alone, List.map_append, List.map_singleton,
    List.getLast?_concat]

/-- Every variant has a directory node and a file node that needs the directory, and the output is a
file right in that directory just when the names of both are tidy. Directories whose id has blanks
around it are left out: they are registered under another id. -/
theorem output_directories {file : PipelineFile} {settings : RunSettings}
    {namer after : OutputNamer} {pipeline : Pipeline} (accepted : file.check = .ok file)
    (stamped : OutputNamer.Flat namer.stamp)
    (made : build file settings namer = .ok (pipeline, after)) :
    List.Forall₂ (fun source made =>
        Prepared pipeline.registry (directoryId file.settings.expDir made) made ∧
          (OutputNamer.Flat (source.slot.extension source.entry) →
            Text.trimText (Draft.categoryDir file.settings.expDir made) =
              Draft.categoryDir file.settings.expDir made →
            (LiesIn made.output (directoryId file.settings.expDir made) ↔
              Tidy file.settings.expDir made.category)))
      (sources file settings) pipeline.variants := by
  have filled : Text.trimLeft file.settings.expDir.toList ≠ [] :=
    expDir_filled (PipelineFile.check_eq_ok_iff.mp accepted).1
  have both := (List.forall₂_and_left _ _).mpr
    ⟨stocked_of_build made, List.Forall₂.flip (R := flip _) (variants_of_build made)⟩
  rw [← List.zipIdx_map_fst namer.seq (sources file settings), List.forall₂_map_left_iff]
  refine (both.imp ?_).flip
  intro made numbered own
  have makes : Makes settings ⟨file.settings.expDir⟩ namer.stamp numbered made := own.2
  refine ⟨prepared_of_stores own.1, fun flat spelled => ?_⟩
  obtain ⟨category, output⟩ := makes.named
  have trimmed := congrArg String.toList spelled
  rw [Text.trimText, String.toList_ofList] at trimmed
  -- The node of the directory is named by a canonical id, which is spelled canonically once more.
  have registered : directoryId file.settings.expDir made =
      Draft.categoryDir file.settings.expDir made := canonical_canonical trimmed
  rw [Draft.categoryDir, category] at trimmed
  rw [registered, Draft.categoryDir, category, output]
  exact liesIn_iff_tidy filled stamped flat numbered.2 trimmed

def strayRuns : PipelineFile where
  datasets := [{ name := "city", path := "city" }]
  matrices := [
    { name := "speed", commands := [
        { args := ["drive"] }, { args := ["sail"], category := some "/data/runs" },
        { args := ["ride"], category := some "a\\b" },
        { args := ["walk"], category := some "fast " }] }
  ]

def strayVariants : List (NodeId × NodeId × String) := [
  ("exp/speed/T-0001.json", "exp/speed", "speed"),
  ("/data/runs/T-0002.json", "exp/data/runs", "/data/runs"),
  ("exp/a/b/T-0003.json", "exp/a\\b", "a\\b"),
  ("exp/fast /T-0004.json", "exp/fast", "fast ")
]

theorem output_directories_strayRuns :
    strayRuns.check = .ok strayRuns ∧ OutputNamer.Flat "T" ∧
      ∃ pipeline after, build strayRuns {} ⟨"T", 0⟩ = .ok (pipeline, after) ∧
        pipeline.variants.map (fun made =>
          (made.output, Draft.categoryDir "exp" made, made.category)) = strayVariants ∧
        List.Forall₂ (fun _ made =>
            Prepared pipeline.registry (directoryId "exp" made) made ∧
              (LiesIn made.output (directoryId "exp" made) ↔ made.category = "speed"))
          (sources strayRuns {}) pipeline.variants := by
  have accepted : strayRuns.check = .ok strayRuns := by decide +kernel
  have stamped : OutputNamer.Flat "T" := by decide
  have flat : ∀ source ∈ sources strayRuns {},
      OutputNamer.Flat (source.slot.extension source.entry) := by decide +kernel
  have outputs : (build strayRuns {} ⟨"T", 0⟩).toOption.map (fun built =>
      built.1.variants.map fun made =>
        (made.output, Draft.categoryDir "exp" made, made.category)) = some strayVariants := by
    decide +kernel
  have listed : ∀ row ∈ strayVariants, Text.trimText row.2.1 = row.2.1 ∧
      (Tidy "exp" row.2.2 ↔ row.2.2 = "speed") := by decide +kernel
  cases made : build strayRuns {} ⟨"T", 0⟩ with
  | error failure =>
      rw [made] at outputs
      cases outputs
  | ok built =>
      rw [made] at outputs
      have rows := Option.some.inj outputs
      refine ⟨accepted, stamped, built.1, built.2, rfl, rows, ?_⟩
      have known : ∀ made ∈ built.1.variants,
          Text.trimText (Draft.categoryDir "exp" made) = Draft.categoryDir "exp" made ∧
            (Tidy "exp" made.category ↔ made.category = "speed") := by
        intro made member
        refine listed (made.output, Draft.categoryDir "exp" made, made.category) ?_
        rw [← rows]
        exact List.mem_map.mpr ⟨made, member, rfl⟩
      have both := (List.forall₂_and_left _ _).mpr
        ⟨flat, output_directories accepted stamped made⟩
      have every := (List.forall₂_and_left _ _).mpr
        ⟨known, List.Forall₂.flip (R := flip _) both⟩
      refine (every.imp ?_).flip
      intro made source own
      obtain ⟨⟨spelled, tidy⟩, flat, prepared, lies⟩ := own
      exact ⟨prepared, (lies flat spelled).trans tidy⟩

end Pipeline

end ArtifactPipeline
