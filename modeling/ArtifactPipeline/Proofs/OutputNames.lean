import ArtifactPipeline.OutputNamer
import ArtifactPipeline.Proofs.DiskChange
import Mathlib.Data.List.DropRight

set_option autoImplicit false

namespace ArtifactPipeline

namespace Text

theorem digitsValue_replicate (width : Nat) (digits : List Char) :
    digitsValue (List.replicate width '0' ++ digits) = digitsValue digits := by
  induction width with
  | zero => rfl
  | succ width ih => exact ih

theorem digitsValue_padZeros (width value : Nat) :
    digitsValue (padZeros width value).toList = value := by
  have read : digitsValue (Nat.repr value).toList = value := by
    rw [Nat.toList_repr]
    exact Nat.ofDigitChars_toDigits (by decide) (by decide)
  rw [padZeros, String.toList_append, String.toList_ofList, digitsValue_replicate, read]

theorem isDigit_of_mem_padZeros {width value : Nat} {c : Char}
    (member : c ∈ (padZeros width value).toList) : c.isDigit = true := by
  rw [padZeros, String.toList_append, String.toList_ofList, List.mem_append] at member
  rcases member with zero | digit
  · rw [List.eq_of_mem_replicate zero]
    rfl
  · rw [Nat.toList_repr] at digit
    exact Nat.isDigit_of_mem_toDigits (by decide) (by decide) digit

theorem notMem_padZeros {c : Char} (other : c.isDigit = false) (width value : Nat) :
    c ∉ (padZeros width value).toList := by
  intro member
  rw [isDigit_of_mem_padZeros member] at other
  cases other

theorem exchange_of_notMem {old new : Char} {text : List Char} (clean : old ∉ text) :
    exchange old new text = text := by
  refine (List.map_congr_left fun c member => if_neg ?_).trans (List.map_id _)
  rintro rfl
  exact clean member

def lastPiece (text : List Char) : List Char :=
  text.rtakeWhile fun c => c != '/'

theorem lastPiece_append_slash (front rest : List Char) :
    lastPiece (front ++ '/' :: rest) = lastPiece rest := by
  induction rest using List.reverseRecOn with
  | nil => simp [lastPiece]
  | append_singleton rest c ih =>
      have split : front ++ '/' :: (rest ++ [c]) = (front ++ '/' :: rest) ++ [c] := by simp
      simp only [lastPiece] at ih ⊢
      rw [split, List.rtakeWhile_concat, List.rtakeWhile_concat, ih]

theorem lastPiece_append {rest : List Char} (clean : '/' ∉ rest) (front : List Char) :
    lastPiece (front ++ rest) = lastPiece front ++ rest := by
  induction rest using List.reverseRecOn with
  | nil => simp
  | append_singleton rest c ih =>
      rw [List.mem_append, List.mem_singleton, not_or] at clean
      have other : (c != '/') = true := by simpa using Ne.symm clean.2
      rw [← List.append_assoc, lastPiece, List.rtakeWhile_concat, if_pos other, ← lastPiece,
        ih clean.1, List.append_assoc]

theorem lastPiece_of_notMem {text : List Char} (clean : '/' ∉ text) : lastPiece text = text := by
  simpa [lastPiece] using lastPiece_append clean []

theorem notMem_lastPiece (text : List Char) : '/' ∉ lastPiece text := by
  intro member
  simpa using List.mem_rtakeWhile_imp member

theorem eq_lastPiece_or (text : List Char) :
    lastPiece text = text ∨ ∃ front, text = front ++ '/' :: lastPiece text := by
  induction text using List.reverseRecOn with
  | nil => exact .inl rfl
  | append_singleton rest c ih =>
      by_cases slash : c = '/'
      · subst slash
        exact .inr ⟨rest, by simp [lastPiece]⟩
      · have other : '/' ∉ [c] := by simpa using Ne.symm slash
        rw [lastPiece_append other]
        rcases ih with whole | ⟨front, split⟩
        · exact .inl (by rw [whole])
        · refine .inr ⟨front, ?_⟩
          conv_lhs => rw [split]
          simp

theorem splitOn_append_slash (front rest : List Char) :
    splitOn '/' (front ++ '/' :: rest) = splitOn '/' front ++ splitOn '/' rest := by
  induction front with
  | nil => simp
  | cons c front ih =>
      simp only [List.cons_append, splitOn, ih]
      split
      · rfl
      · cases known : splitOn '/' front with
        | nil => exact absurd known (splitOn_ne_nil _ _)
        | cons piece pieces => rfl

theorem splitOn_lastPiece (text : List Char) :
    ∃ front, splitOn '/' text = front ++ [lastPiece text] := by
  have clean := notMem_lastPiece text
  rcases eq_lastPiece_or text with whole | ⟨front, split⟩
  · rw [whole] at clean ⊢
    exact ⟨[], splitOn_of_notMem clean⟩
  · refine ⟨splitOn '/' front, ?_⟩
    conv_lhs => rw [split]
    rw [splitOn_append_slash, splitOn_of_notMem clean]

theorem lastPiece_joinWith {last : List Char} (clean : '/' ∉ last) (front : List (List Char)) :
    lastPiece (joinWith ['/'] (front ++ [last])) = last := by
  induction front with
  | nil => exact lastPiece_of_notMem clean
  | cons piece front ih =>
      obtain ⟨next, rest, tail⟩ := List.exists_cons_of_ne_nil (List.append_ne_nil_of_right_ne_nil
        front (List.cons_ne_nil last []))
      rw [tail] at ih
      rw [List.cons_append, tail, joinWith, List.append_assoc, List.singleton_append,
        lastPiece_append_slash, ih]
      simp

theorem trimLeft_append {c : Char} (solid : isBlank c = false) (front rest : List Char) :
    trimLeft (front ++ c :: rest) = trimLeft front ++ c :: rest := by
  induction front with
  | nil => simp [trimLeft, solid]
  | cons d front ih =>
      simp only [trimLeft, List.cons_append, List.dropWhile_cons] at ih ⊢
      split
      · exact ih
      · rfl

theorem trimRight_append {c : Char} (solid : isBlank c = false) (front rest : List Char) :
    trimRight (front ++ c :: rest) = front ++ c :: trimRight rest := by
  have reversed : (front ++ c :: rest).reverse = rest.reverse ++ c :: front.reverse := by simp
  have trimmed := trimLeft_append solid rest.reverse front.reverse
  simp only [trimLeft] at trimmed
  simp [trimRight, reversed, trimmed]

theorem mem_of_mem_trimRight {c : Char} {text : List Char} (member : c ∈ trimRight text) :
    c ∈ text := by
  rw [trimRight, List.mem_reverse] at member
  exact List.mem_reverse.mp ((List.dropWhile_suffix _).mem member)

theorem trimLeft_trimLeft (text : List Char) : trimLeft (trimLeft text) = trimLeft text :=
  List.dropWhile_idempotent _ _

theorem trimLeft_lastPiece_trimLeft (text : List Char) :
    trimLeft (lastPiece (trimLeft text)) = trimLeft (lastPiece text) := by
  have solid : isBlank '/' = false := by decide
  rcases eq_lastPiece_or text with whole | ⟨front, split⟩
  · have clean : '/' ∉ trimLeft text := by
      intro member
      refine notMem_lastPiece text ?_
      rw [whole]
      exact (List.dropWhile_suffix _).mem member
    rw [lastPiece_of_notMem clean, whole, trimLeft_trimLeft]
  · conv_lhs => rw [split]
    rw [trimLeft_append solid, lastPiece_append_slash, lastPiece_of_notMem (notMem_lastPiece text)]

end Text

namespace NodeId

theorem lastPiece_canonicalText {raw : List Char}
    (step : Path.isIdle (Text.lastPiece (Text.trim raw)) = false) :
    Text.lastPiece (canonicalText raw) = Text.lastPiece (Text.trim raw) := by
  have clean := Text.notMem_lastPiece (Text.trim raw)
  obtain ⟨front, split⟩ := Text.splitOn_lastPiece (Text.trim raw)
  have listed : parts raw =
      front.filter (fun part => !Path.isIdle part) ++ [Text.lastPiece (Text.trim raw)] := by
    rw [parts, split, List.filter_append]
    simp [step]
  rw [canonicalText_eq, listed, spell]
  split
  · rw [← List.nil_append ('/' :: _), Text.lastPiece_append_slash, Text.lastPiece_joinWith clean]
  · simp [Text.lastPiece_joinWith clean]

end NodeId

namespace Path

theorem isAbsoluteText_cons (c : Char) (rest : List Char) :
    isAbsoluteText (c :: rest) = decide (c = '/') := by
  by_cases slash : c = '/'
  · subst slash
    rfl
  · simp [isAbsoluteText, slash]

theorem joinText_append {c : Char} (other : c ≠ '/') (base name rest : List Char) :
    joinText base (name ++ c :: rest) = joinText base name ++ c :: rest := by
  have absolute : isAbsoluteText (name ++ c :: rest) = isAbsoluteText name := by
    cases name with
    | nil => simp [isAbsoluteText, other]
    | cons d tail => simp [isAbsoluteText_cons]
  unfold joinText
  rw [absolute]
  split_ifs <;> simp

theorem lastPiece_joinText (base name : List Char) :
    Text.lastPiece (Text.exchange '\\' '/' (joinText base name)) =
      Text.lastPiece (Text.exchange '\\' '/' name) := by
  unfold joinText
  split_ifs with absolute open'
  · rfl
  · rw [Bool.or_eq_true, List.isEmpty_iff, beq_iff_eq] at open'
    rcases open' with rfl | slash
    · rfl
    · obtain ⟨front, rfl⟩ := List.getLast?_eq_some_iff.mp slash
      simp [Text.exchange, Text.lastPiece_append_slash]
  · simp [Text.exchange, Text.lastPiece_append_slash]

end Path

namespace OutputNamer

def Flat (extension : String) : Prop :=
  '/' ∉ extension.toList ∧ '\\' ∉ extension.toList

instance (extension : String) : Decidable (Flat extension) :=
  inferInstanceAs (Decidable (_ ∧ _))

def outputId (stamp : String) (expDir : Path) (category extension : String) (seq : Nat) : NodeId :=
  .ofPath (next ⟨stamp, seq⟩ expDir category extension).1

def lead (stamp : String) (expDir : Path) (category : String) : List Char :=
  Text.exchange '\\' '/' (Path.joinText (expDir.join ⟨category⟩).text.toList stamp.toList)

theorem text_next {extension : String} (flat : Flat extension) (stamp : String) (expDir : Path)
    (category : String) (seq : Nat) :
    Text.exchange '\\' '/' (next ⟨stamp, seq⟩ expDir category extension).1.text.toList =
      lead stamp expDir category ++
        '-' :: ((Text.padZeros 4 (seq + 1)).toList ++ '.' :: extension.toList) := by
  have named : (fileName ⟨stamp, seq + 1⟩ extension).toList =
      stamp.toList ++ '-' :: ((Text.padZeros 4 (seq + 1)).toList ++ '.' :: extension.toList) := by
    simp [fileName]
  have kept : Text.exchange '\\' '/'
      ('-' :: ((Text.padZeros 4 (seq + 1)).toList ++ '.' :: extension.toList)) =
        '-' :: ((Text.padZeros 4 (seq + 1)).toList ++ '.' :: extension.toList) :=
    Text.exchange_of_notMem (by simp [Text.notMem_padZeros, flat.2])
  simp only [next, advance, Path.join, String.toList_ofList, named]
  rw [Path.joinText_append (by decide), Text.exchange, List.map_append, ← Text.exchange,
    ← Text.exchange, kept, lead, Path.join, String.toList_ofList]

theorem lastPiece_outputId {extension : String} (flat : Flat extension) (stamp : String)
    (expDir : Path) (category : String) (seq : Nat) :
    Text.trimLeft (Text.lastPiece (outputId stamp expDir category extension seq).toList) =
      Text.trimLeft (Text.lastPiece (Text.exchange '\\' '/' stamp.toList)) ++
        '-' :: ((Text.padZeros 4 (seq + 1)).toList ++ '.' :: Text.trimRight extension.toList) := by
  have dash : Text.isBlank '-' = false := by decide
  have dot : Text.isBlank '.' = false := by decide
  have trimmed : Text.trim
      (lead stamp expDir category ++
        '-' :: ((Text.padZeros 4 (seq + 1)).toList ++ '.' :: extension.toList)) =
      Text.trimLeft (lead stamp expDir category) ++
        '-' :: ((Text.padZeros 4 (seq + 1)).toList ++ '.' :: Text.trimRight extension.toList) := by
    rw [Text.trim, Text.trimLeft_append dash, ← List.cons_append, ← List.append_assoc,
      Text.trimRight_append dot, List.append_assoc, List.cons_append]
  -- What stands behind the dash has no slash, and so it belongs to the last step.
  have clean : '/' ∉
      '-' :: ((Text.padZeros 4 (seq + 1)).toList ++ '.' :: Text.trimRight extension.toList) := by
    have inside : '/' ∉ Text.trimRight extension.toList :=
      fun member => flat.1 (Text.mem_of_mem_trimRight member)
    simp [Text.notMem_padZeros, inside]
  have last := Text.lastPiece_append clean (Text.trimLeft (lead stamp expDir category))
  rw [← trimmed] at last
  have step : Path.isIdle (Text.lastPiece (Text.trim (lead stamp expDir category ++
      '-' :: ((Text.padZeros 4 (seq + 1)).toList ++ '.' :: extension.toList)))) = false := by
    rw [last]
    cases Text.lastPiece (Text.trimLeft (lead stamp expDir category)) <;> simp [Path.isIdle]
  rw [outputId, NodeId.ofPath, String.toList_ofList, text_next flat,
    NodeId.lastPiece_canonicalText step, last, Text.trimLeft_append dash,
    Text.trimLeft_lastPiece_trimLeft, lead, Path.lastPiece_joinText]

theorem outputId_inj {stamp : String} {expDir expDir' : Path}
    {category category' extension extension' : String} {seq seq' : Nat}
    (flat : Flat extension) (flat' : Flat extension')
    (same : outputId stamp expDir category extension seq =
      outputId stamp expDir' category' extension' seq') : seq = seq' := by
  have last := congrArg (fun id : NodeId => Text.trimLeft (Text.lastPiece id.toList)) same
  simp only [lastPiece_outputId flat, lastPiece_outputId flat', List.append_cancel_left_eq,
    List.cons.injEq, true_and] at last
  -- The number ends at the dot in front of the extension.
  have dotless (value : Nat) (rest : List Char) :
      ((Text.padZeros 4 value).toList ++ '.' :: rest).takeWhile Char.isDigit =
        (Text.padZeros 4 value).toList := by
    rw [List.takeWhile_append_of_pos fun c => Text.isDigit_of_mem_padZeros]
    simp
  have digits := congrArg (List.takeWhile Char.isDigit) last
  rw [dotless, dotless] at digits
  have values := congrArg Text.digitsValue digits
  rw [Text.digitsValue_padZeros, Text.digitsValue_padZeros] at values
  exact Nat.succ.inj values

end OutputNamer

end ArtifactPipeline
