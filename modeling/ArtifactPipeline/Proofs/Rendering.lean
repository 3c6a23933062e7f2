import ArtifactPipeline.Template
import Mathlib.Data.List.Infix

set_option autoImplicit false

namespace ArtifactPipeline

namespace Text

theorem replaceFrom_append (old new skipped rest : List Char) :
    replaceFrom old new skipped.length (skipped ++ rest) = replaceFrom old new 0 rest := by
  induction skipped with
  | nil => rfl
  | cons c skipped ih => simpa [replaceFrom] using ih

theorem replace_occurrence {first : Char} {old new rest : List Char} :
    replace (first :: old) new (first :: old ++ rest) = new ++ replace (first :: old) new rest := by
  have here : (first :: old).isPrefixOf (first :: (old ++ rest)) = true := by simp
  rw [replace, List.cons_append, replaceFrom, if_pos here, List.length_cons, Nat.add_sub_cancel,
    replaceFrom_append, replace]

theorem replace_cons {old new rest : List Char} {c : Char} (apart : ¬old <+: c :: rest) :
    replace old new (c :: rest) = c :: replace old new rest := by
  have elsewhere : ¬old.isPrefixOf (c :: rest) = true := by
    rwa [List.isPrefixOf_iff_prefix]
  rw [replace, replaceFrom, if_neg elsewhere, replace]

theorem replace_append {first : Char} {old new front rest : List Char} (clean : first ∉ front) :
    replace (first :: old) new (front ++ rest) = front ++ replace (first :: old) new rest := by
  induction front with
  | nil => rfl
  | cons c front ih =>
      rw [List.mem_cons, not_or] at clean
      have apart : ¬first :: old <+: c :: (front ++ rest) := by
        rw [List.cons_prefix_cons]
        exact fun begins => clean.1 begins.1
      rw [List.cons_append, replace_cons apart, ih clean.2, List.cons_append]

end Text

namespace Placeholder

theorem clean_name (p : Placeholder) : '\x7b' ∉ p.name.toList ∧ '\x7d' ∉ p.name.toList := by
  cases p <;> decide

theorem name_injective {p q : Placeholder} (same : p.name.toList = q.name.toList) : p = q := by
  revert same
  cases p <;> cases q <;> decide

theorem eq_of_prefix {p q : Placeholder} {rest : List Char}
    (found : p.pattern <+: q.pattern ++ rest) : p = q := by
  obtain ⟨tail, split⟩ := found
  -- Each name ends where the first brace closes.
  have name (placeholder : Placeholder) (more : List Char) :
      (placeholder.pattern ++ more).tail.takeWhile (fun c => c != '\x7d') =
        placeholder.name.toList := by
    have clean : ∀ c ∈ placeholder.name.toList, (c != '\x7d') = true := by
      intro c member
      refine bne_iff_ne.mpr ?_
      rintro rfl
      exact placeholder.clean_name.2 member
    simp [pattern, List.takeWhile_append_of_pos clean]
  have names := congrArg (fun text => text.tail.takeWhile fun c => c != '\x7d') split
  simp only [name] at names
  exact name_injective names

end Placeholder

namespace Template

inductive Piece where
  | char (c : Char)
  | slot (name : List Char)
  deriving DecidableEq, Repr

namespace Piece

def text : Piece → List Char
  | .char c => [c]
  | .slot name => '\x7b' :: name ++ ['\x7d']

def name? : Piece → Option (List Char)
  | .char _ => none
  | .slot name => some name

/-- The piece with its value in place of the placeholder. A slot that has none stays. -/
def fill (ctx : Context) (piece : Piece) : List Char :=
  match piece with
  | .char c => [c]
  | .slot name =>
      match (Placeholder.all.find? fun p => p.name.toList == name).bind ctx.value? with
      | some value => value.toList
      | none => piece.text

def put (ctx : Context) (p : Placeholder) (piece : Piece) : List Piece :=
  match ctx.value? p with
  | some value => if piece = .slot p.name.toList then value.toList.map .char else [piece]
  | none => [piece]

end Piece

-- `opened` is as in `scan`. What follows a brace that is never closed stands for itself.
def piecesFrom (opened : Option (List Char)) : List Char → List Piece
  | [] =>
      match opened with
      | none => []
      | some name => ('\x7b' :: name.reverse).map .char
  | c :: rest =>
      match opened with
      | none => if c = '\x7b' then piecesFrom (some []) rest else .char c :: piecesFrom none rest
      | some name =>
          if c = '\x7d' then .slot name.reverse :: piecesFrom none rest
          else piecesFrom (some (c :: name)) rest

def pieces (template : String) : List Piece :=
  piecesFrom none template.toList

def spell (pieces : List Piece) : List Char :=
  pieces.flatMap Piece.text

/-- Copies a template from left to right and writes the value of each placeholder on the way. -/
def pass (ctx : Context) (template : String) : String :=
  String.ofList ((pieces template).flatMap (Piece.fill ctx))

@[simp] theorem spell_nil : spell [] = [] := rfl

@[simp] theorem spell_cons (piece : Piece) (rest : List Piece) :
    spell (piece :: rest) = piece.text ++ spell rest := by
  simp [spell]

@[simp] theorem spell_append (front rest : List Piece) :
    spell (front ++ rest) = spell front ++ spell rest := by
  simp [spell]

@[simp] theorem spell_chars (text : List Char) : spell (text.map .char) = text := by
  induction text with
  | nil => rfl
  | cons c text ih => simp [ih, Piece.text]

theorem spell_piecesFrom (opened : Option (List Char)) (text : List Char) :
    spell (piecesFrom opened text) =
      (opened.map fun name => '\x7b' :: name.reverse).getD [] ++ text := by
  induction text generalizing opened with
  | nil =>
      cases opened with
      | none => rfl
      | some name => exact (spell_chars _).trans (List.append_nil _).symm
  | cons c rest ih =>
      cases opened with
      | none =>
          rw [piecesFrom]
          split_ifs with brace
          · simp [ih, brace]
          · simp [ih, Piece.text]
      | some name =>
          rw [piecesFrom]
          split_ifs with brace
          · simp [ih, Piece.text, brace]
          · simp [ih]

theorem spell_pieces (template : String) : spell (pieces template) = template.toList :=
  spell_piecesFrom none template.toList

theorem scan_eq (opened : Option (List Char)) (text : List Char) :
    scan opened text = (piecesFrom opened text).filterMap Piece.name? := by
  induction text generalizing opened with
  | nil =>
      cases opened with
      | none => rfl
      | some name => simp [scan, piecesFrom, Piece.name?]
  | cons c rest ih =>
      cases opened with
      | none =>
          simp only [scan, piecesFrom, ih]
          split_ifs <;> rfl
      | some name =>
          simp only [scan, piecesFrom, ih]
          split_ifs <;> rfl

theorem placeholders_eq (template : String) :
    placeholders template = ((pieces template).filterMap Piece.name?).map String.ofList := by
  rw [placeholders, scan_eq, pieces]

def Closed (pieces : List Piece) : Prop :=
  pieces.Pairwise fun first later => first = .char '\x7b' → '\x7d' ∉ later.text

theorem closed_piecesFrom (opened : Option (List Char)) (text : List Char)
    (clean : ∀ name, opened = some name → '\x7d' ∉ name) : Closed (piecesFrom opened text) := by
  induction text generalizing opened with
  | nil =>
      cases opened with
      | none => exact List.Pairwise.nil
      | some name =>
          -- The name was never closed, and so it has no closing brace.
          have unclosed := clean name rfl
          refine List.pairwise_map.mpr (List.pairwise_of_forall_mem_list ?_)
          intro first _ later member _
          have other : later ≠ '\x7d' := by
            rintro rfl
            simp [unclosed] at member
          simpa [Piece.text] using Ne.symm other
  | cons c rest ih =>
      cases opened with
      | none =>
          rw [piecesFrom]
          split_ifs with brace
          · exact ih _ (by simp)
          · refine List.pairwise_cons.mpr ⟨?_, ih none (by simp)⟩
            rintro later - opens
            cases opens
            exact absurd rfl brace
      | some name =>
          rw [piecesFrom]
          split_ifs with brace
          · refine List.pairwise_cons.mpr ⟨?_, ih none (by simp)⟩
            rintro later - opens
            cases opens
          · refine ih _ ?_
            rintro longer ⟨⟩
            rw [List.mem_cons, not_or]
            exact ⟨Ne.symm brace, clean name rfl⟩

def Braceless (text : List Char) : Prop :=
  '\x7b' ∉ text ∧ '\x7d' ∉ text

instance (text : List Char) : Decidable (Braceless text) :=
  inferInstanceAs (Decidable (_ ∧ _))

structure Ready (ctx : Context) (pieces : List Piece) : Prop where
  closed : Closed pieces
  valued : ∀ name, .slot name ∈ pieces → ∃ p value,
    p.name.toList = name ∧ ctx.value? p = some value ∧ Braceless value.toList

variable {ctx : Context}

theorem Ready.tail {piece : Piece} {rest : List Piece} (ready : Ready ctx (piece :: rest)) :
    Ready ctx rest where
  closed := (List.pairwise_cons.mp ready.closed).2
  valued name member := ready.valued name (List.mem_cons_of_mem _ member)

theorem Ready.replace_spell {pieces : List Piece} (ready : Ready ctx pieces) (p : Placeholder)
    (value : List Char) :
    Text.replace p.pattern value (spell pieces) =
      spell (pieces.flatMap fun piece =>
        if piece = .slot p.name.toList then value.map .char else [piece]) := by
  induction pieces with
  | nil => rfl
  | cons piece rest ih =>
      have later := ih ready.tail
      rw [spell_cons, List.flatMap_cons, spell_append, ← later]
      obtain ⟨opensClean, closesClean⟩ := p.clean_name
      cases piece with
      | char c =>
          -- A loose brace begins no occurrence, since nothing closes it.
          have apart : ¬p.pattern <+: c :: spell rest := by
            rintro ⟨tail, split⟩
            simp only [Placeholder.pattern, List.cons_append, List.cons.injEq] at split
            obtain ⟨rfl, split⟩ := split
            have closing : '\x7d' ∈ spell rest := by simp [← split]
            obtain ⟨piece, member, within⟩ := List.mem_flatMap.mp closing
            exact (List.pairwise_cons.mp ready.closed).1 piece member rfl within
          simpa [Piece.text] using Text.replace_cons apart
      | slot name =>
          obtain ⟨q, own, named, -, -⟩ := ready.valued name (by simp)
          subst named
          by_cases same : p = q
          · subst same
            have occurrence : Text.replace p.pattern value (p.pattern ++ spell rest) =
                value ++ Text.replace p.pattern value (spell rest) := Text.replace_occurrence
            simpa [Piece.text, Placeholder.pattern] using occurrence
          · -- A slot of another name is passed over, brace by brace.
            have other : q.name.toList ≠ p.name.toList :=
              fun equal => same (Placeholder.name_injective equal.symm)
            have apart : ¬p.pattern <+: q.pattern ++ spell rest :=
              fun found => same (Placeholder.eq_of_prefix found)
            have clean : '\x7b' ∉ q.name.toList ++ ['\x7d'] := by
              simp [q.clean_name.1]
            calc Text.replace p.pattern value (q.pattern ++ spell rest)
                = '\x7b' :: Text.replace p.pattern value
                    (q.name.toList ++ ['\x7d'] ++ spell rest) := Text.replace_cons apart
              _ = q.pattern ++ Text.replace p.pattern value (spell rest) :=
                  congrArg _ (Text.replace_append clean)
              _ = _ := by simp [other, Piece.text, Placeholder.pattern]

theorem Ready.substitute_spell {pieces : List Piece} (ready : Ready ctx pieces) (p : Placeholder) :
    substitute ctx (spell pieces) p = spell (pieces.flatMap (Piece.put ctx p)) := by
  unfold substitute Piece.put
  cases ctx.value? p with
  | none => simp
  | some value => exact ready.replace_spell p value.toList

theorem Ready.put_cases {pieces : List Piece} (ready : Ready ctx pieces) (p : Placeholder)
    {piece : Piece} (member : piece ∈ pieces) :
    piece.put ctx p = [piece] ∨ ∃ text, Braceless text ∧ piece.put ctx p = text.map .char := by
  unfold Piece.put
  cases known : ctx.value? p with
  | none => exact .inl rfl
  | some value =>
      dsimp only
      split_ifs with own
      · obtain ⟨q, other, named, valued, braceless⟩ := ready.valued _ (own ▸ member)
        obtain rfl := Placeholder.name_injective named
        obtain rfl : other = value := Option.some.inj (valued.symm.trans known)
        exact .inr ⟨_, braceless, rfl⟩
      · exact .inl rfl

theorem Ready.mem_put {pieces : List Piece} (ready : Ready ctx pieces) {p : Placeholder}
    {piece new : Piece} (old : piece ∈ pieces) (member : new ∈ piece.put ctx p) :
    new = piece ∨ ∃ c, new = .char c ∧ c ≠ '\x7b' ∧ c ≠ '\x7d' := by
  rcases ready.put_cases p old with kept | ⟨text, braceless, placed⟩
  · rw [kept] at member
    exact .inl (List.mem_singleton.mp member)
  · rw [placed] at member
    obtain ⟨c, within, rfl⟩ := List.mem_map.mp member
    exact .inr ⟨c, rfl, fun opens => braceless.1 (opens ▸ within),
      fun closes => braceless.2 (closes ▸ within)⟩

theorem Ready.put {pieces : List Piece} (ready : Ready ctx pieces) (p : Placeholder) :
    Ready ctx (pieces.flatMap (Piece.put ctx p)) where
  closed := by
    refine List.pairwise_flatMap.mpr ⟨fun piece old => ?_, ?_⟩
    · rcases ready.put_cases p old with kept | ⟨text, braceless, placed⟩
      · rw [kept]
        exact List.pairwise_singleton _ _
      · rw [placed, List.pairwise_map]
        refine List.pairwise_of_forall_mem_list fun c member _ _ opens => ?_
        cases opens
        exact absurd member braceless.1
    · refine ready.closed.imp_of_mem fun {first later} memberFirst memberLater apart => ?_
      intro new fromFirst other fromLater opens
      -- A brace that opens is no part of a value, and so it was there before.
      have kept : new = first := by
        rcases ready.mem_put memberFirst fromFirst with same | ⟨c, rfl, open', -⟩
        · exact same
        · cases opens
          exact absurd rfl open'
      rcases ready.mem_put memberLater fromLater with rfl | ⟨c, rfl, -, close⟩
      · exact apart (kept ▸ opens)
      · simpa [Piece.text] using close.symm
  valued name member := by
    obtain ⟨piece, old, within⟩ := List.mem_flatMap.mp member
    rcases ready.mem_put old within with rfl | ⟨c, other, -⟩
    · exact ready.valued name old
    · cases other

theorem fill_put (p : Placeholder) (piece : Piece) :
    (piece.put ctx p).flatMap (Piece.fill ctx) = piece.fill ctx := by
  unfold Piece.put
  cases known : ctx.value? p with
  | none => simp
  | some value =>
      dsimp only
      split_ifs with own
      · have found : (Placeholder.all.find? fun q => q.name.toList == p.name.toList) = some p := by
          cases p <;> decide
        subst own
        simp [Piece.fill, found, known, List.flatMap_map]
      · simp

theorem Ready.foldl_substitute {pieces : List Piece} (ready : Ready ctx pieces)
    (order : List Placeholder) :
    ∃ left, order.foldl (substitute ctx) (spell pieces) = spell left ∧ Ready ctx left ∧
      left.flatMap (Piece.fill ctx) = pieces.flatMap (Piece.fill ctx) ∧
        ∀ name, .slot name ∈ left → .slot name ∈ pieces ∧
          ∀ p ∈ order, p.name.toList ≠ name := by
  -- Each substitution changes the pieces, but not what the pass makes of them.
  induction order generalizing pieces with
  | nil => exact ⟨pieces, rfl, ready, rfl, fun name member => ⟨member, by simp⟩⟩
  | cons p order ih =>
      obtain ⟨left, rendered, ready', filled, slots⟩ := ih (ready.put p)
      refine ⟨left, ?_, ready', ?_, fun name member => ?_⟩
      · rw [List.foldl_cons, ready.substitute_spell, rendered]
      · rw [filled, List.flatMap_assoc]
        simp only [fill_put]
      · obtain ⟨next, others⟩ := slots name member
        obtain ⟨piece, old, within⟩ := List.mem_flatMap.mp next
        have kept : .slot name = piece := by
          rcases ready.mem_put old within with same | ⟨c, other, -⟩
          · exact same
          · cases other
        subst kept
        refine ⟨old, List.forall_mem_cons.mpr ⟨?_, others⟩⟩
        rintro rfl
        -- The placeholder has a value, and its own substitution would have used it.
        obtain ⟨q, value, named, valued, -⟩ := ready.valued _ old
        obtain rfl := Placeholder.name_injective named
        simp [Piece.put, valued] at within

theorem spell_eq_fill {pieces : List Piece} (slotless : ∀ name, .slot name ∉ pieces) :
    spell pieces = pieces.flatMap (Piece.fill ctx) := by
  refine List.flatMap_congr fun piece member => ?_
  cases piece with
  | char c => rfl
  | slot name => exact absurd member (slotless name)

theorem Closed.not_infix {pieces : List Piece} (closed : Closed pieces)
    (slotless : ∀ name, .slot name ∉ pieces) (p : Placeholder) : ¬p.pattern <:+: spell pieces := by
  have apart : (spell pieces).Pairwise fun first later => first = '\x7b' → later ≠ '\x7d' := by
    refine List.pairwise_flatMap.mpr ⟨fun piece member => ?_, ?_⟩
    · cases piece with
      | char c => exact List.pairwise_singleton _ _
      | slot name => exact absurd member (slotless name)
    · refine closed.imp_of_mem fun {first later} memberFirst _ apart => ?_
      intro c inFirst d inLater opens closes
      cases first with
      | char e =>
          obtain rfl := List.mem_singleton.mp inFirst
          exact apart (congrArg Piece.char opens) (closes ▸ inLater)
      | slot name => exact slotless name memberFirst
  intro found
  have within := apart.sublist found.sublist
  rw [Placeholder.pattern, List.cons_append, List.pairwise_cons] at within
  exact within.1 '\x7d' (by simp) rfl rfl

/-- A template whose names all have values without braces is rendered in one pass: substituting one
placeholder after another gives the same in any order, and no placeholder is left or comes
about. -/
theorem render_eq_pass (ctx : Context) (template : String) (available : List Placeholder)
    (named : ∀ name ∈ placeholders template, name ∈ available.map Placeholder.name)
    (valued : ∀ p ∈ available, ∃ value, ctx.value? p = some value ∧ Braceless value.toList) :
    render ctx template = pass ctx template ∧
      (∀ order : List Placeholder, order.Perm Placeholder.all →
        String.ofList (order.foldl (substitute ctx) template.toList) = pass ctx template) ∧
      ∀ p : Placeholder, ¬p.pattern <:+: (render ctx template).toList := by
  have ready : Ready ctx (pieces template) := by
    refine ⟨closed_piecesFrom none _ (by simp), fun name member => ?_⟩
    have scanned : String.ofList name ∈ placeholders template := by
      rw [placeholders_eq]
      exact List.mem_map_of_mem (List.mem_filterMap.mpr ⟨_, member, rfl⟩)
    obtain ⟨p, listed, same⟩ := List.mem_map.mp (named _ scanned)
    obtain ⟨value, known, braceless⟩ := valued p listed
    exact ⟨p, value, by rw [same, String.toList_ofList], known, braceless⟩
  have each (order : List Placeholder) (perm : order.Perm Placeholder.all) :
      String.ofList (order.foldl (substitute ctx) template.toList) = pass ctx template ∧
        ∀ p : Placeholder, ¬p.pattern <:+: order.foldl (substitute ctx) template.toList := by
    obtain ⟨left, rendered, ready', filled, slots⟩ := ready.foldl_substitute order
    have slotless (name : List Char) : .slot name ∉ left := by
      intro member
      obtain ⟨old, others⟩ := slots name member
      obtain ⟨p, -, same, -⟩ := ready.valued name old
      exact others p (perm.mem_iff.mpr p.mem_all) same
    rw [spell_pieces] at rendered
    rw [rendered]
    refine ⟨?_, ready'.closed.not_infix slotless⟩
    rw [pass, spell_eq_fill slotless, filled]
  have whole := each Placeholder.all (List.Perm.refl _)
  refine ⟨whole.1, fun order perm => (each order perm).1, fun p => ?_⟩
  rw [render, String.toList_ofList]
  exact whole.2 p

def looseBraces : String := "\x7d\x7bdataset\x7d\x7d/\x7bnproc\x7d\x7b\x7b"

theorem render_eq_pass_looseBraces :
    placeholders looseBraces = ["dataset", "nproc"] ∧
      render { dataset := some "city", nproc := 8 } looseBraces = "\x7dcity\x7d/8\x7b\x7b" ∧
      render { dataset := some "city", nproc := 8 } looseBraces =
        pass { dataset := some "city", nproc := 8 } looseBraces := by
  have found : placeholders looseBraces = ["dataset", "nproc"] := by decide +kernel
  refine ⟨found, by decide +kernel, ?_⟩
  refine (render_eq_pass _ looseBraces [.dataset, .nproc] ?_ ?_).1
  · rw [found]
    decide
  · intro p listed
    simp only [List.mem_cons, List.not_mem_nil, or_false] at listed
    rcases listed with rfl | rfl
    · exact ⟨_, rfl, by decide⟩
    · exact ⟨_, rfl, by decide +kernel⟩

end Template

end ArtifactPipeline
