import ArtifactPipeline.Proofs.SequentialRehearsal

set_option autoImplicit false

namespace ArtifactPipeline

namespace Text

theorem utf8_ofList (chars : List Char) :
    utf8 (String.ofList chars) = chars.flatMap String.utf8EncodeChar := by
  have listed : utf8 (String.ofList chars) = (String.ofList chars).toByteArray.data.toList :=
    toList_loop _ 0 []
  rw [listed, String.toByteArray_ofList, List.utf8Encode, List.toList_data_toByteArray]

theorem utf8EncodeChar_append_inj {c d : Char} {xs ys : List UInt8}
    (same : String.utf8EncodeChar c ++ xs = String.utf8EncodeChar d ++ ys) : c = d ∧ xs = ys := by
  have decoded : some c = some d := by
    rw [← ByteArray.utf8DecodeChar?_utf8EncodeChar_append (b := xs.toByteArray) (c := c),
      ← ByteArray.utf8DecodeChar?_utf8EncodeChar_append (b := ys.toByteArray) (c := d),
      ← List.toByteArray_append, ← List.toByteArray_append, same]
  obtain rfl := Option.some.inj decoded
  exact ⟨rfl, List.append_cancel_left same⟩

theorem slash_mem_utf8EncodeChar {c : Char} :
    Glob.slash ∈ String.utf8EncodeChar c ↔ c = '/' := by
  constructor
  · intro member
    have bytes (n : Nat) (byte : Glob.slash = UInt8.ofNat n) : n % 256 = 47 := by
      have same := congrArg UInt8.toNat byte
      simpa [Glob.slash, eq_comm] using same
    unfold String.utf8EncodeChar at member
    dsimp only at member
    split_ifs at member <;> simp only [List.mem_cons, List.not_mem_nil, or_false] at member
    · have value := bytes _ member
      apply Char.ext
      apply UInt32.toNat_inj.mp
      change c.val.toNat = 47
      omega
    · rcases member with byte | byte <;> have value := bytes _ byte <;> omega
    · rcases member with byte | byte | byte <;> have value := bytes _ byte <;> omega
    · rcases member with byte | byte | byte | byte <;> have value := bytes _ byte <;> omega
  · rintro rfl
    decide

theorem flatMap_encode_prefix {front chars : List Char} {rest : List UInt8}
    (split : chars.flatMap String.utf8EncodeChar =
      front.flatMap String.utf8EncodeChar ++ rest) :
    ∃ more, chars = front ++ more ∧ more.flatMap String.utf8EncodeChar = rest := by
  induction front generalizing chars with
  | nil => exact ⟨chars, rfl, split⟩
  | cons c front ih =>
      cases chars with
      | nil =>
          simp [String.utf8EncodeChar_ne_nil] at split
      | cons d chars =>
          rw [List.flatMap_cons, List.flatMap_cons, List.append_assoc] at split
          obtain ⟨rfl, later⟩ := utf8EncodeChar_append_inj split
          obtain ⟨more, rfl, left⟩ := ih later
          exact ⟨more, rfl, left⟩

theorem flatMap_encode_slash {chars : List Char} {front back : List UInt8}
    (split : chars.flatMap String.utf8EncodeChar = front ++ Glob.slash :: back) :
    ∃ before after, chars = before ++ '/' :: after ∧
      before.flatMap String.utf8EncodeChar = front ∧
      after.flatMap String.utf8EncodeChar = back := by
  induction chars generalizing front with
  | nil => simp at split
  | cons c chars ih =>
      rw [List.flatMap_cons] at split
      rcases List.append_eq_append_iff.mp split with ⟨more, rfl, later⟩ | ⟨more, whole, later⟩
      · obtain ⟨before, after, rfl, left, right⟩ := ih later
        exact ⟨c :: before, after, rfl, by simp [left], right⟩
      · cases more with
        | nil =>
            rw [List.append_nil] at whole
            have next : chars.flatMap String.utf8EncodeChar = [] ++ Glob.slash :: back := by
              simpa using later.symm
            obtain ⟨before, after, rfl, left, right⟩ := ih next
            exact ⟨c :: before, after, rfl, by simp [left, whole], right⟩
        | cons b more =>
            -- The slash is a byte of the first character, which is a slash itself then.
            obtain ⟨rfl, rest⟩ := List.cons.inj later
            obtain rfl := slash_mem_utf8EncodeChar.mp (by rw [whole]; simp)
            have alone : [Glob.slash] = front ++ Glob.slash :: more := whole
            cases front with
            | nil =>
                obtain rfl : more = [] := by simpa using alone
                exact ⟨[], chars, rfl, rfl, by simpa using rest.symm⟩
            | cons d front => simp at alone

theorem flatMap_encode_slash_head {chars : List Char} {back : List UInt8}
    (split : chars.flatMap String.utf8EncodeChar = Glob.slash :: back) :
    ∃ after, chars = '/' :: after ∧ after.flatMap String.utf8EncodeChar = back := by
  rw [← List.nil_append (Glob.slash :: back)] at split
  obtain ⟨before, after, rfl, empty, right⟩ := flatMap_encode_slash split
  cases before with
  | nil => exact ⟨after, rfl, right⟩
  | cons c before => simp [String.utf8EncodeChar_ne_nil] at empty

end Text

namespace Glob

mutual

def Token.Accepts : Token → Bytes → Prop
  | .literal c, part => part = String.utf8EncodeChar c
  | .any, part => ∃ b, b ≠ slash ∧ part = [b]
  | .star, part => slash ∉ part
  | .treeStart, part => part = [] ∨ ∃ front, part = front ++ [slash]
  | .treeEnd, part => ∃ rest, part = slash :: rest
  | .treeBetween, part => part = [slash] ∨ ∃ between, part = slash :: (between ++ [slash])
  | .charClass negated ranges, part => ∃ b, inClass negated ranges b = true ∧ part = [b]
  | .choice branches, part => (allVoid branches = true ∧ part = []) ∨ AcceptsAny branches part

def AcceptsSeq : List Token → Bytes → Prop
  | [], part => part = []
  | token :: rest, part =>
      ∃ front back, part = front ++ back ∧ token.Accepts front ∧ AcceptsSeq rest back

def AcceptsAny : List (List Token) → Bytes → Prop
  | [], _ => False
  | branch :: rest, part =>
      (isVoidSeq branch = false ∧ AcceptsSeq branch part) ∨ AcceptsAny rest part

end

theorem mem_afterBytes {bytes text rest : Bytes} :
    rest ∈ (afterBytes bytes text).toList ↔ text = bytes ++ rest := by
  induction bytes generalizing text with
  | nil => simp [afterBytes, eq_comm]
  | cons b bytes ih =>
      cases text with
      | nil => simp [afterBytes]
      | cons c text =>
          by_cases same : b = c
          · simp [afterBytes, same, ih]
          · simp [afterBytes, same, Ne.symm same]

theorem mem_afterNames {text rest : Bytes} :
    rest ∈ afterNames text ↔ ∃ part, text = part ++ rest ∧ slash ∉ part := by
  induction text with
  | nil => simp [afterNames]
  | cons b text ih =>
      rw [afterNames, List.mem_cons]
      constructor
      · rintro (rfl | later)
        · exact ⟨[], by simp⟩
        · by_cases same : b = slash
          · simp [same] at later
          · rw [if_neg same] at later
            obtain ⟨part, rfl, clean⟩ := ih.mp later
            exact ⟨b :: part, by simp, by simp [Ne.symm same, clean]⟩
      · rintro ⟨part, split, clean⟩
        cases part with
        | nil => exact .inl (by simpa using split.symm)
        | cons c part =>
            obtain ⟨rfl, rfl⟩ := List.cons.inj split
            rw [List.mem_cons, not_or] at clean
            right
            rw [if_neg (Ne.symm clean.1)]
            exact ih.mpr ⟨part, rfl, clean.2⟩

theorem mem_tails {text rest : Bytes} : rest ∈ tails text ↔ ∃ part, text = part ++ rest := by
  induction text with
  | nil => simp [tails]
  | cons b text ih =>
      rw [tails, List.mem_cons, ih]
      constructor
      · rintro (rfl | ⟨part, rfl⟩)
        · exact ⟨[], rfl⟩
        · exact ⟨b :: part, rfl⟩
      · rintro ⟨part, split⟩
        cases part with
        | nil => exact .inl split.symm
        | cons c part => exact .inr ⟨part, (List.cons.inj split).2⟩

theorem mem_afterSlashes {text rest : Bytes} :
    rest ∈ afterSlashes text ↔ ∃ front, text = front ++ slash :: rest := by
  induction text with
  | nil => simp [afterSlashes]
  | cons b text ih =>
      have later : rest ∈ afterSlashes text ↔ ∃ front, b :: text = b :: front ++ slash :: rest := by
        simp [ih]
      rw [afterSlashes]
      constructor
      · split_ifs with same
        · rw [List.mem_cons, later]
          rintro (rfl | ⟨front, split⟩)
          · exact ⟨[], by simp [same]⟩
          · exact ⟨b :: front, by simpa using split⟩
        · rw [later]
          rintro ⟨front, split⟩
          exact ⟨b :: front, by simpa using split⟩
      · rintro ⟨front, split⟩
        cases front with
        | nil =>
            obtain ⟨rfl, rfl⟩ := List.cons.inj split
            simp
        | cons c front =>
            obtain ⟨rfl, after⟩ := List.cons.inj split
            have found : rest ∈ afterSlashes text := ih.mpr ⟨front, after⟩
            split_ifs
            · exact List.mem_cons_of_mem _ found
            · exact found

mutual

theorem Token.mem_rests (token : Token) (text rest : Bytes) :
    rest ∈ token.rests text ↔ ∃ part, text = part ++ rest ∧ token.Accepts part :=
  match token with
  | .literal c => by
      rw [Token.rests, mem_afterBytes]
      simp [Token.Accepts]
  | .any => by
      cases text with
      | nil => simp [Token.rests, Token.Accepts]
      | cons b text =>
          by_cases same : b = slash <;>
            simp [Token.rests, Token.Accepts, same, eq_comm]
  | .star => by simp [Token.rests, Token.Accepts, mem_afterNames]
  | .treeStart => by
      simp only [Token.rests, Token.Accepts, List.mem_cons, mem_afterSlashes]
      constructor
      · rintro (rfl | ⟨front, rfl⟩)
        · exact ⟨[], rfl, .inl rfl⟩
        · exact ⟨front ++ [slash], by simp, .inr ⟨front, rfl⟩⟩
      · rintro ⟨_, rfl, rfl | ⟨front, rfl⟩⟩
        · exact .inl rfl
        · exact .inr ⟨front, by simp⟩
  | .treeEnd => by
      cases text with
      | nil => simp [Token.rests, Token.Accepts]
      | cons b text =>
          by_cases same : b = slash
          · simp only [Token.rests, Token.Accepts, same, if_true, mem_tails]
            constructor
            · rintro ⟨part, rfl⟩
              exact ⟨slash :: part, rfl, part, rfl⟩
            · rintro ⟨_, split, part, rfl⟩
              exact ⟨part, (List.cons.inj split).2⟩
          · simp only [Token.rests, Token.Accepts, same, if_false]
            refine ⟨nofun, ?_⟩
            rintro ⟨_, split, part, rfl⟩
            exact absurd (List.cons.inj split).1 same
  | .treeBetween => by
      cases text with
      | nil => simp [Token.rests, Token.Accepts]
      | cons b text =>
          by_cases same : b = slash
          · simp only [Token.rests, Token.Accepts, same, if_true, List.mem_cons, mem_afterSlashes]
            constructor
            · rintro (rfl | ⟨front, rfl⟩)
              · exact ⟨[slash], rfl, .inl rfl⟩
              · exact ⟨slash :: (front ++ [slash]), by simp, .inr ⟨front, rfl⟩⟩
            · rintro ⟨_, split, rfl | ⟨front, rfl⟩⟩
              · exact .inl (List.cons.inj split).2.symm
              · exact .inr ⟨front, by simpa using split⟩
          · simp only [Token.rests, Token.Accepts, same, if_false]
            refine ⟨nofun, ?_⟩
            rintro ⟨_, split, rfl | ⟨front, rfl⟩⟩ <;> exact absurd (List.cons.inj split).1 same
  | .charClass negated ranges => by
      cases text with
      | nil => simp [Token.rests, Token.Accepts]
      | cons b text =>
          by_cases member : inClass negated ranges b = true
          · simp only [Token.rests, Token.Accepts, member, if_true, List.mem_singleton]
            constructor
            · rintro rfl
              exact ⟨[b], rfl, b, member, rfl⟩
            · rintro ⟨_, split, c, -, rfl⟩
              exact (List.cons.inj split).2.symm
          · simp only [Token.rests, Token.Accepts, member]
            refine ⟨nofun, ?_⟩
            rintro ⟨_, split, c, accepted, rfl⟩
            exact absurd ((List.cons.inj split).1 ▸ accepted) member
  | .choice branches => by
      have some_ := mem_choiceRests branches text rest
      by_cases void : allVoid branches = true
      · simp only [Token.rests, Token.Accepts, void, if_true, List.mem_singleton, true_and]
        constructor
        · rintro rfl
          exact ⟨[], rfl, .inl rfl⟩
        · rintro ⟨_, rfl, rfl | accepted⟩
          · rfl
          · exact absurd accepted (not_acceptsAny_of_allVoid branches void _)
      · simpa [Token.rests, Token.Accepts, void] using some_

theorem mem_seqRests (tokens : List Token) (texts : List Bytes) (rest : Bytes) :
    rest ∈ seqRests tokens texts ↔
      ∃ text ∈ texts, ∃ part, text = part ++ rest ∧ AcceptsSeq tokens part :=
  match tokens with
  | [] => by simp [seqRests, AcceptsSeq]
  | token :: tokens => by
      rw [seqRests, mem_seqRests tokens]
      constructor
      · rintro ⟨between, member, back, rfl, later⟩
        rw [List.mem_eraseDups, List.mem_flatMap] at member
        obtain ⟨text, given, left⟩ := member
        obtain ⟨front, rfl, first⟩ := (token.mem_rests text _).mp left
        exact ⟨_, given, front ++ back, by simp, front, back, rfl, first, later⟩
      · rintro ⟨_, given, _, rfl, front, back, rfl, first, later⟩
        refine ⟨back ++ rest, ?_, back, rfl, later⟩
        rw [List.mem_eraseDups, List.mem_flatMap]
        exact ⟨_, given, (token.mem_rests _ _).mpr ⟨front, by simp, first⟩⟩

theorem mem_choiceRests (branches : List (List Token)) (text rest : Bytes) :
    rest ∈ choiceRests branches text ↔ ∃ part, text = part ++ rest ∧ AcceptsAny branches part :=
  match branches with
  | [] => by simp [choiceRests, AcceptsAny]
  | branch :: branches => by
      have first := mem_seqRests branch [text] rest
      have others := mem_choiceRests branches text rest
      -- A branch that can only be empty is dropped from the choice.
      by_cases void : isVoidSeq branch = true
      · simp [choiceRests, AcceptsAny, void, others]
      · rw [choiceRests, if_neg void, List.mem_append, first, others]
        simp [AcceptsAny, void, and_or_left, exists_or, eq_comm]

theorem not_acceptsAny_of_allVoid (branches : List (List Token)) (void : allVoid branches = true)
    (part : Bytes) : ¬AcceptsAny branches part :=
  match branches with
  | [] => by simp [AcceptsAny]
  | branch :: branches => by
      rw [allVoid, Bool.and_eq_true] at void
      simp [AcceptsAny, void.1, not_acceptsAny_of_allVoid branches void.2 part]

end

theorem isMatch_iff (tokens : List Token) (text : Bytes) :
    isMatch tokens text = true ↔ tokens = [.treeStart] ∨ AcceptsSeq tokens text := by
  unfold isMatch
  split
  · simp
  · rename_i other
    rw [List.any_eq_true]
    constructor
    · rintro ⟨rest, member, empty⟩
      obtain ⟨text, given, part, split, accepted⟩ := (mem_seqRests tokens _ _).mp member
      rw [List.isEmpty_iff.mp empty, List.append_nil] at split
      rw [List.mem_singleton.mp given] at split
      exact .inr (split ▸ accepted)
    · rintro (rfl | accepted)
      · exact absurd rfl other
      · exact ⟨[], (mem_seqRests tokens _ _).mpr
          ⟨text, List.mem_singleton_self _, text, by simp, accepted⟩, rfl⟩

theorem acceptsSeq_append {front back : List Token} {part : Bytes} :
    AcceptsSeq (front ++ back) part ↔
      ∃ first rest, part = first ++ rest ∧ AcceptsSeq front first ∧ AcceptsSeq back rest := by
  induction front generalizing part with
  | nil => simp [AcceptsSeq]
  | cons token front ih =>
      simp only [List.cons_append, AcceptsSeq, ih]
      constructor
      · rintro ⟨first, _, rfl, accepted, middle, rest, rfl, more, last⟩
        exact ⟨first ++ middle, rest, by simp, ⟨first, middle, rfl, accepted, more⟩, last⟩
      · rintro ⟨_, rest, rfl, ⟨first, middle, rfl, accepted, more⟩, last⟩
        exact ⟨first, middle ++ rest, by simp, accepted, middle, rest, rfl, more, last⟩

def Above (kind : Token → Prop) (base tokens : List Token) : Prop :=
  ∃ upper token, kind token ∧ tokens = upper ++ token :: base

def outermost : List (List Token × List (List Token)) → List Token → List Token
  | [], current => current
  | (outer, _) :: rest, _ => outermost rest outer

def Builder.outer (b : Builder) : List Token :=
  outermost b.enclosing b.current

section

variable {kind : Token → Prop} {base : List Token} {b : Builder}

theorem Above.push {tokens : List Token} (above : Above kind base tokens) (token : Token) :
    Above kind base (token :: tokens) := by
  obtain ⟨upper, known, ofKind, rfl⟩ := above
  exact ⟨token :: upper, known, ofKind, rfl⟩

theorem Above.exchange {old token : Token} {tokens : List Token} (ofKind : kind token)
    (above : Above kind base (old :: tokens)) : Above kind base (token :: tokens) := by
  obtain ⟨upper, known, known_, split⟩ := above
  cases upper with
  | nil =>
      obtain ⟨-, rfl⟩ := List.cons.inj split
      exact ⟨[], token, ofKind, rfl⟩
  | cons first upper =>
      obtain ⟨-, rfl⟩ := List.cons.inj split
      exact ⟨token :: upper, known, known_, rfl⟩

theorem Above.past (above : Above kind base b.outer) (c : Char) :
    Above kind base (b.past c).outer :=
  above

theorem Above.add (above : Above kind base b.outer) (token : Token) :
    Above kind base (b.push token).outer := by
  obtain ⟨enclosing, current, before⟩ := b
  cases enclosing with
  | nil => exact Above.push above token
  | cons => exact above

theorem Above.nextBranch (above : Above kind base b.outer) :
    Above kind base b.nextBranch.outer := by
  obtain ⟨enclosing, current, before⟩ := b
  cases enclosing with
  | nil => exact above.add _
  | cons => exact above

theorem Above.closeGroup {next : Builder} (above : Above kind base b.outer)
    (closed : b.closeGroup? = some next) : Above kind base next.outer := by
  obtain ⟨enclosing, current, before⟩ := b
  cases enclosing with
  | nil => cases closed
  | cons group rest =>
      cases closed
      cases rest with
      | nil => exact Above.push above _
      | cons => exact above

theorem Above.pushTree {token : Token} (ofKind : kind token) (above : Above kind base b.outer) :
    Above kind base (b.pushTree token).outer := by
  unfold Builder.pushTree
  split
  · exact above
  · exact above
  · rename_i old rest _ _ current
    obtain ⟨enclosing, _, before⟩ := b
    cases current
    cases enclosing with
    | nil => exact Above.exchange ofKind above
    | cons => exact above
  · exact above.add token

theorem Above.doubleStar (between : kind .treeBetween) (tail : kind .treeEnd)
    (above : Above kind base b.outer) (after : Option Char) :
    Above kind base (b.doubleStar after).1.outer := by
  have twoStars : Above kind base b.pushTwoStars.outer := (above.add _).add _
  unfold Builder.doubleStar
  split_ifs
  · split
    · exact above.add _
    · exact above.add _
    · exact twoStars
  · exact twoStars
  · split
    · exact above.pushTree tail
    · exact above.pushTree between
    · split_ifs
      · exact above.pushTree tail
      · exact twoStars

theorem above_of_readFrom (between : kind .treeBetween) (tail : kind .treeEnd) {mode : Mode}
    {text : List Char} {tokens : List Token} (above : Above kind base b.outer)
    (read : readFrom mode b text = some tokens) : Above kind base tokens.reverse := by
  -- A step puts a token on top, or leaves the tokens alone. Only a double star takes one off, and
  -- what it puts there in turn is of the kind.
  fun_induction readFrom mode b text with
  | case1 b =>
      unfold Builder.finish? at read
      split_ifs at read with inside
      cases read
      obtain ⟨enclosing, current, before⟩ := b
      cases enclosing with
      | nil => simpa [Builder.outer, outermost] using above
      | cons => simp [Builder.inGroup] at inside
  | case2 | case6 | case9 | case19 => cases read
  | case3 | case7 | case10 | case14 | case21 =>
      rename_i ih
      exact ih (above.add _) read
  | case4 | case5 | case8 | case15 | case16 | case17 =>
      rename_i ih
      exact ih above read
  | case11 b ih => exact ih (above.doubleStar between tail none) read
  | case12 b c after next star ih =>
      have kept := above.doubleStar between tail (some c)
      rw [star] at kept
      exact ih kept read
  | case13 b c after next taken star _ ih =>
      have kept := above.doubleStar between tail (some c)
      rw [star] at kept
      exact ih kept read
  | case18 b rest next closed _ _ _ _ _ _ ih => exact ih ((above.closeGroup closed).past _) read
  | case20 b rest _ _ _ _ _ _ _ ih => exact ih above.nextBranch read

end

/-- Every part that the token stands for begins with a slash. -/
def OpensSlash (token : Token) : Prop :=
  ∀ part, token.Accepts part → ∃ rest, part = slash :: rest

theorem opensSlash_literal : OpensSlash (.literal '/') := by
  rintro _ rfl
  exact ⟨[], rfl⟩

theorem opensSlash_treeEnd : OpensSlash .treeEnd :=
  fun _ accepted => accepted

theorem opensSlash_treeBetween : OpensSlash .treeBetween := by
  rintro _ (rfl | ⟨between, rfl⟩)
  · exact ⟨[], rfl⟩
  · exact ⟨_, rfl⟩

theorem not_opensSlash_treeStart : ¬OpensSlash .treeStart := by
  intro opens
  obtain ⟨rest, impossible⟩ := opens [] (.inl rfl)
  cases impossible

theorem acceptsSeq_literals {chars : List Char} {part : Bytes} :
    AcceptsSeq (chars.map .literal) part ↔ part = chars.flatMap String.utf8EncodeChar := by
  induction chars generalizing part with
  | nil => simp [AcceptsSeq]
  | cons c chars ih => simp [AcceptsSeq, Token.Accepts, ih]

def IsPlain (c : Char) : Prop :=
  isMeta c = false ∧ c ≠ '\\'

theorem readFrom_plain {b : Builder} {chars rest : List Char} {tokens : List Token}
    (top : b.enclosing = []) (plain : ∀ c ∈ chars, IsPlain c)
    (read : readFrom .plain b (chars ++ rest) = some tokens) :
    ∃ before, readFrom .plain ⟨[], (chars.map .literal).reverse ++ b.current, before⟩ rest =
      some tokens := by
  induction chars generalizing b with
  | nil =>
      obtain ⟨enclosing, current, before⟩ := b
      cases top
      exact ⟨before, read⟩
  | cons c chars ih =>
      obtain ⟨unmarked, unescaped⟩ := plain c List.mem_cons_self
      simp only [isMeta, Bool.or_eq_false_iff, beq_eq_false_iff_ne] at unmarked
      obtain ⟨⟨⟨noStar, noAny⟩, noClass⟩, noGroup⟩ := unmarked
      -- At the top a closing brace is refused, and a comma is a character like others.
      have pushed : readFrom .plain ((b.push (.literal c)).past c) (chars ++ rest) =
          some tokens := by
        rw [List.cons_append, readFrom] at read
        · rw [if_neg noGroup] at read
          split_ifs at read with closing comma
          · simp [Builder.closeGroup?, top] at read
          · simpa [Builder.nextBranch, top, comma] using read
          · exact read
        all_goals simp_all
      obtain ⟨before, later⟩ := ih (b := (b.push (.literal c)).past c) top
        (fun other member => plain other (List.mem_cons_of_mem _ member)) pushed
      exact ⟨before, by simpa [Builder.push, Builder.past] using later⟩

theorem tokens_of_plain {pattern : String} {tokens : List Token} {front rest : List Char}
    (read : tokens? pattern = some tokens) (split : pattern.toList = front ++ '/' :: rest)
    (plain : ∀ c ∈ front, IsPlain c) :
    ∃ token upper, OpensSlash token ∧ tokens = front.map .literal ++ token :: upper := by
  have whole : readFrom .plain .start ((front ++ ['/']) ++ rest) = some tokens := by
    rw [tokens?, split] at read
    simpa using read
  have plainSlash : ∀ c ∈ front ++ ['/'], IsPlain c := by
    intro c member
    rcases List.mem_append.mp member with early | last
    · exact plain c early
    · rw [List.mem_singleton.mp last]
      exact ⟨by decide, by decide⟩
  obtain ⟨before, later⟩ := readFrom_plain rfl plainSlash whole
  have above : Above OpensSlash (front.map .literal).reverse tokens.reverse := by
    refine above_of_readFrom opensSlash_treeBetween opensSlash_treeEnd ?_ later
    exact ⟨[], .literal '/', opensSlash_literal, by simp [Builder.outer, outermost, Builder.start]⟩
  obtain ⟨upper, token, opens, known⟩ := above
  refine ⟨token, upper.reverse, opens, ?_⟩
  rw [← List.reverse_reverse tokens, known]
  simp

theorem starts_of_isMatch {pattern : String} {tokens : List Token} {front rest text : List Char}
    (read : tokens? pattern = some tokens) (split : pattern.toList = front ++ '/' :: rest)
    (plain : ∀ c ∈ front, IsPlain c)
    (accepted : isMatch tokens (Text.utf8 (String.ofList text)) = true) :
    ∃ more, text = front ++ '/' :: more := by
  obtain ⟨token, upper, opens, known⟩ := tokens_of_plain read split plain
  have accepts : AcceptsSeq tokens (Text.utf8 (String.ofList text)) := by
    refine ((isMatch_iff _ _).mp accepted).resolve_left ?_
    rintro rfl
    cases front with
    | nil =>
        obtain ⟨rfl, -⟩ := List.cons.inj known
        exact not_opensSlash_treeStart opens
    | cons c front => cases known
  rw [known, Text.utf8_ofList, acceptsSeq_append] at accepts
  obtain ⟨first, _, encoded, literal, part, _, rfl, opened, -⟩ := accepts
  obtain ⟨more, rfl⟩ := opens part opened
  rw [acceptsSeq_literals.mp literal] at encoded
  obtain ⟨after, rfl, left⟩ := Text.flatMap_encode_prefix encoded
  obtain ⟨tail, rfl, -⟩ := Text.flatMap_encode_slash_head left
  exact ⟨tail, rfl⟩

end Glob

end ArtifactPipeline
