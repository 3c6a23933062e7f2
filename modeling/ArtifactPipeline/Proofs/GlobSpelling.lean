import ArtifactPipeline.Proofs.GlobExpansion

set_option autoImplicit false

namespace ArtifactPipeline

namespace Glob

/-- Where a character of a pattern stands: in how many groups, and whether it is escaped or belongs
to a class. A closing bracket that comes first in a negated class does not end it. -/
inductive Spot where
  | plain (depth : Nat)
  | escaped (depth : Nat)
  | classStart (depth : Nat)
  | inClass (depth : Nat) (first : Bool)
  deriving DecidableEq

def Spot.next : Spot → Char → Spot
  | .plain depth, c =>
      if c = '[' then .classStart depth
      else if c = '\\' then .escaped depth
      else if c = '\x7b' then .plain (depth + 1)
      else if c = '\x7d' then .plain (depth - 1)
      else .plain depth
  | .escaped depth, _ => .plain depth
  | .classStart depth, c => .inClass depth (isNegation c)
  | .inClass depth first, c => if c = ']' && !first then .plain depth else .inClass depth false

def Spot.isOutside : Spot → Bool
  | .plain 0 | .escaped 0 => true
  | _ => false

def Outside (front : List Char) : Prop :=
  (front.foldl Spot.next (.plain 0)).isOutside = true

instance (front : List Char) : Decidable (Outside front) := by
  unfold Outside
  infer_instance

def spot (mode : Mode) (b : Builder) : Spot :=
  match mode with
  | .plain => .plain b.enclosing.length
  | .escaped => .escaped b.enclosing.length
  | .classStart => .classStart b.enclosing.length
  | .inClass scan => .inClass b.enclosing.length scan.first

/-- Whatever the tokens, listed last first, accept ends in a slash. A double star in front may
accept nothing as well. -/
def ClosesSlash (tokens : List Token) : Prop :=
  tokens = [.treeStart] ∨
    ∀ part, AcceptsSeq tokens.reverse part → ∃ front, part = front ++ [slash]

theorem closesSlash_cons {token : Token} (rest : List Token)
    (closes : ∀ part, token.Accepts part → ∃ front, part = front ++ [slash]) :
    ClosesSlash (token :: rest) := by
  right
  intro part accepted
  rw [List.reverse_cons, acceptsSeq_append] at accepted
  obtain ⟨before, _, rfl, -, last, _, rfl, own, rfl⟩ := accepted
  obtain ⟨front, rfl⟩ := closes last own
  exact ⟨before ++ front, by simp⟩

theorem closesSlash_literal (rest : List Token) : ClosesSlash (.literal '/' :: rest) := by
  refine closesSlash_cons rest ?_
  rintro _ rfl
  exact ⟨[], rfl⟩

theorem closesSlash_treeBetween (rest : List Token) : ClosesSlash (.treeBetween :: rest) := by
  refine closesSlash_cons rest ?_
  rintro _ (rfl | ⟨between, rfl⟩)
  · exact ⟨[], rfl⟩
  · exact ⟨slash :: between, rfl⟩

def AfterSlash (mode : Mode) (b : Builder) : Prop :=
  mode = .plain → b.enclosing = [] → b.before = some '/' → ClosesSlash b.current

theorem afterSlash_inClass (scan : ClassScan) (b : Builder) : AfterSlash (.inClass scan) b := by
  intro plain
  cases plain

theorem afterSlash_start : AfterSlash .plain .start := by
  intro _ _ last
  cases last

theorem afterSlash_past {b : Builder} {c : Char} (other : c ≠ '/') (mode : Mode) :
    AfterSlash mode (b.past c) := by
  intro _ _ last
  exact absurd (Option.some.inj last) other

theorem afterSlash_literal (b : Builder) (c : Char) (mode : Mode) :
    AfterSlash mode ((b.push (.literal c)).past c) := by
  intro _ _ last
  obtain rfl := Option.some.inj last
  exact closesSlash_literal _

theorem enclosing_pushTree (b : Builder) (token : Token) :
    (b.pushTree token).enclosing = b.enclosing := by
  unfold Builder.pushTree
  split <;> rfl

theorem enclosing_doubleStar (b : Builder) (after : Option Char) :
    (b.doubleStar after).1.enclosing = b.enclosing := by
  unfold Builder.doubleStar
  split_ifs
  · split <;> rfl
  · rfl
  · split
    · exact enclosing_pushTree b _
    · exact enclosing_pushTree b _
    · split_ifs
      · exact enclosing_pushTree b _
      · rfl

theorem doubleStar_taken {b read : Builder} {c : Char}
    (star : b.doubleStar (some c) = (read, true)) :
    c = '/' ∧ (b.enclosing = [] → AfterSlash .plain b → ClosesSlash read.current) := by
  unfold Builder.doubleStar at star
  split_ifs at star with empty unslashed
  · split at star
    · cases star
    · rename_i same
      cases star
      cases same
      have none : b.current = [] := List.isEmpty_iff.mp empty
      exact ⟨rfl, fun _ _ => .inl (by simp [Builder.push, none])⟩
    · cases star
  · cases star
  · split at star
    · cases star
    · rename_i same
      cases star
      cases same
      refine ⟨rfl, ?_⟩
      intro top after
      have last : b.before = some '/' := by
        by_contra other
        simp [Builder.inGroup, top, other] at unslashed
      have closes := after rfl top last
      unfold Builder.pushTree
      split
      · exact closes
      · exact closes
      · exact closesSlash_treeBetween _
      · rename_i none
        simp [none] at empty
    · split_ifs at star <;> cases star

theorem first_of_read {scan next : ClassScan} {c : Char} (read : scan.read? c = some next) :
    next.first = false := by
  unfold ClassScan.read? at read
  split_ifs at read with inRange dash
  · unfold ClassScan.extend? at read
    split at read
    · split_ifs at read
      cases read
      rfl
    · cases read
  · cases read
    simp_all
  · cases read
    rfl

theorem outside_cons {here next : Spot} {c : Char} {text front rest : List Char}
    (step : here.next c = next) (split : c :: text = front ++ '/' :: rest)
    (outside : (front.foldl Spot.next here).isOutside = true) :
    (c = '/' ∧ here.isOutside = true ∧ text = rest) ∨
      ∃ later, text = later ++ '/' :: rest ∧ (later.foldl Spot.next next).isOutside = true := by
  rcases List.cons_eq_append_iff.mp split with ⟨rfl, same⟩ | ⟨later, rfl, same⟩
  · obtain ⟨rfl, rfl⟩ := List.cons.inj same
    exact .inl ⟨rfl, outside, rfl⟩
  · rw [List.foldl_cons, step] at outside
    exact .inr ⟨later, same, outside⟩

theorem outside_tail {here next : Spot} {c : Char} {text front rest : List Char}
    (step : here.next c = next) (split : c :: text = front ++ '/' :: rest)
    (outside : (front.foldl Spot.next here).isOutside = true)
    (inside : c = '/' → here.isOutside = false) :
    ∃ later, text = later ++ '/' :: rest ∧ (later.foldl Spot.next next).isOutside = true := by
  refine (outside_cons step split outside).resolve_left ?_
  rintro ⟨slashed, out, -⟩
  rw [inside slashed] at out
  cases out

theorem top_of_isOutside {mode : Mode} {b : Builder}
    (outside : (spot mode b).isOutside = true) : b.enclosing = [] := by
  unfold spot at outside
  cases enclosing : b.enclosing with
  | nil => rfl
  | cons => cases mode <;> simp [enclosing, Spot.isOutside] at outside

theorem next_plain {b next : Builder} {c : Char}
    (unmarked : c ≠ '[' ∧ c ≠ '\\' ∧ c ≠ '\x7b' ∧ c ≠ '\x7d')
    (enclosing : next.enclosing = b.enclosing) :
    (spot .plain b).next c = spot .plain next := by
  simp [spot, Spot.next, unmarked, enclosing]

theorem closesSlash_of_readFrom {mode : Mode} {b : Builder} {text front rest : List Char}
    {tokens : List Token} (read : readFrom mode b text = some tokens)
    (split : text = front ++ '/' :: rest)
    (outside : (front.foldl Spot.next (spot mode b)).isOutside = true)
    (after : AfterSlash mode b) :
    ∃ next : Builder, next.enclosing = [] ∧ ClosesSlash next.current ∧
      readFrom .plain next rest = some tokens := by
  -- The scan for the slash keeps pace with the reader: `spot mode b` is where it stands, and one
  -- step of the reader takes it to the spot of the next builder.
  fun_induction readFrom mode b text generalizing front with
  | case1 => simp at split
  | case2 | case6 | case9 | case19 => cases read
  | case3 b c text ih =>
      rcases outside_cons rfl split outside with ⟨rfl, here, rfl⟩ | ⟨later, split, outside⟩
      · have top := top_of_isOutside here
        exact ⟨(b.push (.literal '/')).past '/', top, closesSlash_literal _, read⟩
      · exact ih read split outside (afterSlash_literal b c _)
  | case4 b c text negation ih =>
      have step : (spot .classStart b).next c = spot (.inClass (.start true)) (b.past c) := by
        simp [spot, Spot.next, negation, ClassScan.start, Builder.past]
      obtain ⟨later, split, outside⟩ := outside_tail step split outside fun _ => rfl
      exact ih read split outside (afterSlash_inClass _ _)
  | case5 b c text negation scan begun ih =>
      have step : (spot .classStart b).next c = spot (.inClass scan) (b.past c) := by
        simp [spot, Spot.next, negation, first_of_read begun, Builder.past]
      obtain ⟨later, split, outside⟩ := outside_tail step split outside fun _ => rfl
      exact ih read split outside (afterSlash_inClass _ _)
  | case7 scan b c text ends ih =>
      have bracket : c = ']' := by simp_all
      have step : (spot (.inClass scan) b).next c = spot .plain ((b.push scan.token).past c) := by
        simp_all [spot, Spot.next, Builder.past, Builder.push]
      obtain ⟨later, split, outside⟩ := outside_tail step split outside fun _ => rfl
      exact ih read split outside (afterSlash_past (by simp [bracket]) _)
  | case8 scan b c text more next begun ih =>
      have step : (spot (.inClass scan) b).next c = spot (.inClass next) (b.past c) := by
        simp_all [spot, Spot.next, first_of_read begun, Builder.past]
      obtain ⟨later, split, outside⟩ := outside_tail step split outside fun _ => rfl
      exact ih read split outside (afterSlash_inClass _ _)
  | case10 b text ih | case14 b text _ ih | case15 b text ih | case16 b text ih =>
      obtain ⟨later, split, outside⟩ := outside_tail rfl split outside (by simp)
      exact ih read split outside (afterSlash_past (by decide) _)
  | case11 b ih =>
      have member : '/' ∈ ['*', '*'] := by simp [split]
      simp at member
  -- A double star takes the slash behind it along, so its own token must end in the slash.
  | case12 b c text next star ih =>
      obtain ⟨rfl, closes⟩ := doubleStar_taken star
      have enclosing : next.enclosing = b.enclosing := by
        simpa [star] using enclosing_doubleStar b (some '/')
      obtain ⟨_, split, outside⟩ := outside_tail rfl split outside (by simp)
      obtain ⟨_, split, outside⟩ := outside_tail rfl split outside (by simp)
      have step : (spot .plain b).next '/' = spot .plain (next.past '/') :=
        next_plain (by decide) enclosing
      rcases outside_cons step split outside with ⟨-, here, rfl⟩ | ⟨later, split, outside⟩
      · have top : b.enclosing = [] := by
          have outer : (spot .plain b).isOutside = true := here
          exact top_of_isOutside outer
        exact ⟨next.past '/', enclosing.trans top, closes top after, read⟩
      · exact ih read split outside fun _ top _ => closes (enclosing.symm.trans top) after
  | case13 b c text next taken star kept ih =>
      have enclosing : next.enclosing = b.enclosing := by
        simpa [star] using enclosing_doubleStar b (some c)
      have step : (spot .plain b).next '*' = spot .plain (next.past '*') :=
        next_plain (by decide) enclosing
      obtain ⟨_, split, outside⟩ := outside_tail rfl split outside (by simp)
      obtain ⟨later, split, outside⟩ := outside_tail step split outside (by simp)
      exact ih read split outside (afterSlash_past (by decide) _)
  | case17 b text _ _ _ _ _ ih =>
      obtain ⟨later, split, outside⟩ := outside_tail rfl split outside (by simp)
      exact ih read split outside (afterSlash_past (by decide) _)
  | case18 b text next closed _ _ _ _ _ _ ih =>
      have step : (spot .plain b).next '\x7d' = spot .plain (next.past '\x7d') := by
        unfold Builder.closeGroup? at closed
        split at closed <;> cases closed
        rename_i enclosing
        simp [spot, Spot.next, enclosing, Builder.past]
      obtain ⟨later, split, outside⟩ := outside_tail step split outside (by simp)
      exact ih read split outside (afterSlash_past (by decide) _)
  | case20 b text _ _ _ _ _ _ _ ih =>
      have step : (spot .plain b).next ',' = spot .plain (b.nextBranch.past ',') := by
        have kept : b.nextBranch.enclosing.length = b.enclosing.length := by
          unfold Builder.nextBranch
          split
          · rename_i enclosing
            simp [enclosing]
          · rfl
        simp [spot, Spot.next, Builder.past, kept]
      obtain ⟨later, split, outside⟩ := outside_tail step split outside (by simp)
      exact ih read split outside (afterSlash_past (by decide) _)
  | case21 b c text _ _ _ noClass unescaped noOpen noClose _ ih =>
      have step : (spot .plain b).next c = spot .plain ((b.push (.literal c)).past c) :=
        next_plain ⟨noClass, unescaped, noOpen, noClose⟩ rfl
      rcases outside_cons step split outside with ⟨rfl, here, rfl⟩ | ⟨later, split, outside⟩
      · have top := top_of_isOutside here
        exact ⟨(b.push (.literal '/')).past '/', top, closesSlash_literal _, read⟩
      · exact ih read split outside (afterSlash_literal b c _)

theorem tokens_of_doubled {pattern : String} {tokens : List Token} {front rest : List Char}
    (read : tokens? pattern = some tokens) (split : pattern.toList = front ++ '/' :: '/' :: rest)
    (outside : Outside front) :
    ∃ before token upper, ClosesSlash before ∧ OpensSlash token ∧
      tokens = before.reverse ++ token :: upper := by
  rw [tokens?, split] at read
  obtain ⟨next, top, closes, later⟩ := closesSlash_of_readFrom read rfl outside afterSlash_start
  have plain : ∀ c ∈ ['/'], IsPlain c := by
    intro c member
    rw [List.mem_singleton.mp member]
    exact ⟨by decide, by decide⟩
  obtain ⟨last, further⟩ := readFrom_plain top plain later
  have above : Above OpensSlash next.current tokens.reverse := by
    refine above_of_readFrom opensSlash_treeBetween opensSlash_treeEnd ?_ further
    exact ⟨[], .literal '/', opensSlash_literal, rfl⟩
  -- The first slash ends what stands before, and the second begins what is put on top of that.
  obtain ⟨upper, token, opens, known⟩ := above
  refine ⟨next.current, token, upper.reverse, closes, opens, ?_⟩
  rw [← List.reverse_reverse tokens, known]
  simp

theorem slashes_of_isMatch {pattern : String} {tokens : List Token} {front rest text : List Char}
    (read : tokens? pattern = some tokens) (split : pattern.toList = front ++ '/' :: '/' :: rest)
    (outside : Outside front)
    (accepted : isMatch tokens (Text.utf8 (String.ofList text)) = true) :
    (∃ before after, text = before ++ '/' :: '/' :: after) ∨
      tokens.head? = some .treeStart ∧ ∃ after, text = '/' :: after := by
  obtain ⟨before, token, upper, closes, opens, known⟩ := tokens_of_doubled read split outside
  have filled : before ≠ [] := by
    rintro rfl
    rcases closes with impossible | closes
    · cases impossible
    · obtain ⟨front, impossible⟩ := closes [] rfl
      simp at impossible
  have accepts : AcceptsSeq tokens (Text.utf8 (String.ofList text)) := by
    refine ((isMatch_iff _ _).mp accepted).resolve_left ?_
    rintro rfl
    have length := congrArg List.length known
    have some_ := List.length_pos_of_ne_nil filled
    simp at length
    omega
  rw [known, Text.utf8_ofList, acceptsSeq_append] at accepts
  obtain ⟨first, _, encoded, early, part, last, rfl, opened, -⟩ := accepts
  obtain ⟨more, rfl⟩ := opens part opened
  have doubled {front : Bytes} (ends : first = front ++ [slash]) :
      ∃ before after, text = before ++ '/' :: '/' :: after := by
    rw [ends, List.append_assoc] at encoded
    obtain ⟨before, after, rfl, -, right⟩ := Text.flatMap_encode_slash encoded
    obtain ⟨after, rfl, -⟩ := Text.flatMap_encode_slash_head right
    exact ⟨before, after, rfl⟩
  -- The slash before comes from the end of the first tokens, unless these are a double star alone
  -- that accepts nothing.
  rcases closes with rfl | closes
  · obtain ⟨_, _, rfl, opening, rfl⟩ := early
    rcases opening with rfl | ⟨front, rfl⟩
    · obtain ⟨after, rfl, -⟩ := Text.flatMap_encode_slash_head encoded
      exact .inr ⟨by rw [known]; rfl, after, rfl⟩
    · exact .inl (doubled (List.append_nil _))
  · obtain ⟨front, ends⟩ := closes first early
    exact .inl (doubled ends)

theorem head_ne_treeStart {pattern : String} {tokens : List Token} {c d : Char} {rest : List Char}
    (read : tokens? pattern = some tokens) (text : pattern.toList = c :: d :: rest)
    (unmarked : isMeta c = false) : tokens.head? ≠ some .treeStart := by
  have opening : ∃ first b rest, b.enclosing = [] ∧ b.current = [.literal first] ∧
      readFrom .plain b rest = some tokens := by
    rw [tokens?, text] at read
    by_cases escape : c = '\\'
    · subst escape
      rw [readFrom, readFrom] at read
      exact ⟨d, _, rest, rfl, rfl, read⟩
    · have plain : ∀ other ∈ [c], IsPlain other := by
        intro other member
        rw [List.mem_singleton.mp member]
        exact ⟨unmarked, escape⟩
      obtain ⟨last, later⟩ := readFrom_plain rfl plain read
      exact ⟨c, _, d :: rest, rfl, rfl, later⟩
  obtain ⟨first, b, rest, top, current, later⟩ := opening
  have above : Above (fun token => token ≠ .treeStart) [] b.outer :=
    ⟨[], .literal first, by simp, by simp [Builder.outer, outermost, top, current]⟩
  obtain ⟨upper, token, other, known⟩ := above_of_readFrom (by simp) (by simp) above later
  rw [← List.reverse_reverse tokens, known]
  simpa using other

end Glob

namespace Path

variable {rooted : Bool} {pieces : List (List Char)}

theorem mem_spelled (apart : Apart pieces) {piece : List Char} {c : Char}
    (member : piece ∈ pieces) (inside : c ∈ piece) : c ∈ spelled rooted pieces := by
  have listed : piece ∈ Text.splitOn '/' (spelled rooted pieces) := by
    rw [apart.split_spelled (List.ne_nil_of_mem member)]
    cases rooted <;> simp [member]
  exact Text.mem_of_mem_splitOn listed inside

theorem spelled_absolute (apart : Apart pieces) (some_ : pieces ≠ []) :
    (∃ after, spelled rooted pieces = '/' :: after) ↔ rooted = true := by
  cases rooted with
  | true => simp [spelled]
  | false =>
      refine iff_of_false ?_ Bool.false_ne_true
      rintro ⟨after, absolute⟩
      have split := apart.split_spelled some_ false
      rw [absolute, Text.splitOn_sep, if_neg Bool.false_ne_true] at split
      exact (apart [] (by simp [← split])).1 rfl

theorem spelled_undoubled (apart : Apart pieces) (some_ : pieces ≠ []) (before after : List Char) :
    spelled rooted pieces ≠ before ++ '/' :: '/' :: after := by
  intro doubled
  have split := apart.split_spelled some_ rooted
  rw [doubled, Text.splitOn_append_slash, Text.splitOn_sep] at split
  obtain ⟨first, more, filled⟩ := List.exists_cons_of_ne_nil (Text.splitOn_ne_nil '/' before)
  rw [filled] at split
  have empty : ([] : List Char) ∈ pieces := by
    cases rooted with
    | false =>
        rw [if_neg Bool.false_ne_true] at split
        simp [← split]
    | true =>
        rw [if_pos rfl, List.cons_append, List.cons.injEq] at split
        simp [← split.2]
  exact (apart [] empty).1 rfl

end Path

namespace Glob

theorem text_enterLiteral {base : Path} {rooted : Bool} {pieces parts : List (List Char)}
    (text : base.text.toList = Path.spelled rooted pieces) (apart : Path.Apart pieces)
    (clean : ∀ part ∈ parts, '/' ∉ part) {lead : List (List Char)}
    (leads : lead = parts.takeWhile fun part => !part.any isMeta) :
    ∃ rooted' pieces', (enterLiteral base parts).text.toList = Path.spelled rooted' pieces' ∧
      Path.Apart pieces' ∧ (∀ piece ∈ pieces', piece ∈ pieces ∨ piece ∈ lead) ∧
      (rooted' = true ↔ rooted = true ∨ [] ∈ lead) ∧
      ([] ∉ lead → pieces' = pieces ++ lead) := by
  induction parts generalizing base rooted pieces lead with
  | nil =>
      cases leads
      exact ⟨rooted, pieces, text, apart, fun _ => .inl, by simp, by simp⟩
  | cons part rest ih =>
      rw [enterLiteral]
      by_cases marked : part.any isMeta = true
      · rw [List.takeWhile_cons_of_neg (by simpa using marked)] at leads
        cases leads
        rw [if_pos marked]
        exact ⟨rooted, pieces, text, apart, fun _ => .inl, by simp, by simp⟩
      · rw [List.takeWhile_cons_of_pos (by simpa using marked)] at leads
        rw [if_neg marked]
        have cleanRest : ∀ other ∈ rest, '/' ∉ other := fun other member =>
          clean other (List.mem_cons_of_mem _ member)
        by_cases empty : part = []
        · -- An empty component sends the walk to the root.
          subst empty
          have root : (base.join ⟨if ([] : List Char).isEmpty then "/" else
              String.ofList []⟩).text.toList = Path.spelled true [] := by
            simp [Path.join, Path.joinText, Path.isAbsoluteText, Path.spelled, Text.joinWith]
          obtain ⟨rooted', pieces', spelled, apart', inside, absolute, -⟩ :=
            ih root Path.apart_nil cleanRest rfl
          refine ⟨rooted', pieces', spelled, apart', ?_, ?_, ?_⟩
          · intro piece member
            refine .inr ?_
            rw [leads]
            exact List.mem_cons_of_mem _ ((inside piece member).resolve_left List.not_mem_nil)
          · simp [leads, absolute]
          · simp [leads]
        · have next : Path.Apart (pieces ++ [part]) := by
            intro piece member
            rcases List.mem_append.mp member with old | new
            · exact apart piece old
            · rw [List.mem_singleton.mp new]
              exact ⟨empty, clean part List.mem_cons_self⟩
          have joined : (base.join ⟨if part.isEmpty then "/" else
              String.ofList part⟩).text.toList = Path.spelled rooted (pieces ++ [part]) := by
            rw [← Path.joinText_spelled next, ← text]
            simp [Path.join, empty]
          obtain ⟨rooted', pieces', spelled, apart', inside, absolute, whole⟩ :=
            ih joined next cleanRest rfl
          refine ⟨rooted', pieces', spelled, apart', ?_, ?_, ?_⟩
          · intro piece member
            rw [leads]
            rcases inside piece member with old | new
            · rcases List.mem_append.mp old with older | own
              · exact .inl older
              · exact .inr (List.mem_singleton.mp own ▸ List.mem_cons_self)
            · exact .inr (List.mem_cons_of_mem _ new)
          · simp [leads, absolute, Ne.symm empty]
          · intro filled
            rw [leads] at filled ⊢
            rw [whole (mt (List.mem_cons_of_mem _) filled)]
            simp

theorem text_literalBase (pattern : String) :
    ∃ rooted pieces, (literalBase pattern).text.toList = Path.spelled rooted pieces ∧
      Path.Apart pieces ∧ (∀ piece ∈ pieces, piece = ['.'] ∨ piece ∈ leading pattern) ∧
      (rooted = true ↔ [] ∈ leading pattern) ∧
      ([] ∉ leading pattern → leading pattern ≠ [] → pieces = leading pattern) := by
  have clean : ∀ part ∈ (Text.splitOn '/' pattern.toList).dropLast, '/' ∉ part :=
    fun part member => Text.notMem_of_mem_splitOn (List.mem_of_mem_dropLast member)
  have start : (⟨""⟩ : Path).text.toList = Path.spelled false [] := rfl
  obtain ⟨rooted, pieces, text, apart, inside, absolute, whole⟩ :=
    text_enterLiteral start Path.apart_nil clean rfl
  unfold literalBase
  dsimp only
  split_ifs with empty
  · rw [String.isEmpty_iff, ← String.toList_eq_nil_iff, text, Path.spelled,
      List.append_eq_nil_iff, Text.joinWith_eq_nil fun piece member => (apart piece member).1]
      at empty
    obtain ⟨unrooted, rfl⟩ := empty
    have relative : ¬rooted = true := by
      rintro rfl
      cases unrooted
    have filled : [] ∉ leading pattern := fun member => relative (absolute.mpr (.inr member))
    have none : leading pattern = [] := (whole filled).symm
    refine ⟨false, [['.']], rfl, ?_, by simp, by simp [filled], fun _ some_ => absurd none some_⟩
    intro piece member
    rw [List.mem_singleton.mp member]
    decide
  · refine ⟨rooted, pieces, text, apart, ?_, ?_, fun filled _ => whole filled⟩
    · exact fun piece member => .inr ((inside piece member).resolve_left List.not_mem_nil)
    · rw [absolute]
      simp [leading]

theorem matchKey_spelled {path : Path} {rooted : Bool} {pieces : List (List Char)}
    (text : path.text.toList = Path.spelled rooted pieces) (apart : Path.Apart pieces)
    (some_ : pieces ≠ []) (plain : '\\' ∉ path.text.toList) :
    ∃ others, others ≠ [] ∧ Path.Apart others ∧
      matchKey path = Text.utf8 (String.ofList (Path.spelled rooted others)) := by
  by_cases dotted : ∃ rest, path.text.toList = '.' :: '/' :: rest
  · obtain ⟨rest, dotted⟩ := dotted
    have unrooted : rooted = false := by
      cases rooted with
      | false => rfl
      | true => simp [text, Path.spelled] at dotted
    subst unrooted
    have split := apart.split_spelled some_ false
    rw [← text, dotted, ← List.singleton_append (x := '.'), Text.splitOn_append (by decide),
      if_neg Bool.false_ne_true] at split
    refine ⟨Text.splitOn '/' rest, Text.splitOn_ne_nil _ _, ?_, ?_⟩
    · exact fun piece member => apart piece (by simp [← split, member])
    · rw [matchKey_dotted (by simpa [dotted] using plain) dotted]
      simp [Path.spelled, Text.joinWith_splitOn]
  · refine ⟨pieces, some_, apart, ?_⟩
    rw [matchKey_other plain fun rest same => dotted ⟨rest, same⟩, ← text, String.ofList_toList]

/-- The second pattern is the first one with a dot in front, or with a slash doubled that stands
outside brackets and braces. -/
inductive Respelled (pattern : String) : String → Prop where
  | dotted : Respelled pattern ("./" ++ pattern)
  | doubled (front rest : List Char) (outside : Outside front)
      (split : pattern.toList = front ++ '/' :: rest) :
      Respelled pattern (String.ofList (front ++ '/' :: '/' :: rest))

variable {disk : VirtualDisk} {pattern respelled : String} {tokens : List Token}
  {names : List (List Char)}

theorem leading_dotted (pattern : String) :
    leading ("./" ++ pattern) = ['.'] :: leading pattern := by
  have split : Text.splitOn '/' ("./" ++ pattern).toList =
      ['.'] :: Text.splitOn '/' pattern.toList := by
    simp [Text.splitOn]
  rw [leading, split, List.dropLast_cons_of_ne_nil (Text.splitOn_ne_nil _ _)]
  rfl

theorem escaped_of_dotted (read : tokens? ("./" ++ pattern) = some tokens) (below : names ≠ [])
    (areNames : ∀ name ∈ names, Path.IsName name)
    (accepted : isMatch tokens
      (matchKey ((literalBase ("./" ++ pattern)).below names)) = true) :
    '\\' ∈ ((literalBase ("./" ++ pattern)).below names).text.toList := by
  by_contra plain
  obtain ⟨rooted, pieces, base, apart, -, absolute, whole⟩ :=
    text_literalBase ("./" ++ pattern)
  have all : Path.Apart (pieces ++ names) := fun piece member =>
    (List.mem_append.mp member).elim (apart piece) (Path.apart_of_names areNames piece)
  have filled : pieces ++ names ≠ [] := List.append_ne_nil_of_right_ne_nil _ below
  have text := Path.text_below _ rooted pieces base all
  by_cases empty : [] ∈ leading ("./" ++ pattern)
  · -- The walk starts at the root, and the pattern with a dot.
    obtain rfl := absolute.mpr empty
    obtain ⟨others, some_, apart', key⟩ := matchKey_spelled text all filled plain
    rw [key] at accepted
    have dot : ("./" ++ pattern).toList = ['.'] ++ '/' :: pattern.toList := by simp
    obtain ⟨more, starts⟩ := starts_of_isMatch read dot (by
      intro c member
      rw [List.mem_singleton.mp member]
      exact ⟨by decide, by decide⟩) accepted
    simp [Path.spelled] at starts
  · have leads := leading_dotted pattern
    have some_ : leading ("./" ++ pattern) ≠ [] := by simp [leads]
    obtain rfl := whole empty some_
    have relative : rooted = false := by simpa using mt absolute.mp empty
    subst relative
    have literal : ∀ part ∈ leading ("./" ++ pattern), '\\' ∉ part := by
      intro part member escaped
      refine plain ?_
      rw [text]
      exact Path.mem_spelled all (List.mem_append_left _ member) escaped
    have dotted : ((literalBase ("./" ++ pattern)).below names).text.toList =
        '.' :: '/' :: Text.joinWith ['/'] (leading pattern ++ names) := by
      have inner : leading pattern ++ names ≠ [] := List.append_ne_nil_of_right_ne_nil _ below
      rw [text, leads]
      exact Text.joinWith_append ['/'] (List.cons_ne_nil ['.'] []) inner
    rw [matchKey_dotted (by simpa [dotted] using plain) dotted] at accepted
    obtain ⟨more, starts⟩ := starts_with_leading read some_ apart literal accepted
    have split := congrArg (Text.splitOn '/') starts
    have inner : Path.Apart (leading pattern ++ names) := fun piece member =>
      all piece (by
        rw [leads]
        exact List.mem_cons_of_mem _ member)
    rw [inner.split (List.append_ne_nil_of_right_ne_nil _ below), Text.splitOn_append_slash,
      apart.split some_, leads] at split
    -- The steps are counted: the dot in front has to be among the names.
    have count := congrArg (List.count ['.']) split
    simp only [List.count_append, List.cons_append, List.count_cons_self] at count
    have dot : ['.'] ∈ names := List.count_pos_iff.mp (by omega)
    exact absurd (areNames _ dot).solid (by decide)

theorem unmarked_of_leading {c : Char} {tail : List Char} (text : pattern.toList = c :: tail)
    (other : c ≠ '/') (some_ : leading pattern ≠ []) : isMeta c = false := by
  obtain ⟨more, -, split⟩ := leading_prefix pattern
  obtain ⟨first, rest, leads⟩ := List.exists_cons_of_ne_nil some_
  rw [text, leads, List.cons_append, Text.splitOn, if_neg other] at split
  have begins : c ∈ first := by
    split at split <;> obtain ⟨rfl, -⟩ := List.cons.inj split <;> exact List.mem_cons_self
  exact unmarked_of_mem_leading (leads ▸ List.mem_cons_self) c begins

theorem escaped_of_doubled {front rest : List Char} (relative : Path.isAbsoluteText front = false)
    (some_ : front ≠ []) (split : respelled.toList = front ++ '/' :: '/' :: rest)
    (outside : Outside front) (read : tokens? respelled = some tokens) (below : names ≠ [])
    (areNames : ∀ name ∈ names, Path.IsName name)
    (accepted : isMatch tokens (matchKey ((literalBase respelled).below names)) = true) :
    '\\' ∈ ((literalBase respelled).below names).text.toList := by
  by_contra plain
  obtain ⟨rooted, pieces, base, apart, -, absolute, -⟩ := text_literalBase respelled
  have all : Path.Apart (pieces ++ names) := fun piece member =>
    (List.mem_append.mp member).elim (apart piece) (Path.apart_of_names areNames piece)
  have text := Path.text_below _ rooted pieces base all
  obtain ⟨others, filled, apart', key⟩ :=
    matchKey_spelled text all (List.append_ne_nil_of_right_ne_nil _ below) plain
  rw [key] at accepted
  rcases slashes_of_isMatch read split outside accepted with ⟨before, after, doubled⟩ |
    ⟨star, starts⟩
  · exact Path.spelled_undoubled apart' filled before after doubled
  · -- A path from the root comes of an empty component, which no double star stands before.
    obtain rfl := (Path.spelled_absolute apart' filled).mp starts
    obtain ⟨c, tail, rfl⟩ := List.exists_cons_of_ne_nil some_
    obtain ⟨d, others, more⟩ := List.exists_cons_of_ne_nil
      (List.append_ne_nil_of_right_ne_nil tail (List.cons_ne_nil '/' ('/' :: rest)))
    rw [List.cons_append] at split
    have unmarked : isMeta c = false := by
      refine unmarked_of_leading split ?_ (List.ne_nil_of_mem (absolute.mp rfl))
      rintro rfl
      cases relative
    exact head_ne_treeStart read (split.trans (by rw [more])) unmarked star

theorem Respelled.escaped (respells : Respelled pattern respelled)
    (relative : Path.isAbsoluteText pattern.toList = false)
    (read : tokens? respelled = some tokens) (below : names ≠ [])
    (areNames : ∀ name ∈ names, Path.IsName name)
    (accepted : isMatch tokens (matchKey ((literalBase respelled).below names)) = true) :
    '\\' ∈ ((literalBase respelled).below names).text.toList := by
  cases respells with
  | dotted => exact escaped_of_dotted read below areNames accepted
  | doubled front rest outside split =>
      have some_ : front ≠ [] := by
        rintro rfl
        rw [split] at relative
        cases relative
      rw [split, Path.isAbsoluteText_append some_] at relative
      exact escaped_of_doubled relative some_ String.toList_ofList outside read below areNames
        accepted

theorem Respelled.mem (respells : Respelled pattern respelled) {c : Char}
    (member : c ∈ respelled.toList) : c = '.' ∨ c = '/' ∨ c ∈ pattern.toList := by
  cases respells with
  | dotted => simpa using member
  | doubled front rest outside split =>
      rw [split]
      simp only [String.toList_ofList, List.mem_append, List.mem_cons] at member ⊢
      tauto

theorem Respelled.plain_below (respells : Respelled pattern respelled)
    (unescaped : disk.Unescaped) (plain : '\\' ∉ pattern.toList) (below : names ≠ [])
    (areNames : ∀ name ∈ names, Path.IsName name)
    (file : disk.isFile ((literalBase respelled).below names) = true) :
    '\\' ∉ ((literalBase respelled).below names).text.toList := by
  obtain ⟨rooted, pieces, base, apart, inside, -⟩ := text_literalBase respelled
  have all : Path.Apart (pieces ++ names) := fun piece member =>
    (List.mem_append.mp member).elim (apart piece) (Path.apart_of_names areNames piece)
  rw [Path.text_below _ rooted pieces base all]
  intro escaped
  have other : '\\' ≠ '/' := by decide
  obtain ⟨piece, listed, within⟩ := Text.exists_mem_splitOn other escaped
  rw [all.split_spelled (List.append_ne_nil_of_right_ne_nil _ below)] at listed
  have member : piece ∈ pieces ++ names := by
    cases rooted with
    | false => exact listed
    | true =>
        refine (List.mem_cons.mp listed).resolve_left ?_
        rintro rfl
        cases within
  rcases List.mem_append.mp member with early | late
  · rcases inside piece early with rfl | leads
    · simp at within
    · have segment := mem_splitOn_of_mem_leading leads
      rcases respells.mem (Text.mem_of_mem_splitOn segment within) with dot | slash | old
      · cases dot
      · cases slash
      · exact plain old
  · refine unescaped.of_isFile file piece ?_ within
    rw [Location.ofPath_below _ areNames]
    exact List.mem_append_right _ late

/-- A glob with a dot in front or a doubled slash finds no path but one with a backslash in it.
Where there are none, it finds nothing: the files of the plain spelling are lost, and nothing gets
dirty through it. -/
theorem expand_respelled (made : disk.Made)
    (relative : Path.isAbsoluteText pattern.toList = false)
    (respells : Respelled pattern respelled) {others : List Token}
    (compiled : compile pattern = .ok others) (alsoCompiled : compile respelled = .ok tokens) :
    ∃ found lost, expand disk pattern = .ok found ∧ expand disk respelled = .ok lost ∧
      (∀ path ∈ lost, '\\' ∈ path.text.toList) ∧
      (disk.Unescaped → '\\' ∉ pattern.toList →
        lost = [] ∧
        ((∀ id, id ∈ lost.map NodeId.ofPath ↔ id ∈ found.map NodeId.ofPath) ↔ found = []) ∧
        ∀ registry ask node own verdicts dirty rest,
          Freshness.prerequisitesRuling registry disk ask node own verdicts dirty
              (.glob respelled :: rest) =
            Freshness.prerequisitesRuling registry disk ask node own verdicts dirty rest) := by
  obtain ⟨found, expanded⟩ : ∃ found, expand disk pattern = .ok found :=
    Freshness.expand_ok compiled
  obtain ⟨files, -, kept, -, lost⟩ := expand_eq made.tidy alsoCompiled
  have spelled (path : Path)
      (member : path ∈ Path.sort (files.map (literalBase respelled).below)) :
      ∃ names, names ≠ [] ∧ (∀ name ∈ names, Path.IsName name) ∧
        disk.takes tokens ((literalBase respelled).below names) = true ∧
        path = (literalBase respelled).below names := by
    obtain ⟨names, inside, rfl⟩ :=
      List.mem_map.mp ((List.mergeSort_perm _ Path.le).mem_iff.mp member)
    obtain ⟨dir, entered, listed, taken⟩ := (kept names).mp inside
    obtain ⟨below, areNames⟩ := entered.isName_kid made.tidy listed
    exact ⟨names, below, areNames, taken, rfl⟩
  have escaped : ∀ path ∈ Path.sort (files.map (literalBase respelled).below),
      '\\' ∈ path.text.toList := by
    intro path member
    obtain ⟨names, below, areNames, taken, rfl⟩ := spelled path member
    exact respells.escaped relative (tokens_of_compile alsoCompiled) below areNames
      (Bool.and_eq_true_iff.mp taken).2
  refine ⟨found, _, expanded, lost, escaped, fun unescaped plain => ?_⟩
  have none : Path.sort (files.map (literalBase respelled).below) = [] := by
    refine List.eq_nil_iff_forall_not_mem.mpr fun path member => ?_
    have backslash := escaped path member
    obtain ⟨names, below, areNames, taken, rfl⟩ := spelled path member
    exact respells.plain_below unescaped plain below areNames
      (Bool.and_eq_true_iff.mp taken).1 backslash
  rw [none] at lost ⊢
  refine ⟨rfl, ?_, ?_⟩
  · simp only [List.map_nil, List.not_mem_nil, false_iff]
    rw [← List.eq_nil_iff_forall_not_mem, List.map_eq_nil_iff]
  · intro registry ask node own verdicts dirty rest
    rw [Freshness.prerequisitesRuling, lost]
    rfl

def measured : VirtualDisk :=
  VirtualDisk.new.applyAll [.write ⟨"table"⟩ [], .write ⟨"exp/x/a.json"⟩ []]

theorem expand_respelled_measured :
    (expand measured "exp/x/*.json").toOption = some [⟨"exp/x/a.json"⟩] ∧
      expand measured "./exp/x/*.json" = .ok [] ∧ expand measured "exp//x/*.json" = .ok [] := by
  have made : measured.Made := ⟨_, rfl⟩
  have unescaped : measured.Unescaped := by decide +kernel
  have lost (respelled : String) (respells : Respelled "exp/x/*.json" respelled)
      (read : (compile respelled).isOk = true) : expand measured respelled = .ok [] := by
    have alsoRead : (compile "exp/x/*.json").isOk = true := by decide +kernel
    cases compiled : compile "exp/x/*.json" with
    | error => simp [compiled, Except.isOk, Except.toBool] at alsoRead
    | ok tokens =>
        cases alsoCompiled : compile respelled with
        | error => simp [alsoCompiled, Except.isOk, Except.toBool] at read
        | ok others =>
            obtain ⟨found, lost, -, expanded, -, nothing⟩ :=
              expand_respelled made (by decide) respells compiled alsoCompiled
            rw [expanded, (nothing unescaped (by decide)).1]
  refine ⟨by decide +kernel, lost _ .dotted (by decide +kernel), ?_⟩
  exact lost _ (.doubled "exp".toList "x/*.json".toList (by decide) rfl) (by decide +kernel)

end Glob

end ArtifactPipeline
