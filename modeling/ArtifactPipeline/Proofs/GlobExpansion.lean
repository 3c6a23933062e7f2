import ArtifactPipeline.Proofs.Dirtiness
import ArtifactPipeline.Proofs.Listings
import ArtifactPipeline.Proofs.Matching
import Mathlib.Data.Char
import Mathlib.Data.List.Lex
import Mathlib.Order.Compare

set_option autoImplicit false

namespace ArtifactPipeline

namespace Path

def Component.compareText (a b : Component) : Ordering :=
  compareOfLessAndEq a.text b.text

theorem Component.isLE_compareText (a b : Component) :
    (a.compareText b).isLE = true ↔ a.text ≤ b.text :=
  isLE_compareOfLessAndEq le_antisymm not_le le_total

instance : Std.TransCmp Component.compareText where
  eq_swap := compareOfLessAndEq_eq_swap le_antisymm le_total not_le
  isLE_trans {a b c} := by
    simp only [Component.isLE_compareText]
    exact le_trans

theorem Component.compare_eq : Component.compare = compareLex (compareOn rank) compareText := by
  funext a b
  cases a <;> cases b <;> rfl

theorem compareComponents_eq : compareComponents = List.compareLex Component.compare := by
  funext a b
  induction a generalizing b with
  | nil => cases b <;> rfl
  | cons x a ih =>
      cases b with
      | nil => rfl
      | cons y b =>
          rw [compareComponents, List.compareLex_cons_cons, ih]
          cases x.compare y <;> rfl

instance : Std.TransCmp compareComponents := by
  rw [compareComponents_eq, Component.compare_eq]
  infer_instance

end Path

namespace VirtualDisk

variable {disk : VirtualDisk} {tokens : List Glob.Token} {base : Path}

def namesIn (disk : VirtualDisk) (path : Path) : List (List Char) :=
  match disk.follow (.ofPath path) with
  | some (.dir children _) => children
  | _ => []

theorem readDir_eq {path : Path} (dir : disk.isDir path = true) :
    disk.readDir path =
      .ok ((disk.namesIn path).map fun name => path.join ⟨String.ofList name⟩) := by
  unfold isDir at dir
  unfold readDir namesIn
  generalize disk.follow (.ofPath path) = entry at dir ⊢
  cases entry with
  | none => cases dir
  | some entry =>
      cases entry with
      | dir => rfl
      | file | link => cases dir

theorem isDir_of_mem_namesIn {path : Path} {name : List Char} (listed : name ∈ disk.namesIn path) :
    disk.isDir path = true := by
  unfold namesIn at listed
  unfold isDir
  generalize disk.follow (.ofPath path) = entry at listed ⊢
  cases entry with
  | none => cases listed
  | some entry =>
      cases entry with
      | dir => rfl
      | file | link => cases listed

theorem mem_of_follow {loc : Location} {entry : Entry} (found : disk.follow loc = some entry) :
    loc ∈ disk.entries.map Prod.fst := by
  by_contra absent
  have missing : disk.get? loc = none := by
    rw [get?, List.lookup_eq_none_iff]
    intro known member
    rw [bne_iff_ne]
    rintro rfl
    exact absent (List.mem_map_of_mem member)
  rw [follow, linkLimit, followFrom, missing] at found
  cases found

theorem mem_of_isDir {path : Path} (dir : disk.isDir path = true) :
    Location.ofPath path ∈ disk.entries.map Prod.fst := by
  unfold isDir at dir
  split at dir
  · rename_i found
    exact mem_of_follow found
  · cases dir

theorem Tidy.namesIn (tidy : disk.Tidy) (path : Path) :
    (disk.namesIn path).Nodup ∧ ∀ name ∈ disk.namesIn path, Path.IsName name := by
  unfold VirtualDisk.namesIn
  split
  · rename_i children mtime found
    obtain ⟨loc, known⟩ := get?_of_followFrom found
    exact tidy loc _ known
  · exact ⟨List.nodup_nil, nofun⟩

def enters (disk : VirtualDisk) (path : Path) : Bool :=
  disk.isDir path && !disk.isLink path

def takes (disk : VirtualDisk) (tokens : List Glob.Token) (path : Path) : Bool :=
  disk.isFile path && Glob.isMatch tokens (Glob.matchKey path)

theorem isDir_of_isFile {path : Path} (file : disk.isFile path = true) :
    disk.isDir path = false := by
  unfold isFile at file
  unfold isDir
  split at file
  · rename_i found
    rw [found]
  · cases file

theorem foldl_lookAt (paths : List Path) (walk : Glob.Walk) :
    paths.foldl (Glob.lookAt disk tokens) walk =
      ⟨(paths.filter disk.enters).reverse ++ walk.stack,
        walk.found ++ paths.filter (disk.takes tokens)⟩ := by
  induction paths generalizing walk with
  | nil => simp
  | cons path rest ih =>
      have looked : Glob.lookAt disk tokens walk path =
          ⟨if disk.enters path then path :: walk.stack else walk.stack,
            if disk.takes tokens path then walk.found ++ [path] else walk.found⟩ := by
        unfold Glob.lookAt enters takes
        by_cases dir : disk.isDir path = true
        · have noFile : disk.isFile path = false := by
            by_contra file
            rw [isDir_of_isFile (by simpa using file)] at dir
            cases dir
          by_cases link : disk.isLink path = true <;> simp [Disk.isDir, Disk.isLink, *]
        · by_cases kept : disk.isFile path && Glob.isMatch tokens (Glob.matchKey path) <;>
            simp [Disk.isDir, Disk.isFile, dir, kept]
      rw [List.foldl_cons, ih, looked, List.filter_cons, List.filter_cons]
      split_ifs <;> simp

def kids (disk : VirtualDisk) (base : Path) (names : List (List Char)) :
    List (List (List Char)) :=
  (disk.namesIn (base.below names)).map fun name => names ++ [name]

def entered (disk : VirtualDisk) (base : Path) (names : List (List Char)) :
    List (List (List Char)) :=
  (disk.kids base names).filter fun kid => disk.enters (base.below kid)

def taken (disk : VirtualDisk) (tokens : List Glob.Token) (base : Path)
    (names : List (List Char)) : List (List (List Char)) :=
  (disk.kids base names).filter fun kid => disk.takes tokens (base.below kid)

theorem mem_kids {names kid : List (List Char)} :
    kid ∈ disk.kids base names ↔
      ∃ name ∈ disk.namesIn (base.below names), kid = names ++ [name] := by
  simp [kids, eq_comm]

theorem nodup_kids (tidy : disk.Tidy) (names : List (List Char)) :
    (disk.kids base names).Nodup :=
  (tidy.namesIn _).1.map fun _ _ same => by simpa using same

theorem nodup_flatMap_kids (tidy : disk.Tidy) {dirs : List (List (List Char))} (once : dirs.Nodup)
    (keep : List (List Char) → Bool) :
    (dirs.flatMap fun names => (disk.kids base names).filter keep).Nodup := by
  rw [List.nodup_flatMap]
  refine ⟨fun names _ => (nodup_kids tidy names).filter _, once.imp ?_⟩
  intro names others different kid inside outside
  obtain ⟨name, -, rfl⟩ := mem_kids.mp (List.mem_of_mem_filter inside)
  obtain ⟨other, -, same⟩ := mem_kids.mp (List.mem_of_mem_filter outside)
  exact different (List.append_inj' same rfl).1

inductive Entered (disk : VirtualDisk) (base : Path) : List (List Char) → Prop where
  | start : Entered disk base []
  | step {names kid : List (List Char)} (before : Entered disk base names)
      (kept : kid ∈ disk.entered base names) : Entered disk base kid

theorem Entered.isDir (dir : disk.isDir base = true) {names : List (List Char)}
    (walked : Entered disk base names) : disk.isDir (base.below names) = true := by
  cases walked with
  | start => exact dir
  | step before kept => exact (Bool.and_eq_true_iff.mp (List.mem_filter.mp kept).2).1

theorem Entered.isName (tidy : disk.Tidy) {names : List (List Char)}
    (walked : Entered disk base names) : ∀ name ∈ names, Path.IsName name := by
  induction walked with
  | start => nofun
  | step before kept ih =>
      obtain ⟨name, listed, rfl⟩ := mem_kids.mp (List.mem_of_mem_filter kept)
      intro other member
      rcases List.mem_append.mp member with early | last
      · exact ih other early
      · rw [List.mem_singleton.mp last]
        exact (tidy.namesIn _).2 name listed

theorem Entered.isName_kid (tidy : disk.Tidy) {names kid : List (List Char)}
    (walked : Entered disk base names) (member : kid ∈ disk.kids base names) :
    kid ≠ [] ∧ ∀ name ∈ kid, Path.IsName name := by
  obtain ⟨name, listed, rfl⟩ := mem_kids.mp member
  refine ⟨by simp, ?_⟩
  intro other inside
  rcases List.mem_append.mp inside with early | last
  · exact walked.isName tidy other early
  · rw [List.mem_singleton.mp last]
    exact (tidy.namesIn _).2 name listed

theorem Entered.isDir_base {names kid : List (List Char)} (walked : Entered disk base names)
    (member : kid ∈ disk.kids base names) : disk.isDir base = true := by
  induction walked generalizing kid with
  | start =>
      obtain ⟨name, inside, -⟩ := mem_kids.mp member
      exact isDir_of_mem_namesIn inside
  | step before kept ih => exact ih (List.mem_of_mem_filter kept)

/-- No directory is on the stack twice, and all but the base were put there by one before. -/
structure Searching (disk : VirtualDisk) (base : Path) (visited pending : List (List (List Char))) :
    Prop where
  split : (visited ++ pending).Perm ([] :: visited.flatMap (disk.entered base))
  once : visited.Nodup

namespace Searching

variable {visited pending : List (List (List Char))} {names : List (List Char)}

theorem nodup (searching : Searching disk base visited pending) (tidy : disk.Tidy) :
    (visited ++ pending).Nodup := by
  rw [searching.split.nodup_iff, List.nodup_cons]
  refine ⟨?_, nodup_flatMap_kids tidy searching.once _⟩
  intro member
  obtain ⟨dir, -, inside⟩ := List.mem_flatMap.mp member
  obtain ⟨name, -, same⟩ := mem_kids.mp (List.mem_of_mem_filter inside)
  simp at same

theorem visit (searching : Searching disk base visited (names :: pending)) (tidy : disk.Tidy) :
    Searching disk base (names :: visited) ((disk.entered base names).reverse ++ pending) where
  split := by
    have moved : (names :: visited ++ pending).Perm ([] :: visited.flatMap (disk.entered base)) :=
      List.perm_middle.symm.trans searching.split
    rw [List.flatMap_cons]
    calc (names :: visited ++ ((disk.entered base names).reverse ++ pending)).Perm
            ((disk.entered base names).reverse ++ (names :: visited ++ pending)) := by
          rw [← List.append_assoc, ← List.append_assoc]
          exact List.perm_append_comm.append_right pending
      _ |>.Perm (disk.entered base names ++ ([] :: visited.flatMap (disk.entered base))) :=
          (List.reverse_perm _).append moved
      _ |>.Perm _ := List.perm_middle
  once := by
    have whole := searching.nodup tidy
    rw [List.nodup_append] at whole
    refine List.nodup_cons.mpr ⟨?_, searching.once⟩
    intro again
    exact whole.2.2 names again names List.mem_cons_self rfl

theorem walked (searching : Searching disk base visited pending) :
    ∀ names ∈ visited ++ pending, Entered disk base names := by
  intro names
  -- What put a directory on the stack is the one that it lies in, one name shorter.
  induction names using List.reverseRecOn with
  | nil => exact fun _ => .start
  | append_singleton front last ih =>
      intro member
      rcases List.mem_cons.mp (searching.split.mem_iff.mp member) with empty | inside
      · simp at empty
      · obtain ⟨dir, before, kept⟩ := List.mem_flatMap.mp inside
        obtain ⟨name, -, same⟩ := mem_kids.mp (List.mem_of_mem_filter kept)
        obtain rfl := (List.append_inj' same rfl).1
        exact .step (ih (List.mem_append_left _ before)) kept

theorem complete (searching : Searching disk base visited []) (walked : Entered disk base names) :
    names ∈ visited := by
  have split := searching.split
  rw [List.append_nil] at split
  induction walked with
  | start => exact split.mem_iff.mpr List.mem_cons_self
  | step _ kept ih =>
      exact split.mem_iff.mpr
        (List.mem_cons_of_mem _ (List.mem_flatMap.mpr ⟨_, ih, kept⟩))

theorem bounded (searching : Searching disk base visited pending) (tidy : disk.Tidy)
    (dir : disk.isDir base = true) : (visited ++ pending).length ≤ disk.entries.length := by
  let place (names : List (List Char)) := Location.ofPath (base.below names)
  have apart : ((visited ++ pending).map place).Nodup := by
    refine List.Nodup.map_on ?_ (searching.nodup tidy)
    intro names member others alsoMember same
    have first := Location.ofPath_below base ((searching.walked names member).isName tidy)
    have second := Location.ofPath_below base ((searching.walked others alsoMember).isName tidy)
    have steps := congrArg Location.steps (first.symm.trans (same.trans second))
    exact List.append_cancel_left steps
  have present : (visited ++ pending).map place ⊆ disk.entries.map Prod.fst := by
    intro loc member
    obtain ⟨names, inside, rfl⟩ := List.mem_map.mp member
    exact mem_of_isDir ((searching.walked names inside).isDir dir)
  simpa using (List.subperm_of_subset apart present).length_le

end Searching

/-- The walk ends, and keeps what it takes from the directories it comes to. It would not go on
with more fuel. -/
theorem collect_eq (tidy : disk.Tidy) (dir : disk.isDir base = true)
    {visited pending : List (List (List Char))} {fuel : Nat}
    (searching : Searching disk base visited pending)
    (enough : disk.entries.length < fuel + visited.length) :
    ∃ dirs : List (List (List Char)), dirs.Nodup ∧
      (∀ names, names ∈ dirs ↔ Entered disk base names) ∧
      ∀ more, Glob.collect disk tokens (fuel + more)
        ⟨pending.map base.below,
          (visited.reverse.flatMap (disk.taken tokens base)).map base.below⟩ =
        .ok ((dirs.flatMap (disk.taken tokens base)).map base.below) := by
  -- Each round moves one directory from the stack to the visited. These never outnumber the
  -- entries, so the fuel cannot run out before the stack does.
  induction fuel generalizing visited pending with
  | zero =>
      have bound := searching.bounded tidy dir
      rw [List.length_append] at bound
      omega
  | succ fuel ih =>
      cases pending with
      | nil =>
          refine ⟨visited.reverse, List.nodup_reverse.mpr searching.once, ?_, ?_⟩
          · intro names
            rw [List.mem_reverse]
            exact ⟨fun member => searching.walked names (by simpa using member),
              searching.complete⟩
          · intro more
            rw [Nat.succ_add]
            rfl
      | cons names pending =>
          have isDir := (searching.walked names (by simp)).isDir dir
          have listed : Disk.readDir disk (base.below names) =
              .ok ((disk.kids base names).map base.below) := by
            refine (readDir_eq isDir).trans ?_
            rw [kids, List.map_map]
            congr 1
            refine List.map_congr_left fun name _ => ?_
            exact (Path.below_concat base names name).symm
          obtain ⟨dirs, once, reached, collected⟩ := ih (searching.visit tidy) (by
            rw [List.length_cons]
            omega)
          refine ⟨dirs, once, reached, fun more => ?_⟩
          rw [← collected more, Nat.succ_add, Glob.collect]
          simp only [List.map_cons, listed, foldl_lookAt]
          simp [List.filter_map, entered, taken, Function.comp_def]

end VirtualDisk

namespace Path

def Apart (pieces : List (List Char)) : Prop :=
  ∀ piece ∈ pieces, piece ≠ [] ∧ '/' ∉ piece

theorem apart_nil : Apart [] := by simp [Apart]

theorem Apart.split {pieces : List (List Char)} (apart : Apart pieces) (some_ : pieces ≠ []) :
    Text.splitOn '/' (Text.joinWith ['/'] pieces) = pieces :=
  Text.splitOn_joinWith some_ fun piece member => (apart piece member).2

theorem apart_of_names {names : List (List Char)} (areNames : ∀ name ∈ names, IsName name) :
    Apart names :=
  fun name member => ⟨(areNames name member).filled, (areNames name member).clean⟩

def spelled (rooted : Bool) (pieces : List (List Char)) : List Char :=
  (if rooted then ['/'] else []) ++ Text.joinWith ['/'] pieces

theorem Apart.split_spelled {pieces : List (List Char)} (apart : Apart pieces)
    (some_ : pieces ≠ []) (rooted : Bool) :
    Text.splitOn '/' (spelled rooted pieces) = if rooted then [] :: pieces else pieces := by
  cases rooted <;> simp [spelled, apart.split some_]

theorem joinText_spelled {rooted : Bool} {pieces : List (List Char)} {name : List Char}
    (apart : Apart (pieces ++ [name])) :
    joinText (spelled rooted pieces) name = spelled rooted (pieces ++ [name]) := by
  have relative := isAbsoluteText_of_notMem (apart name (by simp)).2
  have before : Apart pieces := fun piece member => apart piece (by simp [member])
  by_cases empty : pieces = []
  · cases rooted <;> simp [empty, spelled, joinText, Text.joinWith, relative]
  · have filled : spelled rooted pieces ≠ [] := by
      have some_ : Text.joinWith ['/'] pieces ≠ [] := by
        rwa [Ne, Text.joinWith_eq_nil fun piece member => (before piece member).1]
      simp [spelled, some_]
    obtain ⟨front, joined, whole | whole⟩ := joinText_split filled relative
    · rw [joined, ← whole, spelled, spelled, Text.joinWith_append _ empty (List.cons_ne_nil _ _)]
      simp [Text.joinWith]
    · -- No text of nonempty pieces ends in a slash.
      have pieces_ := before.split_spelled empty rooted
      rw [whole, Text.splitOn_append_slash, Text.splitOn_nil] at pieces_
      have ends : (if rooted then [] :: pieces else pieces).getLast? = some [] := by
        rw [← pieces_]
        simp
      have last : pieces.getLast? = some [] := by
        obtain ⟨piece, rest, rfl⟩ := List.exists_cons_of_ne_nil empty
        cases rooted <;> simpa using ends
      exact absurd rfl (before [] (List.mem_of_getLast? last)).1

theorem text_below (base : Path) (rooted : Bool) (front : List (List Char))
    {names : List (List Char)} (text : base.text.toList = spelled rooted front)
    (apart : Apart (front ++ names)) :
    (base.below names).text.toList = spelled rooted (front ++ names) := by
  induction names using List.reverseRecOn with
  | nil => simpa using text
  | append_singleton names name ih =>
      rw [← List.append_assoc] at apart
      have before := ih fun piece member => apart piece (List.mem_append_left _ member)
      rw [below_concat, ← List.append_assoc, ← joinText_spelled apart, ← before]
      simp [join]

end Path

namespace Glob

def leading (pattern : String) : List (List Char) :=
  (Text.splitOn '/' pattern.toList).dropLast.takeWhile fun part => !part.any isMeta

theorem leading_prefix (pattern : String) :
    ∃ more, more ≠ [] ∧ Text.splitOn '/' pattern.toList = leading pattern ++ more := by
  have filled := Text.splitOn_ne_nil '/' pattern.toList
  obtain ⟨skipped, split⟩ := List.takeWhile_prefix (l := (Text.splitOn '/' pattern.toList).dropLast)
    (fun part => !part.any isMeta)
  refine ⟨skipped ++ [(Text.splitOn '/' pattern.toList).getLast filled], by simp, ?_⟩
  rw [leading, ← List.append_assoc, split, List.dropLast_append_getLast]

theorem mem_splitOn_of_mem_leading {pattern : String} {part : List Char}
    (member : part ∈ leading pattern) : part ∈ Text.splitOn '/' pattern.toList := by
  obtain ⟨more, -, split⟩ := leading_prefix pattern
  rw [split]
  exact List.mem_append_left _ member

theorem unmarked_of_mem_leading {pattern : String} {part : List Char}
    (member : part ∈ leading pattern) : ∀ c ∈ part, isMeta c = false := by
  have unmarked := List.mem_takeWhile_imp member
  simpa using unmarked

theorem enterLiteral_eq (base : Path) {parts : List (List Char)}
    (filled : ∀ part ∈ parts.takeWhile fun part => !part.any isMeta, part ≠ []) :
    enterLiteral base parts = base.below (parts.takeWhile fun part => !part.any isMeta) := by
  induction parts generalizing base with
  | nil => rfl
  | cons part rest ih =>
      rw [enterLiteral]
      by_cases marked : part.any isMeta = true
      · simp [marked]
      · rw [List.takeWhile_cons_of_pos (by simpa using marked)] at filled ⊢
        rw [if_neg marked, ih _ fun other member => filled other (List.mem_cons_of_mem _ member)]
        have own := filled part List.mem_cons_self
        simp [Path.below, own]

theorem literalBase_eq {pattern : String} (apart : Path.Apart (leading pattern)) :
    literalBase pattern =
      if leading pattern = [] then ⟨"."⟩ else (⟨""⟩ : Path).below (leading pattern) := by
  have entered : enterLiteral ⟨""⟩ (Text.splitOn '/' pattern.toList).dropLast =
      (⟨""⟩ : Path).below (leading pattern) :=
    enterLiteral_eq ⟨""⟩ fun part member => (apart part member).1
  have text : ((⟨""⟩ : Path).below (leading pattern)).text.toList =
      Text.joinWith ['/'] (leading pattern) :=
    Path.text_below ⟨""⟩ false [] rfl apart
  rw [literalBase, entered]
  have empty : ((⟨""⟩ : Path).below (leading pattern)).text.isEmpty = true ↔
      leading pattern = [] := by
    rw [String.isEmpty_iff, ← String.toList_eq_nil_iff, text]
    exact Text.joinWith_eq_nil fun part member => (apart part member).1
  by_cases none : leading pattern = []
  · rw [if_pos (empty.mpr none), if_pos none]
  · rw [if_neg (mt empty.mp none), if_neg none]

theorem starts_with_leading {pattern : String} {tokens : List Token} {text : List Char}
    (read : tokens? pattern = some tokens) (some_ : leading pattern ≠ [])
    (apart : Path.Apart (leading pattern)) (plain : ∀ part ∈ leading pattern, '\\' ∉ part)
    (accepted : isMatch tokens (Text.utf8 (String.ofList text)) = true) :
    ∃ more, text = Text.joinWith ['/'] (leading pattern) ++ '/' :: more := by
  obtain ⟨more, filled, split⟩ := leading_prefix pattern
  have whole : pattern.toList =
      Text.joinWith ['/'] (leading pattern) ++ '/' :: Text.joinWith ['/'] more := by
    rw [← Text.joinWith_splitOn '/' pattern.toList, split, Text.joinWith_append _ some_ filled]
    simp
  refine starts_of_isMatch read whole ?_ accepted
  intro c member
  by_cases slash : c = '/'
  · rw [slash]
    exact ⟨by decide, by decide⟩
  · obtain ⟨piece, inside, within⟩ := Text.exists_mem_splitOn slash member
    rw [apart.split some_] at inside
    refine ⟨unmarked_of_mem_leading inside c within, ?_⟩
    rintro rfl
    exact plain piece inside within

theorem matchKey_dotted {path : Path} {rest : List Char} (plain : '\\' ∉ rest)
    (text : path.text.toList = '.' :: '/' :: rest) :
    matchKey path = Text.utf8 (String.ofList rest) := by
  have same : Text.exchange '\\' '/' path.text.toList = '.' :: '/' :: rest := by
    rw [text, Text.exchange_of_notMem (by simpa using plain)]
  rw [matchKey, same]
  rfl

theorem matchKey_other {path : Path} (plain : '\\' ∉ path.text.toList)
    (undotted : ∀ rest, path.text.toList ≠ '.' :: '/' :: rest) :
    matchKey path = Text.utf8 path.text := by
  rw [matchKey, Text.exchange_of_notMem plain]
  split
  · rename_i rest text
    exact absurd text (undotted rest)
  · simp

theorem tokens_of_compile {pattern : String} {tokens : List Token}
    (compiled : compile pattern = .ok tokens) : tokens? pattern = some tokens := by
  unfold compile at compiled
  split at compiled
  · cases compiled
  · rename_i read
    split_ifs at compiled
    cases compiled
    exact read

/-- A relative pattern without steps that are dropped or lead up, and without escapes. -/
structure Straight (pattern : String) : Prop where
  names : ∀ part ∈ Text.splitOn '/' pattern.toList,
    part ≠ [] ∧ part ≠ ['.'] ∧ part ≠ ['.', '.']
  unescaped : '\\' ∉ pattern.toList

variable {pattern : String} {tokens : List Token}

theorem Straight.leading (straight : Straight pattern) :
    ∀ part ∈ leading pattern, Path.IsName part := by
  intro part member
  have inside := mem_splitOn_of_mem_leading member
  obtain ⟨filled, undotted, down⟩ := straight.names part inside
  exact ⟨by simp [Path.isIdle, filled, undotted], Text.notMem_of_mem_splitOn inside, down⟩

theorem Straight.ofPath_literalBase (straight : Straight pattern) :
    Location.ofPath (literalBase pattern) = ⟨false, Glob.leading pattern⟩ := by
  rw [literalBase_eq (Path.apart_of_names straight.leading)]
  split_ifs with none
  · rw [none]
    decide
  · exact Location.ofPath_below ⟨""⟩ straight.leading

theorem Straight.ofPath_below (straight : Straight pattern) {names : List (List Char)}
    (areNames : ∀ name ∈ names, Path.IsName name) :
    Location.ofPath ((literalBase pattern).below names) =
      ⟨false, Glob.leading pattern ++ names⟩ := by
  rw [Location.ofPath_below _ areNames, straight.ofPath_literalBase]

end Glob

namespace VirtualDisk

variable {disk : VirtualDisk}

theorem isDir_eq {path other : Path} (same : Location.ofPath path = .ofPath other) :
    disk.isDir path = disk.isDir other := by
  rw [isDir, same, isDir]

theorem isFile_eq {path other : Path} (same : Location.ofPath path = .ofPath other) :
    disk.isFile path = disk.isFile other := by
  rw [isFile, same, isFile]

theorem isLink_eq {path other : Path} (same : Location.ofPath path = .ofPath other) :
    disk.isLink path = disk.isLink other := by
  rw [isLink, same, isLink]

/-- The path is come to from the working directory by listings, none of them of a linked
directory. -/
inductive Reached (disk : VirtualDisk) : Path → Prop where
  | top {path : Path} {paths : List Path} (listed : disk.readDir ⟨"."⟩ = .ok paths)
      (member : path ∈ paths) : Reached disk path
  | deeper {dir path : Path} {paths : List Path} (before : Reached disk dir)
      (solid : disk.isLink dir = false) (listed : disk.readDir dir = .ok paths)
      (member : path ∈ paths) : Reached disk path

theorem exists_name_of_readDir {dir path : Path} {paths : List Path}
    (listed : disk.readDir dir = .ok paths) (member : path ∈ paths) :
    disk.isDir dir = true ∧
      ∃ name ∈ disk.namesIn dir, path = dir.join ⟨String.ofList name⟩ := by
  have isDir : disk.isDir dir = true := by
    unfold readDir at listed
    unfold VirtualDisk.isDir
    split at listed
    · rfl
    · cases listed
  rw [readDir_eq isDir] at listed
  cases listed
  obtain ⟨name, inside, rfl⟩ := List.mem_map.mp member
  exact ⟨isDir, name, inside, rfl⟩

theorem Reached.entered {path : Path} (reached : Reached disk path) :
    ∃ names, Entered disk ⟨"."⟩ names ∧
      ∃ name ∈ disk.namesIn ((⟨"."⟩ : Path).below names),
        path = (⟨"."⟩ : Path).below (names ++ [name]) := by
  induction reached with
  | top listed member =>
      obtain ⟨-, name, inside, rfl⟩ := exists_name_of_readDir listed member
      exact ⟨[], .start, name, inside, rfl⟩
  | deeper before solid listed member ih =>
      obtain ⟨names, entered, last, known, rfl⟩ := ih
      obtain ⟨isDir, name, inside, rfl⟩ := exists_name_of_readDir listed member
      refine ⟨names ++ [last], entered.step ?_, name, inside, ?_⟩
      · rw [VirtualDisk.entered, List.mem_filter, mem_kids]
        exact ⟨⟨last, known, rfl⟩, by simp [enters, isDir, solid]⟩
      · rw [Path.below_concat _ (names ++ [last])]

def Unescaped (disk : VirtualDisk) : Prop :=
  ∀ item ∈ disk.entries, ∀ step ∈ item.1.steps, '\\' ∉ step

instance (disk : VirtualDisk) : Decidable disk.Unescaped := by
  unfold Unescaped
  infer_instance

theorem Unescaped.of_isFile (unescaped : disk.Unescaped) {path : Path}
    (file : disk.isFile path = true) : ∀ step ∈ (Location.ofPath path).steps, '\\' ∉ step := by
  unfold isFile at file
  split at file
  · rename_i found
    obtain ⟨item, member, same⟩ := List.mem_map.mp (mem_of_follow found)
    rw [← same]
    exact unescaped item member
  · cases file

end VirtualDisk

namespace Glob

open VirtualDisk

variable {disk : VirtualDisk} {pattern : String} {tokens : List Token}

/-- A file in a directory of the walk, by its names from the base, that the walk keeps. -/
def Kept (disk : VirtualDisk) (tokens : List Token) (base : Path) (kid : List (List Char)) : Prop :=
  ∃ names, Entered disk base names ∧ kid ∈ disk.kids base names ∧
    disk.takes tokens (base.below kid) = true

theorem expand_eq (tidy : disk.Tidy) (compiled : compile pattern = .ok tokens) :
    ∃ files : List (List (List Char)), files.Nodup ∧
      (∀ kid, kid ∈ files ↔ Kept disk tokens (literalBase pattern) kid) ∧
      (disk.isDir (literalBase pattern) = true → ∀ fuel, Disk.extent disk < fuel →
        collect disk tokens fuel ⟨[literalBase pattern], []⟩ =
          .ok (files.map (literalBase pattern).below)) ∧
      expand disk pattern = .ok (Path.sort (files.map (literalBase pattern).below)) := by
  unfold expand
  simp only [compiled]
  by_cases dir : disk.isDir (literalBase pattern) = true
  · have start : Searching disk (literalBase pattern) [] [[]] := ⟨.refl _, List.nodup_nil⟩
    have enough : disk.entries.length <
        disk.extent + 1 + ([] : List (List (List Char))).length :=
      Nat.lt_add_of_pos_right Nat.two_pos
    obtain ⟨dirs, once, walked, collected⟩ := collect_eq tidy dir start enough
    refine ⟨dirs.flatMap (disk.taken tokens (literalBase pattern)),
      nodup_flatMap_kids tidy once _, ?_, fun _ => ?_, ?_⟩
    · intro kid
      simp [Kept, taken, walked]
    · intro fuel plenty
      obtain ⟨more, rfl⟩ := Nat.exists_eq_add_of_lt plenty
      rw [show Disk.extent disk + more + 1 = disk.extent + 1 + more by
        rw [Nat.add_right_comm]; rfl]
      exact collected more
    · have found : collect disk tokens (Disk.extent disk + 1) ⟨[literalBase pattern], []⟩ = .ok
          ((dirs.flatMap (disk.taken tokens (literalBase pattern))).map
            (literalBase pattern).below) := collected 0
      simp [Disk.isDir, dir, found]
  · refine ⟨[], List.nodup_nil, ?_, fun isDir => absurd isDir dir,
      by simp [Disk.isDir, dir, Path.sort]⟩
    rintro kid
    refine iff_of_false List.not_mem_nil ?_
    rintro ⟨names, walked, member, -⟩
    exact dir (walked.isDir_base member)

theorem Straight.leads (straight : Straight pattern) (read : tokens? pattern = some tokens)
    {names : List (List Char)} (below : names ≠ []) (areNames : ∀ name ∈ names, Path.IsName name)
    (accepted : isMatch tokens (Text.utf8 (String.ofList (Text.joinWith ['/'] names))) = true) :
    ∃ rest, rest ≠ [] ∧ names = Glob.leading pattern ++ rest := by
  have apart := Path.apart_of_names straight.leading
  have plain : ∀ part ∈ Glob.leading pattern, '\\' ∉ part := by
    intro part member escaped
    have inside := mem_splitOn_of_mem_leading member
    exact straight.unescaped (Text.mem_of_mem_splitOn inside escaped)
  by_cases none : Glob.leading pattern = []
  · exact ⟨names, below, by rw [none, List.nil_append]⟩
  · obtain ⟨tail, starts⟩ := starts_with_leading read none apart plain accepted
    refine ⟨Text.splitOn '/' tail, Text.splitOn_ne_nil _ _, ?_⟩
    rw [← (Path.apart_of_names areNames).split below, starts, Text.splitOn_append_slash,
      apart.split none]

def shelf : VirtualDisk :=
  new.applyAll [.write ⟨"exp/a/run1.json"⟩ [], .symlink ⟨"a/run1.json"⟩ ⟨"exp/run2.csv"⟩,
    .symlink ⟨".."⟩ ⟨"exp/a/back"⟩]

end Glob

end ArtifactPipeline
