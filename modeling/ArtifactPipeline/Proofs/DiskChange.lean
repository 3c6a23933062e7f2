import ArtifactPipeline.Disk.Step
import ArtifactPipeline.NodeId
import ArtifactPipeline.Path.Location
import Mathlib.Data.List.Basic
import Mathlib.Data.List.Infix

set_option autoImplicit false

namespace ArtifactPipeline

namespace Text

theorem splitOn_of_notMem {sep : Char} {text : List Char} (clean : sep ∉ text) :
    splitOn sep text = [text] := by
  induction text with
  | nil => rfl
  | cons c rest ih =>
      have other : c ≠ sep := fun same => clean (same ▸ List.mem_cons_self)
      rw [splitOn, if_neg other, ih fun member => clean (List.mem_cons_of_mem _ member)]

theorem splitOn_append {sep : Char} {piece rest : List Char} (clean : sep ∉ piece) :
    splitOn sep (piece ++ sep :: rest) = piece :: splitOn sep rest := by
  induction piece with
  | nil => exact splitOn_sep sep rest
  | cons c piece ih =>
      have other : c ≠ sep := fun same => clean (same ▸ List.mem_cons_self)
      rw [List.cons_append, splitOn, if_neg other,
        ih fun member => clean (List.mem_cons_of_mem _ member)]

theorem notMem_of_mem_splitOn {sep : Char} {text piece : List Char}
    (member : piece ∈ splitOn sep text) : sep ∉ piece := by
  induction text generalizing piece with
  | nil =>
      rw [splitOn_nil, List.mem_singleton] at member
      simp [member]
  | cons c rest ih =>
      rw [splitOn] at member
      split at member
      · rcases List.mem_cons.mp member with rfl | later
        · simp
        · exact ih later
      · rename_i other
        split at member
        · rw [List.mem_singleton] at member
          simpa [member] using Ne.symm other
        · rename_i first pieces known
          rcases List.mem_cons.mp member with rfl | later
          · have clean : sep ∉ first := ih (by simp [known])
            simpa [clean] using Ne.symm other
          · exact ih (by simp [known, later])

theorem splitOn_joinWith {sep : Char} {pieces : List (List Char)} (some_ : pieces ≠ [])
    (clean : ∀ piece ∈ pieces, sep ∉ piece) : splitOn sep (joinWith [sep] pieces) = pieces := by
  induction pieces with
  | nil => exact absurd rfl some_
  | cons piece rest ih =>
      have headClean := clean piece (by simp)
      cases rest with
      | nil => exact splitOn_of_notMem headClean
      | cons next rest =>
          have tail := ih (by simp) fun other member => clean other (by simp [member])
          rw [joinWith, List.append_assoc, List.singleton_append, splitOn_append headClean, tail]
          simp

theorem joinWith_eq_nil {sep : List Char} {pieces : List (List Char)}
    (filled : ∀ piece ∈ pieces, piece ≠ []) : joinWith sep pieces = [] ↔ pieces = [] := by
  cases pieces with
  | nil => simp [joinWith]
  | cons piece rest =>
      have first := filled piece (by simp)
      cases rest <;> simp [joinWith, first]

end Text

namespace Location

theorem walk_names (loc : Location) (names : List (List Char)) :
    loc.walk (names.map .name) = ⟨loc.rooted, loc.steps ++ names⟩ := by
  induction names generalizing loc with
  | nil => simp
  | cons name rest ih => simp [ih, step]

end Location

namespace NodeId

def location (id : NodeId) : Location :=
  .ofPath ⟨id⟩

structure Plain (id : NodeId) : Prop where
  spelled : canonical id = id
  inside : Path.Component.parent ∉ (Path.mk id).components

instance (id : NodeId) : Decidable (Plain id) :=
  decidable_of_iff (canonical id = id ∧ Path.Component.parent ∉ (Path.mk id).components)
    ⟨fun plain => ⟨plain.1, plain.2⟩, fun plain => ⟨plain.spelled, plain.inside⟩⟩

def parts (raw : List Char) : List (List Char) :=
  (Text.splitOn '/' (Text.trim raw)).filter fun part => !Path.isIdle part

def spell (absolute : Bool) (parts : List (List Char)) : List Char :=
  if absolute then '/' :: Text.joinWith ['/'] parts
  else if parts.isEmpty then ['.'] else Text.joinWith ['/'] parts

theorem notIdle_of_mem_parts {raw part : List Char} (member : part ∈ parts raw) :
    Path.isIdle part = false := by
  simpa using (List.mem_filter.mp member).2

theorem clean_of_mem_parts {raw part : List Char} (member : part ∈ parts raw) : '/' ∉ part :=
  Text.notMem_of_mem_splitOn (List.mem_filter.mp member).1

theorem ne_nil_of_notIdle {part : List Char} (notIdle : Path.isIdle part = false) : part ≠ [] := by
  intro empty
  subst empty
  simp [Path.isIdle] at notIdle

theorem canonicalText_eq (raw : List Char) :
    canonicalText raw = spell (Path.isAbsoluteText (Text.trim raw)) (parts raw) := by
  have empty : (Text.joinWith ['/'] (parts raw)).isEmpty = (parts raw).isEmpty := by
    have filled : ∀ part ∈ parts raw, part ≠ [] :=
      fun part member => ne_nil_of_notIdle (notIdle_of_mem_parts member)
    have same : Text.joinWith ['/'] (parts raw) = [] ↔ parts raw = [] :=
      Text.joinWith_eq_nil filled
    rw [Bool.eq_iff_iff, List.isEmpty_iff, List.isEmpty_iff]
    exact same
  rw [canonicalText, spell, ← empty]
  rfl

theorem steps_of_notIdle {pieces : List (List Char)}
    (notIdle : ∀ piece ∈ pieces, Path.isIdle piece = false) :
    Path.steps pieces = pieces.map Path.Component.ofSegment := by
  unfold Path.steps
  congr 1
  exact List.filter_eq_self.mpr fun piece member => by simp [notIdle piece member]

theorem componentsOf_relative {c : Char} {text first : List Char} {rest : List (List Char)}
    (relative : c ≠ '/') (split : Text.splitOn '/' (c :: text) = first :: rest)
    (dotless : first ≠ ['.']) :
    Path.componentsOf (c :: text) = Path.steps (first :: rest) := by
  unfold Path.componentsOf
  split
  · rename_i empty
    cases empty
  · rename_i absolute
    cases absolute
    exact absurd rfl relative
  · rw [split]
    split
    · rename_i dot
      cases dot
      exact absurd rfl dotless
    · rfl

theorem componentsOf_spell {absolute : Bool} {pieces : List (List Char)}
    (notIdle : ∀ piece ∈ pieces, Path.isIdle piece = false)
    (clean : ∀ piece ∈ pieces, '/' ∉ piece) :
    Path.componentsOf (spell absolute pieces) =
      (if absolute then [.root] else if pieces.isEmpty then [.current] else []) ++
        pieces.map Path.Component.ofSegment := by
  cases pieces with
  | nil => cases absolute <;> rfl
  | cons first rest =>
      have split : Text.splitOn '/' (Text.joinWith ['/'] (first :: rest)) = first :: rest :=
        Text.splitOn_joinWith (by simp) clean
      have walked := steps_of_notIdle notIdle
      cases absolute with
      | true => simp [spell, Path.componentsOf, split, walked]
      | false =>
          have firstNotIdle := notIdle first (by simp)
          have filled := ne_nil_of_notIdle firstNotIdle
          obtain ⟨c, tail, rfl⟩ := List.exists_cons_of_ne_nil filled
          have relative : c ≠ '/' := fun same => clean (c :: tail) (by simp) (by simp [same])
          have dotless : c :: tail ≠ ['.'] := by
            intro dot
            simp [dot, Path.isIdle] at firstNotIdle
          obtain ⟨more, joined⟩ :
              ∃ more, Text.joinWith ['/'] ((c :: tail) :: rest) = c :: more := by
            cases rest <;> simp [Text.joinWith]
          rw [joined] at split
          simp only [spell, List.isEmpty_cons, Bool.false_eq_true, if_false, joined,
            List.nil_append]
          rw [componentsOf_relative relative split dotless, walked]

theorem Plain.text_location {id : NodeId} (plain : Plain id) :
    (location id).text = id.toList := by
  have text : canonicalText id.toList = id.toList := by
    have spelled := congrArg String.toList plain.spelled
    simpa [canonical] using spelled
  have walked : (Path.mk id).components = (if Path.isAbsoluteText (Text.trim id.toList) then [.root]
      else if (parts id.toList).isEmpty then [.current] else []) ++
        (parts id.toList).map Path.Component.ofSegment := by
    rw [← componentsOf_spell (fun _ => notIdle_of_mem_parts) (fun _ => clean_of_mem_parts),
      ← canonicalText_eq, text]
    rfl
  have named : (parts id.toList).map Path.Component.ofSegment =
      (parts id.toList).map Path.Component.name := by
    refine List.map_congr_left fun part member => ?_
    have outside : part ≠ ['.', '.'] := by
      intro up
      refine plain.inside ?_
      rw [walked]
      exact List.mem_append_right _ (List.mem_map.mpr ⟨part, member, by rw [up]; rfl⟩)
    simp [Path.Component.ofSegment, outside]
  rw [named] at walked
  rw [location, Location.ofPath, walked, Location.walk_append, Location.walk_names]
  conv_rhs => rw [← text, canonicalText_eq]
  cases Path.isAbsoluteText (Text.trim id.toList) with
  | true => simp [Location.step, Location.text, spell]
  | false =>
      cases parts id.toList with
      | nil => rfl
      | cons first rest => simp [Location.here, Location.text, spell]

theorem Plain.location_inj {a b : NodeId} (plainA : Plain a) (plainB : Plain b)
    (same : location a = location b) : a = b := by
  apply String.toList_injective
  rw [← plainA.text_location, ← plainB.text_location, same]

end NodeId

namespace Location

def Holds (loc target : Location) : Prop :=
  loc.rooted = target.rooted ∧ loc.steps <+: target.steps

def Above (loc target : Location) : Prop :=
  loc.Holds target ∧ loc ≠ target

instance (loc target : Location) : Decidable (loc.Holds target) :=
  inferInstanceAs (Decidable (_ ∧ _))

instance (loc target : Location) : Decidable (loc.Above target) :=
  inferInstanceAs (Decidable (_ ∧ _))

def dir? (loc : Location) : Option Location :=
  if loc.steps = [] then none else some ⟨loc.rooted, loc.steps.dropLast⟩

theorem holds_refl (loc : Location) : loc.Holds loc :=
  ⟨rfl, List.prefix_refl _⟩

theorem Holds.trans {a b c : Location} (lower : a.Holds b) (upper : b.Holds c) : a.Holds c :=
  ⟨lower.1.trans upper.1, lower.2.trans upper.2⟩

theorem holds_append {rooted : Bool} {steps : List (List Char)} {name : List Char}
    {loc : Location} :
    loc.Holds ⟨rooted, steps ++ [name]⟩ ↔
      loc = ⟨rooted, steps ++ [name]⟩ ∨ loc.Holds ⟨rooted, steps⟩ := by
  obtain ⟨ownRooted, ownSteps⟩ := loc
  simp only [Holds, List.prefix_concat_iff, mk.injEq]
  tauto

theorem not_holds_of_append {rooted : Bool} {steps : List (List Char)} {name : List Char} :
    ¬(Location.mk rooted (steps ++ [name])).Holds ⟨rooted, steps⟩ := by
  intro holds
  have short := holds.2.length_le
  simp only [List.length_append, List.length_singleton] at short
  omega

theorem holds_start {rooted : Bool} {loc : Location} :
    loc.Holds ⟨rooted, []⟩ ↔ loc = ⟨rooted, []⟩ := by
  obtain ⟨ownRooted, ownSteps⟩ := loc
  simp [Holds, List.prefix_nil]

theorem dir?_ne_self {loc : Location} : loc.dir? ≠ some loc := by
  intro same
  unfold dir? at same
  split at same
  · cases same
  · rename_i below
    have shorter := congrArg (fun other : Location => other.steps.length) (Option.some.inj same)
    have long := List.length_pos_iff.mpr below
    simp only [List.length_dropLast] at shorter
    omega

theorem start_or_append (loc : Location) :
    loc.steps = [] ∧ loc.dir? = none ∨
      ∃ steps name, loc = ⟨loc.rooted, steps ++ [name]⟩ ∧ loc.dir? = some ⟨loc.rooted, steps⟩ := by
  obtain ⟨rooted, steps⟩ := loc
  rcases List.eq_nil_or_concat steps with rfl | ⟨front, name, rfl⟩
  · exact .inl ⟨rfl, by simp [dir?]⟩
  · refine .inr ⟨front, name, ?_, ?_⟩
    · simp
    · simp [dir?]

theorem above_iff_holds_dir {loc target : Location} :
    loc.Above target ↔ ∃ dir, target.dir? = some dir ∧ loc.Holds dir := by
  -- Nothing is above a start; above a longer location is what holds it without the last step.
  rcases target.start_or_append with ⟨start, none⟩ | ⟨steps, name, split, dir⟩
  · rw [none]
    constructor
    · rintro ⟨holds, apart⟩
      refine absurd ?_ apart
      obtain ⟨rooted, steps⟩ := loc
      obtain ⟨otherRooted, otherSteps⟩ := target
      have empty := holds.2
      simp only at start empty
      subst start
      rw [List.prefix_nil] at empty
      rw [Location.mk.injEq]
      exact ⟨holds.1, empty⟩
    · rintro ⟨_, impossible, _⟩
      cases impossible
  · rw [dir]
    constructor
    · rintro ⟨holds, apart⟩
      refine ⟨_, rfl, ?_⟩
      rw [split] at holds apart
      exact (holds_append.mp holds).resolve_left apart
    · rintro ⟨_, same, holds⟩
      cases same
      refine ⟨?_, ?_⟩
      · rw [split]
        exact holds_append.mpr (.inr holds)
      · intro same
        rw [same, split] at holds
        exact not_holds_of_append holds

end Location

def Entry.bare : Entry → Entry
  | .dir _ mtime => .dir [] mtime
  | entry => entry

@[simp] theorem Entry.mtime?_bare (entry : Entry) : entry.bare.mtime? = entry.mtime? := by
  cases entry <;> rfl

namespace VirtualDisk

def bare? (disk : VirtualDisk) (loc : Location) : Option Entry :=
  (disk.get? loc).map Entry.bare

/-- Making a directory at `target` makes one at `loc` as well: nothing is there, nor on the way. -/
def Opens (disk : VirtualDisk) (target loc : Location) : Prop :=
  loc.Holds target ∧
    ∀ between : Location, loc.Holds between → between.Holds target → disk.bare? between = none

def Timed (disk : VirtualDisk) : Prop :=
  ∀ loc entry mtime, disk.bare? loc = some entry → entry.mtime? = some mtime → mtime < disk.clock

def Solid (disk : VirtualDisk) (loc : Location) : Prop :=
  ∀ target, disk.bare? loc ≠ some (.link target)

def LinkFree (disk : VirtualDisk) : Prop :=
  ∀ loc target, disk.bare? loc ≠ some (.link target)

/-- What happens when something is put at `site`, if anywhere, and directories are made at `base`
and above it. -/
structure Grows (site base : Option Location) (before after : VirtualDisk) : Prop where
  kept : ∀ loc, site ≠ some loc → before.bare? loc ≠ none → after.bare? loc = before.bare? loc
  made : ∀ dir loc, base = some dir → before.Opens dir loc →
    ∃ mtime, before.clock ≤ mtime ∧ mtime < after.clock ∧ after.bare? loc = some (.dir [] mtime)
  left : ∀ loc, site ≠ some loc → before.bare? loc = none →
    (∀ dir, base = some dir → ¬before.Opens dir loc) → after.bare? loc = none
  clock : before.clock ≤ after.clock

theorem get?_eq_none_iff {disk : VirtualDisk} {loc : Location} :
    disk.get? loc = none ↔ disk.bare? loc = none := by
  simp [bare?]

theorem bare?_set (disk : VirtualDisk) (loc other : Location) (entry : Entry) :
    (disk.set loc entry).bare? other =
      if other = loc then some entry.bare else disk.bare? other := by
  by_cases same : other = loc <;> simp [bare?, get?_set, same]

theorem bare?_erase (disk : VirtualDisk) (loc other : Location) :
    (disk.erase loc).bare? other = if other = loc then none else disk.bare? other := by
  by_cases same : other = loc <;> simp [bare?, get?_erase, same]

@[simp] theorem bare?_tick (disk : VirtualDisk) (loc : Location) :
    disk.tick.bare? loc = disk.bare? loc := rfl

theorem bare?_relist {disk : VirtualDisk} {dir : Location} {names : List (List Char)} {mtime : Nat}
    (listed : disk.get? dir = some (.dir names mtime)) (others : List (List Char))
    (loc : Location) : (disk.set dir (.dir others mtime)).bare? loc = disk.bare? loc := by
  rw [bare?_set]
  by_cases same : loc = dir
  · simp [same, bare?, listed, Entry.bare]
  · simp [same]

@[simp] theorem bare?_linkChild (disk : VirtualDisk) (parent child loc : Location) :
    (disk.linkChild parent child).bare? loc = disk.bare? loc := by
  unfold linkChild
  split
  · rename_i listed _
    split
    · rfl
    · exact bare?_relist listed _ loc
  · rfl

@[simp] theorem clock_linkChild (disk : VirtualDisk) (parent child : Location) :
    (disk.linkChild parent child).clock = disk.clock := by
  unfold linkChild
  split
  · split <;> rfl
  · rfl

@[simp] theorem bare?_unlinkChild (disk : VirtualDisk) (parent child loc : Location) :
    (disk.unlinkChild parent child).bare? loc = disk.bare? loc := by
  unfold unlinkChild
  split
  · rename_i listed _
    exact bare?_relist listed _ loc
  · rfl

@[simp] theorem clock_unlinkChild (disk : VirtualDisk) (parent child : Location) :
    (disk.unlinkChild parent child).clock = disk.clock := by
  unfold unlinkChild
  split <;> rfl

theorem Opens.absent {disk : VirtualDisk} {target loc : Location} (opens : disk.Opens target loc) :
    disk.bare? loc = none :=
  opens.2 loc loc.holds_refl opens.1

theorem opens_self {disk : VirtualDisk} {target : Location} (absent : disk.bare? target = none) :
    disk.Opens target target := by
  refine ⟨target.holds_refl, ?_⟩
  intro between below above
  have same : between = target := by
    obtain ⟨rooted, steps⟩ := between
    obtain ⟨otherRooted, otherSteps⟩ := target
    rw [Location.mk.injEq]
    exact ⟨above.1, above.2.eq_of_length_le below.2.length_le⟩
  rw [same, absent]

theorem not_opens_of_present {disk : VirtualDisk} {target loc : Location}
    (present : disk.bare? target ≠ none) : ¬disk.Opens target loc :=
  fun opens => present (opens.2 target opens.1 target.holds_refl)

theorem Opens.of_absent {disk other : VirtualDisk} {target loc : Location}
    (opens : disk.Opens target loc)
    (absent : ∀ between, between.Holds target → disk.bare? between = none →
      other.bare? between = none) : other.Opens target loc :=
  ⟨opens.1, fun between below above => absent between above (opens.2 between below above)⟩

theorem Opens.dir {disk : VirtualDisk} {target loc dir : Location} (opens : disk.Opens target loc)
    (listed : loc.dir? = some dir) (absent : disk.bare? dir = none) : disk.Opens target dir := by
  rcases loc.start_or_append with ⟨_, none⟩ | ⟨steps, name, split, known⟩
  · rw [none] at listed
    cases listed
  · rw [known] at listed
    cases listed
    have above : Location.Holds ⟨loc.rooted, steps⟩ loc := by
      rw [split]
      exact Location.holds_append.mpr (.inr (Location.holds_refl _))
    refine ⟨above.trans opens.1, ?_⟩
    intro between lower upper
    by_cases reaches : loc.Holds between
    · exact opens.2 between reaches upper
    · -- Between the two there is nothing but the directory itself.
      have comparable := List.prefix_or_prefix_of_prefix upper.2 opens.1.2
      have inside : between.steps <+: loc.steps := by
        rcases comparable with inside | outside
        · exact inside
        · exact absurd ⟨opens.1.1.trans upper.1.symm, outside⟩ reaches
      rw [split] at inside
      rcases List.prefix_concat_iff.mp inside with whole | short
      · refine absurd ⟨opens.1.1.trans upper.1.symm, ?_⟩ reaches
        rw [split, whole]
      · have same : between = ⟨loc.rooted, steps⟩ := by
          obtain ⟨rooted, ownSteps⟩ := between
          rw [Location.mk.injEq]
          exact ⟨lower.1.symm, short.eq_of_length_le lower.2.length_le⟩
        rw [same, absent]

theorem Opens.reached {disk other : VirtualDisk}
    (listed : ∀ loc dir, loc.dir? = some dir → other.bare? loc ≠ none → disk.bare? loc = none →
      other.bare? dir ≠ none) {target loc : Location} (opens : disk.Opens target loc)
    (present : other.bare? target ≠ none) : other.bare? loc ≠ none := by
  -- Down from the target: a directory that is made lists itself in the one above, which must be
  -- there too.
  induction length : target.steps.length generalizing target with
  | zero =>
      have short : loc.steps = [] := by
        have bound := opens.1.2.length_le
        exact List.length_eq_zero_iff.mp (by omega)
      have same : loc = target := by
        obtain ⟨rooted, steps⟩ := loc
        obtain ⟨otherRooted, otherSteps⟩ := target
        rw [Location.mk.injEq]
        exact ⟨opens.1.1, short.trans (List.length_eq_zero_iff.mp length).symm⟩
      exact same ▸ present
  | succ count ih =>
      by_cases same : loc = target
      · exact same ▸ present
      · obtain ⟨dir, above, holds⟩ := Location.above_iff_holds_dir.mp ⟨opens.1, same⟩
        have absent : disk.bare? target = none := opens.2 target opens.1 target.holds_refl
        have isDir : dir = ⟨target.rooted, target.steps.dropLast⟩ := by
          unfold Location.dir? at above
          split at above
          · cases above
          · exact (Option.some.inj above).symm
        have inside : dir.Holds target := by
          rw [isDir]
          exact ⟨rfl, List.dropLast_prefix _⟩
        have shorter : dir.steps.length = count := by
          rw [isDir, List.length_dropLast, length]
          rfl
        have opensDir : disk.Opens dir loc :=
          ⟨holds, fun between lower upper => opens.2 between lower (upper.trans inside)⟩
        exact ih opensDir (listed target dir above present absent) shorter

namespace Grows

variable {site base : Option Location} {before after : VirtualDisk}

theorem refl (disk : VirtualDisk) : Grows none none disk disk where
  kept := fun _ _ _ => rfl
  made := by intro dir loc impossible; cases impossible
  left := fun _ _ absent _ => absent
  clock := Nat.le_refl _

theorem present (grows : Grows site base before after) {loc : Location}
    (elsewhere : site ≠ some loc) (present : before.bare? loc ≠ none) : after.bare? loc ≠ none := by
  rw [grows.kept loc elsewhere present]
  exact present

theorem cases (grows : Grows site base before after) {loc : Location}
    (elsewhere : site ≠ some loc) :
    after.bare? loc = before.bare? loc ∨
      ∃ dir mtime, base = some dir ∧ before.Opens dir loc ∧ before.clock ≤ mtime ∧
        mtime < after.clock ∧ after.bare? loc = some (.dir [] mtime) := by
  by_cases absent : before.bare? loc = none
  · by_cases opened : ∃ dir, base = some dir ∧ before.Opens dir loc
    · obtain ⟨dir, isBase, opens⟩ := opened
      obtain ⟨mtime, late, early, made⟩ := grows.made dir loc isBase opens
      exact .inr ⟨dir, mtime, isBase, opens, late, early, made⟩
    · left
      rw [absent]
      exact grows.left loc elsewhere absent fun dir isBase opens => opened ⟨dir, isBase, opens⟩
  · exact .inl (grows.kept loc elsewhere absent)

theorem base_present (grows : Grows site base before after) {dir : Location}
    (isBase : base = some dir) (elsewhere : site ≠ some dir) : after.bare? dir ≠ none := by
  by_cases absent : before.bare? dir = none
  · obtain ⟨mtime, _, _, made⟩ := grows.made dir dir isBase (opens_self absent)
    simp [made]
  · exact grows.present elsewhere absent

theorem timed (grows : Grows site base before after) (timed : before.Timed)
    (own : ∀ loc entry mtime, site = some loc → after.bare? loc = some entry →
      entry.mtime? = some mtime → mtime < after.clock) : after.Timed := by
  intro loc entry mtime present dated
  by_cases here : site = some loc
  · exact own loc entry mtime here present dated
  · rcases grows.cases here with same | ⟨_, made, _, _, _, early, isDir⟩
    · rw [same] at present
      exact Nat.lt_of_lt_of_le (timed loc entry mtime present dated) grows.clock
    · rw [present] at isDir
      cases isDir
      cases dated
      exact early

theorem linkFree (grows : Grows site base before after) (free : before.LinkFree)
    (own : ∀ loc target, site = some loc → after.bare? loc ≠ some (.link target)) :
    after.LinkFree := by
  intro loc target
  by_cases here : site = some loc
  · exact own loc target here
  · rcases grows.cases here with same | ⟨_, mtime, _, _, _, _, isDir⟩
    · rw [same]
      exact free loc target
    · simp [isDir]

end Grows

theorem Grows.linkChild {site base : Option Location} {before after : VirtualDisk}
    (grows : Grows site base before after) (parent child : Location) :
    Grows site base before (after.linkChild parent child) where
  kept := by simpa using grows.kept
  made := by simpa using grows.made
  left := by simpa using grows.left
  clock := by simpa using grows.clock

theorem grows_of_present {disk : VirtualDisk} {target : Location}
    (present : disk.bare? target ≠ none) : Grows none (some target) disk disk where
  kept := fun _ _ _ => rfl
  made := by
    intro dir loc isBase opens
    cases isBase
    exact absurd opens (not_opens_of_present present)
  left := fun _ _ absent _ => absent
  clock := Nat.le_refl _

theorem bare?_addDir (disk : VirtualDisk) (loc other : Location) :
    (disk.addDir loc).bare? other =
      if other = loc then some (.dir [] disk.clock) else disk.bare? other := by
  rw [addDir, bare?_set]
  rfl

theorem Grows.addDir {disk after : VirtualDisk} {target : Location} {above : Option Location}
    (absent : disk.bare? target = none)
    (listed : ∀ loc : Location,
      loc.Holds target ↔ loc = target ∨ ∃ dir, above = some dir ∧ loc.Holds dir)
    (apart : ∀ dir, above = some dir → ¬target.Holds dir)
    (grows : Grows none above (disk.addDir target) after) :
    Grows none (some target) disk after := by
  have later : disk.clock + 1 ≤ after.clock := grows.clock
  have own : after.bare? target = some (.dir [] disk.clock) := by
    rw [grows.kept target nofun (by simp [bare?_addDir]), bare?_addDir, if_pos rfl]
  -- The new directory stands in none that holds it, so that above it both disks open the same.
  have opensAbove {dir loc : Location} (isAbove : above = some dir) :
      (disk.addDir target).Opens dir loc ↔ loc.Holds dir ∧ disk.Opens target loc := by
    have inside {between : Location} (holds : between.Holds dir) :
        (disk.addDir target).bare? between = disk.bare? between := by
      rw [bare?_addDir, if_neg]
      rintro rfl
      exact apart dir isAbove holds
    constructor
    · intro opens
      refine ⟨opens.1, (listed loc).mpr (.inr ⟨dir, isAbove, opens.1⟩), ?_⟩
      intro between below upper
      rcases (listed between).mp upper with rfl | ⟨other, alsoAbove, holds⟩
      · exact absent
      · rw [isAbove] at alsoAbove
        cases alsoAbove
        rw [← inside holds]
        exact opens.2 between below holds
    · rintro ⟨holds, opens⟩
      refine ⟨holds, ?_⟩
      intro between below upper
      rw [inside upper]
      exact opens.2 between below ((listed between).mpr (.inr ⟨dir, isAbove, upper⟩))
  refine ⟨?_, ?_, ?_, by omega⟩
  · intro loc _ present
    have other : loc ≠ target := by
      rintro rfl
      exact present absent
    rw [grows.kept loc nofun (by simpa [bare?_addDir, other] using present), bare?_addDir,
      if_neg other]
  · intro dir loc isBase opens
    cases isBase
    rcases (listed loc).mp opens.1 with rfl | ⟨dir, isAbove, holds⟩
    · exact ⟨disk.clock, Nat.le_refl _, later, own⟩
    · obtain ⟨mtime, late, early, made⟩ :=
        grows.made dir loc isAbove ((opensAbove isAbove).mpr ⟨holds, opens⟩)
      have after : disk.clock + 1 ≤ mtime := late
      exact ⟨mtime, by omega, early, made⟩
  · intro loc _ missing closed
    have other : loc ≠ target := by
      rintro rfl
      exact closed _ rfl (opens_self missing)
    refine grows.left loc nofun (by simpa [bare?_addDir, other] using missing) ?_
    intro dir isAbove opens
    exact closed target rfl ((opensAbove isAbove).mp opens).2

theorem ensureDirAt_cons (rooted : Bool) (name : List Char) (above : List (List Char))
    (disk : VirtualDisk) :
    ensureDirAt rooted (name :: above) disk =
      if (disk.get? ⟨rooted, above.reverse ++ [name]⟩).isSome then disk
      else
        (ensureDirAt rooted above (disk.addDir ⟨rooted, above.reverse ++ [name]⟩)).linkChild
          ⟨rooted, above.reverse⟩ ⟨rooted, above.reverse ++ [name]⟩ := by
  simp [ensureDirAt]

theorem grows_ensureDirAt (rooted : Bool) (steps : List (List Char)) (disk : VirtualDisk) :
    Grows none (some ⟨rooted, steps.reverse⟩) disk (ensureDirAt rooted steps disk) := by
  -- Induction on the steps of the location, from the last one up: its directory is made in the
  -- disk in which the location is there already.
  induction steps generalizing disk with
  | nil =>
      rw [ensureDirAt, List.reverse_nil]
      split
      · rename_i present
        exact grows_of_present (by simpa [bare?, Option.isSome_iff_ne_none] using present)
      · rename_i missing
        have absent : disk.bare? ⟨rooted, []⟩ = none := by simpa [bare?] using missing
        refine (Grows.refl _).addDir absent ?_ ?_
        · intro loc
          simp [Location.holds_start]
        · intro dir impossible
          cases impossible
  | cons name above ih =>
      rw [ensureDirAt_cons, List.reverse_cons]
      split
      · rename_i present
        exact grows_of_present (by simpa [bare?, Option.isSome_iff_ne_none] using present)
      · rename_i missing
        have upper := ih (disk.addDir ⟨rooted, above.reverse ++ [name]⟩)
        have absent : disk.bare? ⟨rooted, above.reverse ++ [name]⟩ = none := by
          simpa [bare?] using missing
        refine (upper.addDir absent ?_ ?_).linkChild _ _
        · intro loc
          simp [Location.holds_append]
        · intro dir isAbove
          cases isAbove
          exact Location.not_holds_of_append

theorem grows_ensureDir (disk : VirtualDisk) (loc : Location) :
    Grows none (some loc) disk (disk.ensureDir loc) := by
  have grown := grows_ensureDirAt loc.rooted loc.steps.reverse disk
  rw [List.reverse_reverse] at grown
  exact grown

theorem grows_set (disk : VirtualDisk) (loc : Location) (entry : Entry) :
    Grows (some loc) none disk (disk.set loc entry) where
  kept := by
    intro other elsewhere _
    have apart : other ≠ loc := fun same => elsewhere (by rw [same])
    rw [bare?_set, if_neg apart]
  made := by intro dir other impossible; cases impossible
  left := by
    intro other elsewhere absent _
    have apart : other ≠ loc := fun same => elsewhere (by rw [same])
    rw [bare?_set, if_neg apart, absent]
  clock := Nat.le_refl _

theorem grows_set_ensureDir (disk : VirtualDisk) {loc dir : Location} (entry : Entry)
    (apart : ¬loc.Holds dir) :
    Grows (some loc) (some dir) disk ((disk.set loc entry).ensureDir dir) := by
  have grown := grows_ensureDir (disk.set loc entry) dir
  have same {other : Location} (elsewhere : some loc ≠ some other) :
      (disk.set loc entry).bare? other = disk.bare? other := by
    have different : other ≠ loc := fun equal => elsewhere (by rw [equal])
    rw [bare?_set, if_neg different]
  have inside {between : Location} (holds : between.Holds dir) :
      (disk.set loc entry).bare? between = disk.bare? between := by
    refine same fun equal => apart ?_
    cases equal
    exact holds
  refine ⟨?_, ?_, ?_, grown.clock⟩
  · intro other elsewhere present
    rw [grown.kept other nofun (by rw [same elsewhere]; exact present), same elsewhere]
  · intro base other isBase opens
    cases isBase
    refine grown.made dir other rfl (opens.of_absent ?_)
    intro between holds absent
    rw [inside holds, absent]
  · intro other elsewhere absent closed
    refine grown.left other nofun (by rw [same elsewhere]; exact absent) ?_
    intro base isBase opens
    cases isBase
    refine closed dir rfl (opens.of_absent ?_)
    intro between holds missing
    rw [← inside holds, missing]

theorem grows_insertEntry (disk : VirtualDisk) (loc : Location) (entry : Entry) :
    Grows (some loc) loc.dir? disk (disk.insertEntry loc entry) := by
  rcases loc.start_or_append with ⟨start, none⟩ | ⟨steps, name, split, dir⟩
  · have whole : disk.insertEntry loc entry = disk.set loc entry := by
      obtain ⟨rooted, steps⟩ := loc
      cases start
      cases rooted <;> simp [insertEntry, Location.parent?, Location.here]
    rw [whole, none]
    exact grows_set disk loc entry
  · have apart : ¬loc.Holds ⟨loc.rooted, steps⟩ := by
      rw [split]
      exact Location.not_holds_of_append
    have different : Location.mk loc.rooted steps ≠ loc := by
      intro same
      exact apart (by rw [same]; exact loc.holds_refl)
    have parent : loc.parent? = some ⟨loc.rooted, steps⟩ := by
      rw [split]
      simp [Location.parent?]
    rw [dir, insertEntry]
    simp only [parent, different, if_false]
    exact (grows_set_ensureDir disk entry apart).linkChild _ _

theorem bare?_insertEntry_self (disk : VirtualDisk) (loc : Location) (entry : Entry) :
    (disk.insertEntry loc entry).bare? loc = some entry.bare := by
  have own : (disk.set loc entry).bare? loc = some entry.bare := by rw [bare?_set, if_pos rfl]
  unfold insertEntry
  dsimp only
  split
  · split
    · exact own
    · rename_i parent _ _
      have grown := grows_ensureDir (disk.set loc entry) parent
      rw [bare?_linkChild, grown.kept loc nofun (by simp [own]), own]
  · exact own

theorem Grows.of_tick {site base : Option Location} {before after : VirtualDisk}
    (grows : Grows site base before.tick after) : Grows site base before after where
  kept := grows.kept
  made := by
    intro dir loc isBase opens
    obtain ⟨mtime, late, early, made⟩ := grows.made dir loc isBase opens
    exact ⟨mtime, Nat.le_of_succ_le late, early, made⟩
  left := grows.left
  clock := Nat.le_of_succ_le grows.clock

theorem grows_write (disk : VirtualDisk) (path : Path) (content : List UInt8) :
    Grows (some (.ofPath path)) (Location.ofPath path).dir? disk (disk.write path content) :=
  (grows_insertEntry disk.tick _ _).of_tick

theorem bare?_write_self (disk : VirtualDisk) (path : Path) (content : List UInt8) :
    (disk.write path content).bare? (.ofPath path) = some (.file content disk.clock) :=
  bare?_insertEntry_self disk.tick _ _

theorem linkFree_write {disk : VirtualDisk} (free : disk.LinkFree) (path : Path)
    (content : List UInt8) : (disk.write path content).LinkFree := by
  refine (grows_write disk path content).linkFree free ?_
  intro loc target here
  cases here
  simp [bare?_write_self]

theorem timed_insertEntry {disk : VirtualDisk} (timed : disk.Timed) (loc : Location) (entry : Entry)
    (early : ∀ mtime, entry.mtime? = some mtime → mtime < disk.clock) :
    (disk.insertEntry loc entry).Timed := by
  have grown := grows_insertEntry disk loc entry
  refine grown.timed timed ?_
  intro other present mtime here found dated
  cases here
  rw [bare?_insertEntry_self] at found
  cases found
  rw [Entry.mtime?_bare] at dated
  exact Nat.lt_of_lt_of_le (early mtime dated) grown.clock

theorem timed_tick {disk : VirtualDisk} (timed : disk.Timed) : disk.tick.Timed :=
  fun loc entry mtime present dated => Nat.lt_succ_of_lt (timed loc entry mtime present dated)

theorem timed_addFileAt {disk : VirtualDisk} (timed : disk.Timed) (loc : Location)
    (content : List UInt8) : (disk.addFileAt loc content).Timed := by
  refine timed_insertEntry (timed_tick timed) loc _ ?_
  intro mtime dated
  cases dated
  exact Nat.lt_succ_self _

theorem timed_write {disk : VirtualDisk} (timed : disk.Timed) (path : Path)
    (content : List UInt8) : (disk.write path content).Timed :=
  timed_addFileAt timed _ content

theorem createDirs_cases (disk : VirtualDisk) (path : Path) :
    (∃ fault, disk.createDirs path = (.error fault, disk)) ∨
      ∃ after mtime, disk.createDirs path = (.ok (), after) ∧
        Grows none (some (.ofPath path)) disk after ∧
        after.bare? (.ofPath path) = some (.dir [] mtime) := by
  unfold createDirs
  dsimp only
  split
  · rename_i names mtime found
    have present : disk.bare? (.ofPath path) = some (.dir [] mtime) := by
      simp [bare?, found, Entry.bare]
    exact .inr ⟨disk, mtime, rfl, grows_of_present (by simp [present]), present⟩
  · exact .inl ⟨_, rfl⟩
  · rename_i missing
    have grown := grows_ensureDir disk (.ofPath path)
    obtain ⟨mtime, _, _, made⟩ :=
      grown.made _ _ rfl (opens_self (get?_eq_none_iff.mp missing))
    exact .inr ⟨_, mtime, rfl, grown, made⟩

theorem bare?_remove (disk : VirtualDisk) (path : Path) (loc : Location) :
    (disk.remove path).bare? loc = if loc = .ofPath path then none else disk.bare? loc := by
  unfold remove
  dsimp only
  split
  · rw [bare?_unlinkChild, bare?_erase]
  · rw [bare?_erase]

theorem clock_remove (disk : VirtualDisk) (path : Path) :
    (disk.remove path).clock = disk.clock := by
  unfold remove
  dsimp only
  split <;> simp

theorem removeFile_cases (disk : VirtualDisk) (path : Path) :
    (∃ fault, disk.removeFile path = (.error fault, disk) ∧
        ∀ content mtime, disk.bare? (.ofPath path) ≠ some (.file content mtime)) ∨
      disk.removeFile path = (.ok (), disk.remove path) := by
  unfold removeFile
  split
  · exact .inr rfl
  · exact .inr rfl
  · rename_i found
    exact .inl ⟨_, rfl, by simp [bare?, found, Entry.bare]⟩
  · rename_i missing
    exact .inl ⟨_, rfl, by simp [bare?, missing]⟩

theorem linkFree_remove {disk : VirtualDisk} (free : disk.LinkFree) (path : Path) :
    (disk.remove path).LinkFree := by
  intro loc target
  rw [bare?_remove]
  split
  · nofun
  · exact free loc target

theorem timed_remove {disk : VirtualDisk} (timed : disk.Timed) (path : Path) :
    (disk.remove path).Timed := by
  intro loc entry mtime present dated
  rw [bare?_remove] at present
  rw [clock_remove]
  split at present
  · cases present
  · exact timed loc entry mtime present dated

theorem get?_of_followFrom {disk : VirtualDisk} {depth : Nat} {loc : Location} {entry : Entry}
    (reached : disk.followFrom depth loc = some entry) :
    ∃ place, disk.get? place = some entry := by
  induction depth generalizing loc with
  | zero => cases reached
  | succ depth ih =>
      rw [followFrom] at reached
      split at reached
      · exact ih reached
      · exact ⟨loc, reached⟩

theorem Timed.mtimeOf_lt {disk : VirtualDisk} (timed : disk.Timed) {path : Path} {mtime : Nat}
    (dated : disk.mtimeOf path = some mtime) : mtime < disk.clock := by
  rw [mtimeOf_eq_follow] at dated
  obtain ⟨entry, reached, made⟩ := Option.bind_eq_some_iff.mp dated
  obtain ⟨place, found⟩ := get?_of_followFrom reached
  have lies : disk.bare? place = some entry.bare := by rw [bare?, found]; rfl
  exact timed place entry.bare mtime lies (by rw [Entry.mtime?_bare]; exact made)

namespace Solid

variable {disk : VirtualDisk} {path : Path}

theorem follow_bare {loc : Location} (solid : disk.Solid loc) :
    (disk.follow loc).map Entry.bare = disk.bare? loc := by
  rw [follow, linkLimit, followFrom, bare?]
  split
  · rename_i target found
    exact absurd (by simp [bare?, found, Entry.bare]) (solid target)
  · rfl

theorem mtimeOf_eq (solid : disk.Solid (.ofPath path)) :
    disk.mtimeOf path = (disk.bare? (.ofPath path)).bind Entry.mtime? := by
  rw [mtimeOf_eq_follow, ← solid.follow_bare]
  cases disk.follow (.ofPath path) <;> simp

theorem isDir_iff (solid : disk.Solid (.ofPath path)) :
    disk.isDir path = true ↔ ∃ mtime, disk.bare? (.ofPath path) = some (.dir [] mtime) := by
  rw [isDir, ← solid.follow_bare]
  cases disk.follow (.ofPath path) with
  | none => simp
  | some entry => cases entry <;> simp [Entry.bare]

theorem isFile_iff (solid : disk.Solid (.ofPath path)) :
    disk.isFile path = true ↔
      ∃ content mtime, disk.bare? (.ofPath path) = some (.file content mtime) := by
  rw [isFile, ← solid.follow_bare]
  cases disk.follow (.ofPath path) with
  | none => simp
  | some entry => cases entry <;> simp [Entry.bare]

theorem mtimeOf_eq_none_iff (solid : disk.Solid (.ofPath path)) :
    disk.mtimeOf path = none ↔ disk.bare? (.ofPath path) = none := by
  rw [solid.mtimeOf_eq]
  cases present : disk.bare? (.ofPath path) with
  | none => simp
  | some entry =>
      cases entry with
      | file | dir => simp [Entry.mtime?]
      | link target => exact absurd present (solid target)

end Solid

theorem mtimeOf_eq {disk : VirtualDisk} (free : disk.LinkFree) (path : Path) :
    disk.mtimeOf path = (disk.bare? (.ofPath path)).bind Entry.mtime? :=
  Solid.mtimeOf_eq (free _)

theorem isDir_iff {disk : VirtualDisk} (free : disk.LinkFree) (path : Path) :
    disk.isDir path = true ↔ ∃ mtime, disk.bare? (.ofPath path) = some (.dir [] mtime) :=
  Solid.isDir_iff (free _)

theorem mtimeOf_eq_none_iff {disk : VirtualDisk} (free : disk.LinkFree) (path : Path) :
    disk.mtimeOf path = none ↔ disk.bare? (.ofPath path) = none :=
  Solid.mtimeOf_eq_none_iff (free _)

theorem isLink_eq_false {disk : VirtualDisk} (free : disk.LinkFree) (path : Path) :
    disk.isLink path = false := by
  unfold isLink
  split
  · rename_i target found
    exact absurd (by simp [bare?, found, Entry.bare]) (free (.ofPath path) target)
  · rfl

theorem bare?_new (loc : Location) :
    new.bare? loc = if loc = .here then some (.dir [] 0) else none := by
  simp only [bare?, get?, new, List.lookup_cons, List.lookup_nil]
  by_cases same : loc = .here
  · simp [same, Entry.bare]
  · simp [beq_eq_false_iff_ne.2 same, same]

theorem linkFree_new : new.LinkFree := by
  intro loc target
  rw [bare?_new]
  split <;> nofun

theorem timed_new : new.Timed := by
  intro loc entry mtime present dated
  rw [bare?_new] at present
  split at present
  · cases present
    cases dated
    exact Nat.one_pos
  · cases present

theorem timed_set {disk : VirtualDisk} (timed : disk.Timed) (loc : Location) (entry : Entry)
    (early : ∀ mtime, entry.mtime? = some mtime → mtime < disk.clock) :
    (disk.set loc entry).Timed := by
  intro other found mtime present dated
  rw [bare?_set] at present
  split at present
  · cases present
    rw [Entry.mtime?_bare] at dated
    exact early mtime dated
  · exact timed other found mtime present dated

theorem timed_touch {disk : VirtualDisk} (timed : disk.Timed) (path : Path) :
    (disk.touch path).Timed := by
  have ticked := timed_tick timed
  unfold touch
  dsimp only
  split
  · refine timed_set ticked _ _ ?_
    intro mtime dated
    cases dated
    exact Nat.lt_succ_self _
  · refine timed_set ticked _ _ ?_
    intro mtime dated
    cases dated
    exact Nat.lt_succ_self _
  · exact timed_addFileAt ticked _ _

theorem timed_addEach {disk : VirtualDisk} (timed : disk.Timed) (dir : Path)
    (names : List String) : (disk.addEach dir names).Timed := by
  unfold addEach
  induction names generalizing disk with
  | nil => exact timed
  | cons name rest ih => exact ih (timed_write timed _ _)

theorem timed_removeFile {disk : VirtualDisk} (timed : disk.Timed) (path : Path) :
    (disk.removeFile path).2.Timed := by
  rcases removeFile_cases disk path with ⟨fault, kept, _⟩ | removed
  · rw [kept]
    exact timed
  · rw [removed]
    exact timed_remove timed path

theorem timed_createDirs {disk : VirtualDisk} (timed : disk.Timed) (path : Path) :
    (disk.createDirs path).2.Timed := by
  rcases createDirs_cases disk path with ⟨fault, kept⟩ | ⟨after, mtime, made, grown, _⟩
  · rw [kept]
    exact timed
  · rw [made]
    exact grown.timed timed nofun

theorem timed_symlink {disk : VirtualDisk} (timed : disk.Timed) (target link : Path) :
    (disk.symlink target link).2.Timed := by
  unfold symlink
  dsimp only
  split
  · exact timed
  · exact timed_insertEntry timed _ _ nofun

theorem timed_apply {disk : VirtualDisk} (timed : disk.Timed) (step : DiskStep) :
    (disk.apply step).2.Timed := by
  cases step with
  | add path content => exact timed_write timed path content
  | touch path => exact timed_touch timed path
  | remove path => exact timed_remove timed path
  | addEach dir names => exact timed_addEach timed dir names
  | write path content => exact timed_write timed path content
  | removeFile path => exact timed_removeFile timed path
  | createDirs path => exact timed_createDirs timed path
  | symlink target link => exact timed_symlink timed target link
  | read path =>
      rw [apply]
      split <;> exact timed
  | inspect path => exact timed
  | list path =>
      rw [apply]
      split <;> exact timed
  | glob pattern =>
      rw [apply]
      split <;> exact timed
  | listAll => exact timed

theorem timed_applyAll {disk : VirtualDisk} (timed : disk.Timed) (steps : List DiskStep) :
    (disk.applyAll steps).Timed := by
  unfold applyAll
  induction steps generalizing disk with
  | nil => exact timed
  | cons step rest ih => exact ih (timed_apply timed step)

def Made (disk : VirtualDisk) : Prop :=
  ∃ steps, disk = new.applyAll steps

theorem Made.timed {disk : VirtualDisk} (made : disk.Made) : disk.Timed := by
  obtain ⟨steps, rfl⟩ := made
  exact timed_applyAll timed_new steps

end VirtualDisk

namespace Location

theorem ne_of_not_holds {loc target : Location} (aside : ¬loc.Holds target) : loc ≠ target := by
  rintro rfl
  exact aside loc.holds_refl

theorem not_holds_parent {loc target parent : Location} (aside : ¬loc.Holds target)
    (listed : target.parent? = some parent) (apart : parent ≠ target) : ¬loc.Holds parent := by
  intro holds
  refine aside (holds.trans ?_)
  unfold parent? at listed
  split at listed
  · rename_i start
    split at listed
    · cases listed
    · -- The working directory holds itself.
      rename_i relative
      refine absurd ?_ apart
      cases listed
      obtain ⟨rooted, steps⟩ := target
      simp_all [here]
  · cases listed
    exact ⟨rfl, List.dropLast_prefix _⟩

end Location

namespace VirtualDisk

variable {loc target : Location}

theorem get?_linkChild {parent : Location} (apart : loc ≠ parent) (disk : VirtualDisk)
    (child : Location) : (disk.linkChild parent child).get? loc = disk.get? loc := by
  unfold linkChild
  split
  · split
    · rfl
    · rw [get?_set, if_neg apart]
  · rfl

theorem get?_unlinkChild {parent : Location} (apart : loc ≠ parent) (disk : VirtualDisk)
    (child : Location) : (disk.unlinkChild parent child).get? loc = disk.get? loc := by
  unfold unlinkChild
  split
  · rw [get?_set, if_neg apart]
  · rfl

theorem get?_addDir (apart : loc ≠ target) (disk : VirtualDisk) :
    (disk.addDir target).get? loc = disk.get? loc := by
  rw [addDir, get?_set, if_neg apart, get?_tick]

theorem get?_ensureDirAt {rooted : Bool} {steps : List (List Char)}
    (aside : ¬loc.Holds ⟨rooted, steps.reverse⟩) (disk : VirtualDisk) :
    (ensureDirAt rooted steps disk).get? loc = disk.get? loc := by
  have apart := Location.ne_of_not_holds aside
  induction steps generalizing disk with
  | nil =>
      rw [ensureDirAt]
      split
      · rfl
      · exact get?_addDir apart disk
  | cons name above ih =>
      rw [List.reverse_cons] at aside apart
      have upper : ¬loc.Holds ⟨rooted, above.reverse⟩ :=
        fun holds => aside (Location.holds_append.mpr (.inr holds))
      have upperApart := Location.ne_of_not_holds upper
      rw [ensureDirAt_cons]
      split
      · rfl
      · rw [get?_linkChild upperApart, ih upper _ upperApart, get?_addDir apart]

theorem get?_ensureDir (aside : ¬loc.Holds target) (disk : VirtualDisk) :
    (disk.ensureDir target).get? loc = disk.get? loc := by
  refine get?_ensureDirAt ?_ disk
  rw [List.reverse_reverse]
  exact aside

theorem get?_insertEntry (aside : ¬loc.Holds target) (disk : VirtualDisk) (entry : Entry) :
    (disk.insertEntry target entry).get? loc = disk.get? loc := by
  have own : (disk.set target entry).get? loc = disk.get? loc := by
    rw [get?_set, if_neg (Location.ne_of_not_holds aside)]
  unfold insertEntry
  dsimp only
  split
  · rename_i parent listed
    split
    · exact own
    · rename_i apart
      have upper := Location.not_holds_parent aside listed apart
      rw [get?_linkChild (Location.ne_of_not_holds upper), get?_ensureDir upper, own]
  · exact own

theorem get?_write {path : Path} (aside : ¬loc.Holds (.ofPath path)) (disk : VirtualDisk)
    (content : List UInt8) : (disk.write path content).get? loc = disk.get? loc :=
  get?_insertEntry aside disk.tick _

theorem get?_remove {path : Path} (aside : ¬loc.Holds (.ofPath path)) (disk : VirtualDisk) :
    (disk.remove path).get? loc = disk.get? loc := by
  have apart := Location.ne_of_not_holds aside
  have own : (disk.erase (.ofPath path)).get? loc = disk.get? loc := by
    rw [get?_erase, if_neg apart]
  unfold remove
  dsimp only
  split
  · rename_i parent listed
    by_cases self : parent = .ofPath path
    · rw [self, get?_unlinkChild apart, own]
    · have upper := Location.not_holds_parent aside listed self
      rw [get?_unlinkChild (Location.ne_of_not_holds upper), own]
  · exact own

theorem get?_createDirs {path : Path} (aside : ¬loc.Holds (.ofPath path)) (disk : VirtualDisk) :
    (disk.createDirs path).2.get? loc = disk.get? loc := by
  unfold createDirs
  dsimp only
  split
  · rfl
  · rfl
  · exact get?_ensureDir aside disk

theorem get?_symlink {link : Path} (aside : ¬loc.Holds (.ofPath link)) (disk : VirtualDisk)
    (target : Path) : (disk.symlink target link).2.get? loc = disk.get? loc := by
  unfold symlink
  dsimp only
  split
  · rfl
  · exact get?_insertEntry aside disk _

theorem get?_write_self (disk : VirtualDisk) (path : Path) (content : List UInt8) :
    (disk.write path content).get? (.ofPath path) = some (.file content disk.clock) := by
  have written := bare?_write_self disk path content
  obtain ⟨entry, found, bare⟩ := Option.map_eq_some_iff.mp written
  rw [found]
  cases entry with
  | file => exact congrArg some bare
  | dir | link => cases bare

theorem get?_remove_self (disk : VirtualDisk) (path : Path) :
    (disk.remove path).get? (.ofPath path) = none := by
  rw [get?_eq_none_iff, bare?_remove, if_pos rfl]

end VirtualDisk

end ArtifactPipeline
