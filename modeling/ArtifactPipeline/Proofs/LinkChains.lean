import ArtifactPipeline.Proofs.Links

set_option autoImplicit false

namespace ArtifactPipeline

namespace VirtualDisk

inductive Chain (disk : VirtualDisk) : Nat → Location → Location → Prop where
  | here (loc : Location) : Chain disk 0 loc loc
  | link {count : Nat} {loc last : Location} {target : Path}
      (linked : disk.get? loc = some (.link target))
      (rest : Chain disk count (loc.linkTarget target) last) : Chain disk (count + 1) loc last

def Reaches (disk : VirtualDisk) (count : Nat) (loc : Location) (entry : Entry) : Prop :=
  ∃ last, disk.Chain count loc last ∧ disk.get? last = some entry

/-- Links lead to a place from which they lead back to it. -/
def Circles (disk : VirtualDisk) (loc : Location) : Prop :=
  ∃ before round place, disk.Chain before loc place ∧ disk.Chain (round + 1) place place

variable {disk : VirtualDisk} {loc between last place : Location} {count more : Nat}

theorem solid_iff : disk.Solid loc ↔ ∀ target, disk.get? loc ≠ some (.link target) := by
  constructor
  · intro solid target linked
    exact solid target (by simp [bare?, linked, Entry.bare])
  · intro plain target linked
    exact plain target (get?_eq_link linked)

theorem solid_of_get? {entry : Entry} (found : disk.get? loc = some entry)
    (plain : ∀ target, entry ≠ .link target) : disk.Solid loc := by
  refine solid_iff.mpr fun target linked => ?_
  rw [found] at linked
  exact plain target (Option.some.inj linked)

namespace Chain

theorem trans (first : disk.Chain count loc between) (second : disk.Chain more between last) :
    disk.Chain (count + more) loc last := by
  induction first with
  | here => simpa using second
  | link linked _ ih =>
      rw [Nat.add_right_comm]
      exact .link linked (ih second)

theorem rest_of_add (first : disk.Chain count loc between)
    (whole : disk.Chain (count + more) loc last) : disk.Chain more between last := by
  induction first with
  | here => simpa using whole
  | link linked _ ih =>
      rw [Nat.add_right_comm] at whole
      cases whole with
      | link other rest =>
          rw [linked] at other
          cases other
          exact ih rest

theorem eq_of_solid (solid : disk.Solid loc) (chain : disk.Chain count loc last) :
    count = 0 ∧ last = loc := by
  cases chain with
  | here => exact ⟨rfl, rfl⟩
  | link linked => exact absurd linked (solid_iff.mp solid _)

theorem le_of_solid (chain : disk.Chain count loc last) (solid : disk.Solid last)
    (other : disk.Chain more loc place) : more ≤ count := by
  by_contra longer
  obtain ⟨excess, rfl⟩ := Nat.exists_eq_add_of_lt (Nat.not_le.mp longer)
  rw [Nat.add_assoc] at other
  cases (eq_of_solid solid (chain.rest_of_add other)).1

theorem unique (chain : disk.Chain count loc last) (solid : disk.Solid last)
    (other : disk.Chain more loc place) (otherSolid : disk.Solid place) :
    count = more ∧ last = place := by
  obtain rfl := Nat.le_antisymm (other.le_of_solid otherSolid chain) (chain.le_of_solid solid other)
  have rest : disk.Chain 0 last place := chain.rest_of_add other
  exact ⟨rfl, (eq_of_solid solid rest).2.symm⟩

theorem repeated (round : disk.Chain count loc loc) (times : Nat) :
    disk.Chain (times * count) loc loc := by
  induction times with
  | zero => simpa using Chain.here loc
  | succ times ih =>
      rw [Nat.succ_mul]
      exact ih.trans round

theorem followFrom (chain : disk.Chain count loc last) (depth : Nat) :
    disk.followFrom (count + depth) loc = disk.followFrom depth last := by
  induction chain with
  | here => rw [Nat.zero_add]
  | link linked _ ih =>
      rw [Nat.add_right_comm, VirtualDisk.followFrom, linked]
      exact ih

theorem readFrom (chain : disk.Chain count loc last) (depth : Nat) (asked : Path) :
    disk.readFrom (count + depth) loc asked =
      disk.readFrom depth last (if count = 0 then asked else last.toPath) := by
  induction chain generalizing asked with
  | here => rw [Nat.zero_add, if_pos rfl]
  | link linked rest ih =>
      rw [Nat.add_right_comm, VirtualDisk.readFrom, linked]
      dsimp only
      rw [ih, if_neg (Nat.succ_ne_zero _)]
      -- After a link a place is read under its own path and no longer as it was asked for.
      split_ifs with none
      · subst none
        cases rest
        rfl
      · rfl

end Chain

theorem settles_or_chain (disk : VirtualDisk) (loc : Location) (count : Nat) :
    (∃ passed last, passed < count ∧ disk.Chain passed loc last ∧ disk.Solid last) ∨
      ∃ last, disk.Chain count loc last := by
  induction count generalizing loc with
  | zero => exact .inr ⟨loc, .here loc⟩
  | succ count ih =>
      by_cases solid : disk.Solid loc
      · exact .inl ⟨0, loc, Nat.succ_pos _, .here loc, solid⟩
      · obtain ⟨target, linked⟩ : ∃ target, disk.get? loc = some (.link target) := by
          simpa [solid_iff] using solid
        rcases ih (loc.linkTarget target) with ⟨passed, last, within, rest, ends⟩ | ⟨last, rest⟩
        · exact .inl ⟨passed + 1, last, Nat.succ_lt_succ within, .link linked rest, ends⟩
        · exact .inr ⟨last, .link linked rest⟩

theorem Circles.of_link {target : Path} (linked : disk.get? loc = some (.link target))
    (circles : disk.Circles (loc.linkTarget target)) : disk.Circles loc := by
  obtain ⟨before, round, place, there, back⟩ := circles
  exact ⟨before + 1, round, place, .link linked there, back⟩

theorem Circles.not_solid (circles : disk.Circles loc) (chain : disk.Chain count loc last) :
    ¬disk.Solid last := by
  intro solid
  obtain ⟨before, round, place, there, back⟩ := circles
  have endless := chain.le_of_solid solid (there.trans (back.repeated (count + 1)))
  -- Going round often enough makes a chain that is longer than one that ends.
  have long : count + 1 ≤ (count + 1) * (round + 1) := Nat.le_mul_of_pos_right _ (Nat.succ_pos _)
  omega

theorem Circles.chain (circles : disk.Circles loc) (count : Nat) :
    ∃ last, disk.Chain count loc last := by
  rcases settles_or_chain disk loc count with ⟨_, _, _, chain, solid⟩ | endless
  · exact absurd solid (circles.not_solid chain)
  · exact endless

theorem mem_keys_of_get? (present : disk.get? loc ≠ none) :
    loc ∈ disk.entries.map Prod.fst := by
  by_contra absent
  refine present (List.lookup_eq_none_iff.mpr fun entry member => ?_)
  simp only [bne_iff_ne, ne_eq]
  rintro rfl
  exact absent (List.mem_map_of_mem member)

theorem Chain.passed (chain : disk.Chain count loc last) (straight : ¬disk.Circles loc) :
    ∃ places : List Location, places.length = count ∧ places.Nodup ∧
      ∀ place ∈ places, disk.get? place ≠ none ∧ ∃ before, disk.Chain before loc place := by
  induction chain with
  | here => exact ⟨[], rfl, List.nodup_nil, nofun⟩
  | @link count loc last target linked _ ih =>
      obtain ⟨places, length, once, passed⟩ := ih (mt (Circles.of_link linked) straight)
      refine ⟨loc :: places, congrArg (· + 1) length, List.nodup_cons.mpr ⟨?_, once⟩, ?_⟩
      · -- A place that is passed again closes a circle.
        intro again
        obtain ⟨-, round, back⟩ := passed loc again
        exact straight ⟨0, round, loc, .here loc, .link linked back⟩
      · intro place member
        rcases List.mem_cons.mp member with rfl | later
        · exact ⟨by simp [linked], 0, .here _⟩
        · obtain ⟨there, before, rest⟩ := passed place later
          exact ⟨there, before + 1, .link linked rest⟩

theorem Chain.count_le (chain : disk.Chain count loc last) (straight : ¬disk.Circles loc) :
    count ≤ disk.entries.length := by
  obtain ⟨places, rfl, once, passed⟩ := chain.passed straight
  have inside : places ⊆ disk.entries.map Prod.fst := fun place member =>
    mem_keys_of_get? (passed place member).1
  simpa using once.length_le_of_subset inside

theorem settles (straight : ¬disk.Circles loc) :
    ∃ count last, count ≤ disk.entries.length ∧ disk.Chain count loc last ∧ disk.Solid last := by
  rcases settles_or_chain disk loc (disk.entries.length + 1) with
    ⟨count, last, within, chain, solid⟩ | ⟨last, chain⟩
  · exact ⟨count, last, Nat.le_of_lt_succ within, chain, solid⟩
  · exact absurd (chain.count_le straight) (Nat.not_succ_le_self _)

theorem followFrom_eq_some_iff {depth : Nat} {entry : Entry} :
    disk.followFrom depth loc = some entry ↔
      ∃ count < depth, disk.Reaches count loc entry ∧ ∀ target, entry ≠ .link target := by
  rcases settles_or_chain disk loc depth with ⟨count, last, within, chain, solid⟩ | ⟨last, chain⟩
  · obtain ⟨spare, rfl⟩ := Nat.exists_eq_add_of_lt within
    rw [Nat.add_assoc, chain.followFrom, solid.followFrom_eq]
    constructor
    · intro found
      refine ⟨count, by omega, ⟨last, chain, found⟩, ?_⟩
      rintro target rfl
      exact solid_iff.mp solid target found
    · rintro ⟨other, -, ⟨place, along, found⟩, isPlain⟩
      obtain ⟨-, rfl⟩ := chain.unique solid along (solid_of_get? found isPlain)
      exact found
  · -- The lookups are used up among links.
    have none : disk.followFrom depth loc = none := chain.followFrom 0
    rw [none]
    constructor
    · nofun
    · rintro ⟨count, within, ⟨place, along, found⟩, isPlain⟩
      exact absurd (along.le_of_solid (solid_of_get? found isPlain) chain) (Nat.not_le.mpr within)

theorem follow_eq_some_iff {entry : Entry} (plain : ∀ target, entry ≠ .link target) :
    disk.follow loc = some entry ↔ ∃ count ≤ linkLimit, disk.Reaches count loc entry := by
  simp only [follow, followFrom_eq_some_iff, Nat.lt_succ_iff, and_iff_left plain]

theorem follow_ne_link (target : Path) : disk.follow loc ≠ some (.link target) := by
  intro found
  obtain ⟨-, -, -, plain⟩ := followFrom_eq_some_iff.mp found
  exact plain target rfl

theorem isFile_iff_reaches {path : Path} :
    disk.isFile path = true ↔ ∃ content mtime, ∃ count ≤ linkLimit,
      disk.Reaches count (.ofPath path) (.file content mtime) := by
  unfold isFile
  split
  · rename_i content mtime found
    exact iff_of_true rfl ⟨content, mtime, (follow_eq_some_iff (by simp)).mp found⟩
  · rename_i other
    refine iff_of_false nofun fun ⟨content, mtime, reached⟩ => ?_
    exact other content mtime ((follow_eq_some_iff (by simp)).mpr reached)

theorem isDir_iff_reaches {path : Path} :
    disk.isDir path = true ↔ ∃ names mtime, ∃ count ≤ linkLimit,
      disk.Reaches count (.ofPath path) (.dir names mtime) := by
  unfold isDir
  split
  · rename_i names mtime found
    exact iff_of_true rfl ⟨names, mtime, (follow_eq_some_iff (by simp)).mp found⟩
  · rename_i other
    refine iff_of_false nofun fun ⟨names, mtime, reached⟩ => ?_
    exact other names mtime ((follow_eq_some_iff (by simp)).mpr reached)

theorem mtimeOf_iff_reaches {path : Path} {mtime : Nat} :
    disk.mtimeOf path = some mtime ↔ ∃ entry, entry.mtime? = some mtime ∧
      ∃ count ≤ linkLimit, disk.Reaches count (.ofPath path) entry := by
  have plain {entry : Entry} (dated : entry.mtime? = some mtime) (target : Path) :
      entry ≠ .link target := by
    rintro rfl
    cases dated
  rw [mtimeOf_eq_follow, Option.bind_eq_some_iff]
  constructor
  · rintro ⟨entry, found, dated⟩
    exact ⟨entry, dated, (follow_eq_some_iff (plain dated)).mp found⟩
  · rintro ⟨entry, dated, reached⟩
    exact ⟨entry, (follow_eq_some_iff (plain dated)).mpr reached, dated⟩

theorem present_iff {path : Path} :
    disk.present path = true ↔ disk.isFile path = true ∨ disk.isDir path = true := by
  rw [present, mtimeOf_eq_follow, isFile, isDir]
  cases found : disk.follow (.ofPath path) with
  | none => simp
  | some entry =>
      cases entry with
      | file | dir => simp [Entry.mtime?]
      | link target => exact absurd found (follow_ne_link target)

theorem Solid.readFrom_eq (solid : disk.Solid loc) (depth : Nat) (asked : Path) :
    disk.readFrom (depth + 1) loc asked = disk.readFrom 1 loc asked := by
  rw [readFrom, readFrom]
  cases found : disk.get? loc with
  | none => rfl
  | some entry =>
      cases entry with
      | file | dir => rfl
      | link target => exact absurd found (solid_iff.mp solid target)

theorem Chain.readFrom_of_solid (chain : disk.Chain count loc last) (solid : disk.Solid last)
    {depth : Nat} (enough : count < depth) (asked : Path) :
    disk.readFrom depth loc asked =
      disk.readFrom 1 last (if count = 0 then asked else last.toPath) := by
  obtain ⟨spare, rfl⟩ := Nat.exists_eq_add_of_lt enough
  rw [Nat.add_assoc, chain.readFrom, solid.readFrom_eq]

theorem Solid.readFrom_ok_iff (solid : disk.Solid loc) {asked : Path} {text : String} :
    disk.readFrom 1 loc asked = .ok text ↔
      ∃ content mtime, disk.get? loc = some (.file content mtime) ∧
        Text.decodeUtf8 content = .ok text := by
  rw [readFrom]
  cases found : disk.get? loc with
  | none => simp
  | some entry =>
      cases entry with
      | file content mtime => cases decoded : Text.decodeUtf8 content <;> simp [decoded]
      | dir => simp
      | link target => exact absurd found (solid_iff.mp solid target)

theorem Solid.readFrom_ne_linkLoop (solid : disk.Solid loc) (asked culprit : Path) :
    disk.readFrom 1 loc asked ≠ .error (.linkLoop culprit) := by
  rw [readFrom]
  cases found : disk.get? loc with
  | none => simp
  | some entry =>
      cases entry with
      | file content mtime => cases decoded : Text.decodeUtf8 content <;> simp [decoded]
      | dir => simp
      | link target => exact absurd found (solid_iff.mp solid target)

theorem Circles.readFrom (circles : disk.Circles loc) (depth : Nat) (asked : Path) :
    ∃ culprit, disk.readFrom depth loc asked = .error (.linkLoop culprit) := by
  obtain ⟨last, chain⟩ := circles.chain depth
  exact ⟨_, chain.readFrom 0 asked⟩

/-- More lookups than the disk has entries change nothing, where the links do not go round. -/
theorem readFrom_eq_readText {path : Path} (straight : ¬disk.Circles (.ofPath path)) {depth : Nat}
    (enough : disk.entries.length < depth) :
    disk.readFrom depth (.ofPath path) path = disk.readText path := by
  obtain ⟨count, last, within, chain, solid⟩ := settles straight
  rw [readText, chain.readFrom_of_solid solid (by omega), chain.readFrom_of_solid solid (by omega)]

theorem linkLoop_iff_circles {path : Path} :
    (∃ culprit, disk.readText path = .error (.linkLoop culprit)) ↔
      disk.Circles (.ofPath path) := by
  constructor
  · rintro ⟨culprit, looped⟩
    by_contra straight
    obtain ⟨count, last, within, chain, solid⟩ := settles straight
    rw [readText, chain.readFrom_of_solid solid (Nat.lt_succ_of_le within)] at looped
    exact solid.readFrom_ne_linkLoop _ culprit looped
  · exact fun circles => circles.readFrom _ path

theorem readText_ok_iff {path : Path} {text : String} :
    disk.readText path = .ok text ↔
      ∃ content mtime, Text.decodeUtf8 content = .ok text ∧ ∃ count,
        disk.Reaches count (.ofPath path) (.file content mtime) := by
  by_cases circles : disk.Circles (.ofPath path)
  · obtain ⟨culprit, looped⟩ := linkLoop_iff_circles.mpr circles
    rw [looped]
    refine iff_of_false nofun fun ⟨content, mtime, _, count, last, chain, found⟩ => ?_
    exact circles.not_solid chain (solid_of_get? found (by simp))
  · obtain ⟨count, last, within, chain, solid⟩ := settles circles
    rw [readText, chain.readFrom_of_solid solid (Nat.lt_succ_of_le within), solid.readFrom_ok_iff]
    constructor
    · rintro ⟨content, mtime, found, decoded⟩
      exact ⟨content, mtime, decoded, count, last, chain, found⟩
    · rintro ⟨content, mtime, decoded, other, place, along, found⟩
      obtain ⟨-, rfl⟩ := chain.unique solid along (solid_of_get? found (by simp))
      exact ⟨content, mtime, found, decoded⟩

theorem isFile_eq_false_iff_of_readText {path : Path} {text : String}
    (read : disk.readText path = .ok text) :
    disk.isFile path = false ↔ ∃ last, disk.Chain (linkLimit + 1) (.ofPath path) last := by
  obtain ⟨content, mtime, -, count, last, chain, found⟩ := readText_ok_iff.mp read
  have solid : disk.Solid last := solid_of_get? found (by simp)
  rw [← Bool.not_eq_true, isFile_iff_reaches]
  constructor
  · intro missed
    rcases settles_or_chain disk (.ofPath path) (linkLimit + 1) with
      ⟨passed, place, within, along, ends⟩ | long
    · obtain ⟨rfl, rfl⟩ := chain.unique solid along ends
      exact absurd ⟨content, mtime, count, Nat.le_of_lt_succ within, last, chain, found⟩ missed
    · exact long
  · rintro ⟨place, long⟩ ⟨_, _, passed, within, other, along, lies⟩
    have ends : disk.Solid other := solid_of_get? lies (by simp)
    exact absurd (along.le_of_solid ends long) (Nat.not_le.mpr (Nat.lt_succ_of_le within))

theorem isDir_eq_false_of_readText {path : Path} {text : String}
    (read : disk.readText path = .ok text) : disk.isDir path = false := by
  obtain ⟨content, mtime, -, count, last, chain, found⟩ := readText_ok_iff.mp read
  rw [← Bool.not_eq_true, isDir_iff_reaches]
  rintro ⟨names, time, _, -, place, along, lies⟩
  obtain ⟨-, rfl⟩ := chain.unique (solid_of_get? found (by simp)) along
    (solid_of_get? lies (by simp))
  rw [found] at lies
  cases lies

structure Resolved (disk : VirtualDisk) (path : Path) : Prop where
  modified : (∃ mtime, Disk.modified disk path = .ok (some mtime)) ↔ disk.present path = true
  present : disk.present path = true ↔ disk.isFile path = true ∨ disk.isDir path = true
  file : disk.isFile path = true ↔ ∃ content mtime, ∃ count ≤ linkLimit,
    disk.Reaches count (.ofPath path) (.file content mtime)
  dir : disk.isDir path = true ↔ ∃ names mtime, ∃ count ≤ linkLimit,
    disk.Reaches count (.ofPath path) (.dir names mtime)
  time : ∀ mtime, Disk.modified disk path = .ok (some mtime) ↔
    ∃ entry, entry.mtime? = some mtime ∧ ∃ count ≤ linkLimit,
      disk.Reaches count (.ofPath path) entry
  text : ∀ text, disk.readText path = .ok text ↔
    ∃ content mtime, Text.decodeUtf8 content = .ok text ∧ ∃ count,
      disk.Reaches count (.ofPath path) (.file content mtime)
  missed : ∀ text, disk.readText path = .ok text → disk.isDir path = false ∧
    (disk.isFile path = false ↔ ∃ last, disk.Chain (linkLimit + 1) (.ofPath path) last)
  looped : (∃ culprit, disk.readText path = .error (.linkLoop culprit)) ↔
    disk.Circles (.ofPath path)
  endless : disk.Circles (.ofPath path) → ∀ depth, ∃ culprit,
    disk.readFrom depth (.ofPath path) path = .error (.linkLoop culprit)
  ended : ¬disk.Circles (.ofPath path) → ∀ depth, disk.entries.length < depth →
    disk.readFrom depth (.ofPath path) path = disk.readText path

/-- On every disk the questions about a path agree. Reading ends unless links go round in circles,
and what it finds is a file to the questions as long as not too many links lead there. -/
theorem links_resolved (disk : VirtualDisk) (path : Path) : disk.Resolved path where
  modified := by simp [Disk.modified, VirtualDisk.present, Option.isSome_iff_exists]
  present := present_iff
  file := isFile_iff_reaches
  dir := isDir_iff_reaches
  time mtime := by
    rw [← mtimeOf_iff_reaches]
    simp [Disk.modified]
  text _ := readText_ok_iff
  missed _ read := ⟨isDir_eq_false_of_readText read, isFile_eq_false_iff_of_readText read⟩
  looped := linkLoop_iff_circles
  endless circles depth := circles.readFrom depth path
  ended straight _ enough := readFrom_eq_readText straight enough

def rung (place : Nat) : Path :=
  ⟨String.ofList (List.replicate (place + 1) 'i')⟩

def ladder (links : Nat) : VirtualDisk :=
  new.applyAll (.add (rung links) (Text.utf8 "end") :: .symlink ⟨"ring"⟩ ⟨"ring"⟩ ::
    (List.range links).map fun place => .symlink (rung (place + 1)) (rung place))

theorem links_resolved_ladder :
    (ladder 17).readText (rung 0) = .ok "end" ∧ (ladder 17).isFile (rung 0) = false ∧
      (ladder 17).present (rung 0) = false ∧ (ladder 17).isFile (rung 1) = true ∧
      (∃ last, (ladder 17).Chain 17 (.ofPath (rung 0)) last) ∧
      ∀ depth, ∃ culprit,
        (ladder 17).readFrom depth (.ofPath ⟨"ring"⟩) ⟨"ring"⟩ = .error (.linkLoop culprit) := by
  obtain ⟨read, missed, nearer, looped⟩ :
      (ladder 17).readText (rung 0) = .ok "end" ∧ (ladder 17).isFile (rung 0) = false ∧
        (ladder 17).isFile (rung 1) = true ∧
        (ladder 17).readText ⟨"ring"⟩ = .error (.linkLoop ⟨"ring"⟩) := by
    decide +kernel
  have row := links_resolved (ladder 17) (rung 0)
  have ring := links_resolved (ladder 17) ⟨"ring"⟩
  obtain ⟨noDir, long⟩ := row.missed "end" read
  refine ⟨read, missed, ?_, nearer, long.mp missed, ring.endless (ring.looped.mp ⟨_, looped⟩)⟩
  rw [← Bool.not_eq_true, row.present, missed, noDir]
  nofun

end VirtualDisk

end ArtifactPipeline
