import ArtifactPipeline.Proofs.Listings

set_option autoImplicit false

namespace ArtifactPipeline

namespace Location

/-- Nothing is left to work out: double dots stand only in front, and the steps are single steps. -/
structure Worked (loc : Location) : Prop where
  clean : loc.Clean
  leading : loc.steps.Pairwise fun before step => step = up → before = up

theorem worked_start (rooted : Bool) : Worked ⟨rooted, []⟩ :=
  ⟨fun _ member => absurd member List.not_mem_nil, List.Pairwise.nil⟩

theorem Worked.of_holds {loc target : Location} (worked : target.Worked)
    (holds : loc.Holds target) : loc.Worked :=
  ⟨fun step member => worked.clean step (holds.2.subset member),
    worked.leading.sublist holds.2.sublist⟩

theorem Worked.step {loc : Location} (worked : loc.Worked) {component : Path.Component}
    (proper : ∀ name, component = .name name → Path.IsName name) :
    (loc.step component).Worked where
  clean := worked.clean.step fun name same => ⟨(proper name same).solid, (proper name same).clean⟩
  leading := by
    cases component with
    | root => exact List.Pairwise.nil
    | current => exact worked.leading
    | name text =>
        refine List.pairwise_append.mpr ⟨worked.leading, List.pairwise_singleton _ _, ?_⟩
        intro before _ step member upward
        rw [List.mem_singleton.mp member] at upward
        exact absurd upward (proper text rfl).down
    | parent =>
        rw [Location.step]
        split
        · rename_i last ends
          split_ifs with upward
          · -- Where the last step leads up, all steps do.
            refine List.pairwise_append.mpr ⟨worked.leading, List.pairwise_singleton _ _, ?_⟩
            intro before member _ _ _
            obtain ⟨front, split⟩ := List.getLast?_eq_some_iff.mp ends
            have leading := worked.leading
            rw [split] at leading member
            rcases List.mem_append.mp member with early | here
            · exact (List.pairwise_append.mp leading).2.2 before early last (by simp) upward
            · rw [List.mem_singleton.mp here]
              exact upward
          · exact worked.leading.sublist (List.dropLast_sublist _)
        · exact List.pairwise_singleton _ _

theorem Worked.walk {loc : Location} (worked : loc.Worked) {components : List Path.Component}
    (proper : ∀ name, .name name ∈ components → Path.IsName name) :
    (loc.walk components).Worked := by
  induction components generalizing loc with
  | nil => exact worked
  | cons component rest ih =>
      refine ih (worked.step ?_) fun name member => proper name (List.mem_cons_of_mem _ member)
      rintro name rfl
      exact proper name List.mem_cons_self

theorem worked_ofPath (path : Path) : (ofPath path).Worked :=
  (worked_start false).walk fun _ => Path.isName_of_mem_components

theorem Worked.walk_steps {rooted : Bool} {steps : List (List Char)}
    (worked : Worked ⟨rooted, steps⟩) :
    Location.walk ⟨rooted, []⟩ (steps.map Path.Component.ofSegment) = ⟨rooted, steps⟩ := by
  induction steps using List.reverseRecOn with
  | nil => rfl
  | append_singleton front last ih =>
      have front' : (Location.mk rooted front).Worked :=
        worked.of_holds ⟨rfl, List.prefix_append _ _⟩
      rw [List.map_append, walk_append, ih front', List.map_singleton, walk_cons, walk_nil,
        Path.Component.ofSegment]
      split_ifs with upward
      · subst upward
        unfold Location.step
        dsimp only
        split
        · rename_i before ends
          have leads : before = up := (List.pairwise_append.mp worked.leading).2.2 before
            (List.mem_of_getLast? ends) up (List.mem_singleton.mpr rfl) rfl
          rw [if_pos leads]
          rfl
        · rename_i none
          rw [List.getLast?_eq_none_iff.mp none]
          rfl
      · rfl

theorem Worked.ofPath_toPath {loc : Location} (worked : loc.Worked) : ofPath loc.toPath = loc := by
  obtain ⟨rooted, steps⟩ := loc
  have spelled : (Location.mk rooted steps).text = NodeId.spell rooted steps := rfl
  have walked := @NodeId.componentsOf_spell rooted steps
    (fun piece member => (worked.clean piece member).1)
    (fun piece member => (worked.clean piece member).2)
  rw [ofPath, Path.components, toPath, String.toList_ofList, spelled, walked, walk_append]
  have start : here.walk (if rooted then [.root] else if steps.isEmpty then [.current] else []) =
      ⟨rooted, []⟩ := by
    cases rooted
    · cases steps <;> rfl
    · rfl
  rw [start, worked.walk_steps]

def child (dir : Location) (name : List Char) : Location :=
  ⟨dir.rooted, dir.steps ++ [name]⟩

theorem eq_child {loc dir : Location} {name : List Char} (listed : loc.dir? = some dir)
    (known : loc.name? = some name) : loc = dir.child name := by
  rcases loc.start_or_append with ⟨-, none⟩ | ⟨steps, last, split, above⟩
  · rw [none] at listed
    cases listed
  · rw [above] at listed
    cases listed
    rw [split] at known ⊢
    unfold name? at known
    simp only [List.getLast?_append, List.getLast?_singleton, Option.some_or] at known
    split_ifs at known
    cases known
    rfl

theorem parent?_child (dir : Location) (name : List Char) :
    (dir.child name).parent? = some dir := by
  simp [child, parent?]

theorem name?_child (dir : Location) {name : List Char} (isName : Path.IsName name) :
    (dir.child name).name? = some name := by
  have down : name ≠ up := isName.down
  simp [child, name?, down]

theorem dir?_of_parent? {loc dir : Location} (above : loc.parent? = some dir)
    (apart : dir ≠ loc) : loc.dir? = some dir := by
  obtain ⟨rooted, steps⟩ := loc
  unfold parent? at above
  unfold dir?
  cases steps with
  | nil =>
      -- The working directory holds itself, and the root lies in nothing.
      cases rooted
      · cases above
        exact absurd rfl apart
      · cases above
  | cons step rest => simpa using above

theorem Worked.dir {loc dir : Location} (worked : loc.Worked) (above : loc.dir? = some dir) :
    dir.Worked :=
  worked.of_holds (above_iff_holds_dir.mpr ⟨dir, above, dir.holds_refl⟩).1

end Location

namespace Assoc

theorem erase_sublist {κ ν : Type} [DecidableEq κ] (key : κ) (entries : List (κ × ν)) :
    (erase key entries).Sublist entries := by
  induction entries with
  | nil => exact List.Sublist.refl _
  | cons entry rest ih =>
      rw [erase]
      split_ifs
      · exact ih.cons _
      · exact ih.cons_cons _

end Assoc

namespace VirtualDisk

def stamp? (disk : VirtualDisk) (loc : Location) : Option Nat :=
  (disk.bare? loc).bind Entry.mtime?

/-- How entries are filed: every key once and worked out, what a directory lists is there, and no
two entries bear one time. -/
structure Filed (disk : VirtualDisk) : Prop where
  once : (disk.entries.map Prod.fst).Nodup
  worked : ∀ loc, disk.get? loc ≠ none → loc.Worked
  listed : ∀ dir names mtime, disk.get? dir = some (.dir names mtime) →
    ∀ name ∈ names, disk.get? (dir.child name) ≠ none
  apart : ∀ loc other mtime, disk.stamp? loc = some mtime → disk.stamp? other = some mtime →
    loc = other

variable {disk : VirtualDisk} {loc dir : Location}

theorem stamp?_set (disk : VirtualDisk) (loc other : Location) (entry : Entry) :
    (disk.set loc entry).stamp? other =
      if other = loc then entry.mtime? else disk.stamp? other := by
  by_cases same : other = loc <;> simp [stamp?, bare?_set, same]

theorem timed_addDir (timed : disk.Timed) (loc : Location) : (disk.addDir loc).Timed := by
  refine timed_set (timed_tick timed) _ _ ?_
  rintro mtime ⟨⟩
  exact Nat.lt_succ_self _

theorem Timed.stamp?_lt (timed : disk.Timed) {mtime : Nat}
    (stamped : disk.stamp? loc = some mtime) : mtime < disk.clock := by
  obtain ⟨entry, lies, dated⟩ := Option.bind_eq_some_iff.mp stamped
  exact timed loc entry mtime lies dated

namespace Filed

theorem tick (filed : disk.Filed) : disk.tick.Filed :=
  ⟨filed.once, filed.worked, filed.listed, filed.apart⟩

theorem put (filed : disk.Filed) (timed : disk.Timed) (worked : loc.Worked) {entry : Entry}
    (fresh : ∀ mtime, entry.mtime? = some mtime → disk.clock ≤ mtime)
    (full : ∀ names mtime, entry = .dir names mtime →
      ∀ name ∈ names, disk.get? (loc.child name) ≠ none) : (disk.set loc entry).Filed where
  once := Assoc.nodup_keys_set filed.once
  worked := by
    intro other present
    rw [get?_set] at present
    split_ifs at present with same
    · exact same ▸ worked
    · exact filed.worked other present
  listed := by
    intro other names mtime found name member
    rw [get?_set] at found ⊢
    split_ifs
    · exact Option.some_ne_none _
    · split_ifs at found with same
      · cases same
        exact full names mtime (Option.some.inj found) name member
      · exact filed.listed other names mtime found name member
  apart := by
    -- The time is later than all that are noted, so that no other place bears it.
    have late : ∀ other mtime, disk.stamp? other = some mtime → entry.mtime? ≠ some mtime := by
      intro other mtime stamped dated
      exact absurd (fresh mtime dated) (Nat.not_le.mpr (timed.stamp?_lt stamped))
    intro a b mtime stampA stampB
    rw [stamp?_set] at stampA stampB
    split_ifs at stampA stampB with sameA sameB sameB
    · rw [sameA, sameB]
    · exact absurd stampA (late b mtime stampB)
    · exact absurd stampB (late a mtime stampA)
    · exact filed.apart a b mtime stampA stampB

theorem relist (filed : disk.Filed) {names others : List (List Char)} {mtime : Nat}
    (found : disk.get? dir = some (.dir names mtime))
    (full : ∀ name ∈ others, disk.get? (dir.child name) ≠ none) :
    (disk.set dir (.dir others mtime)).Filed where
  once := Assoc.nodup_keys_set filed.once
  worked := by
    intro other present
    rw [Ne, get?_eq_none_iff, bare?_relist found, ← get?_eq_none_iff] at present
    exact filed.worked other present
  listed := by
    intro other known time lies name member
    rw [Ne, get?_eq_none_iff, bare?_relist found, ← get?_eq_none_iff]
    rw [get?_set] at lies
    split_ifs at lies with same
    · cases lies
      exact same ▸ full name member
    · exact filed.listed other known time lies name member
  apart := by
    intro a b time stampA stampB
    rw [stamp?, bare?_relist found] at stampA stampB
    exact filed.apart a b time stampA stampB

theorem linkChild (filed : disk.Filed) (above : loc.dir? = some dir)
    (present : disk.get? loc ≠ none) : (disk.linkChild dir loc).Filed := by
  unfold VirtualDisk.linkChild
  split
  · rename_i names mtime name found known
    split_ifs
    · exact filed
    · refine filed.relist found fun other member => ?_
      rcases List.mem_append.mp member with old | new
      · exact filed.listed dir names mtime found other old
      · rw [List.mem_singleton.mp new, ← Location.eq_child above known]
        exact present
  · exact filed

theorem putFile (filed : disk.Filed) (timed : disk.Timed) (worked : loc.Worked)
    (content : List UInt8) : (disk.set loc (.file content disk.clock)).Filed := by
  refine filed.put timed worked ?_ ?_
  · rintro mtime ⟨⟩
    exact Nat.le_refl _
  · rintro names mtime ⟨⟩

theorem putDir (filed : disk.Filed) (timed : disk.Timed) (worked : loc.Worked)
    {names : List (List Char)} (full : ∀ name ∈ names, disk.get? (loc.child name) ≠ none) :
    (disk.set loc (.dir names disk.clock)).Filed := by
  refine filed.put timed worked ?_ ?_
  · rintro mtime ⟨⟩
    exact Nat.le_refl _
  · rintro others mtime ⟨⟩
    exact full

theorem addDir (filed : disk.Filed) (timed : disk.Timed) (worked : loc.Worked) :
    (disk.addDir loc).Filed :=
  (filed.putDir timed worked fun _ member => absurd member List.not_mem_nil).tick

theorem ensureDirAt (filed : disk.Filed) (timed : disk.Timed) {rooted : Bool}
    {steps : List (List Char)} (worked : Location.Worked ⟨rooted, steps.reverse⟩) :
    (ensureDirAt rooted steps disk).Filed := by
  induction steps generalizing disk with
  | nil =>
      rw [VirtualDisk.ensureDirAt]
      split_ifs
      · exact filed
      · exact filed.addDir timed worked
  | cons name above ih =>
      rw [List.reverse_cons] at worked
      rw [ensureDirAt_cons]
      split_ifs
      · exact filed
      · have upper : Location.Worked ⟨rooted, above.reverse⟩ :=
          worked.dir (by simp [Location.dir?])
        -- The directory is made first and is still there when those above it are made.
        have made := ih (filed.addDir timed worked) (timed_addDir timed _) upper
        refine made.linkChild (by simp [Location.dir?]) ?_
        rw [Ne, get?_eq_none_iff, (grows_ensureDirAt rooted above _).kept _ (by simp)] <;>
          simp [bare?_addDir]

theorem ensureDir (filed : disk.Filed) (timed : disk.Timed) (worked : loc.Worked) :
    (disk.ensureDir loc).Filed :=
  filed.ensureDirAt timed (by rwa [List.reverse_reverse])

theorem insertEntry {entry : Entry} (placed : (disk.set loc entry).Filed)
    (timed : (disk.set loc entry).Timed) (worked : loc.Worked) :
    (disk.insertEntry loc entry).Filed := by
  unfold VirtualDisk.insertEntry
  dsimp only
  split
  · rename_i parent above
    split_ifs with self
    · exact placed
    · have dir := Location.dir?_of_parent? above self
      refine (placed.ensureDir timed (worked.dir dir)).linkChild dir ?_
      rw [Ne, get?_eq_none_iff, (grows_ensureDir _ parent).kept _ (by simp)] <;> simp [bare?_set]
  · exact placed

theorem addFileAt (filed : disk.Filed) (timed : disk.Timed) (worked : loc.Worked)
    (content : List UInt8) : (disk.addFileAt loc content).Filed := by
  refine insertEntry (filed.putFile timed worked content).tick ?_ worked
  refine timed_set (timed_tick timed) _ _ ?_
  rintro mtime ⟨⟩
  exact Nat.lt_succ_self _

theorem write (filed : disk.Filed) (timed : disk.Timed) (path : Path) (content : List UInt8) :
    (disk.write path content).Filed :=
  filed.addFileAt timed (Location.worked_ofPath path) content

theorem touch (filed : disk.Filed) (timed : disk.Timed) (path : Path) :
    (disk.touch path).Filed := by
  have worked := Location.worked_ofPath path
  unfold VirtualDisk.touch
  dsimp only
  split
  · exact (filed.putFile timed worked _).tick
  · rename_i names mtime found
    exact (filed.putDir timed worked (filed.listed _ names mtime found)).tick
  · exact filed.tick.addFileAt (timed_tick timed) worked []

theorem symlink (filed : disk.Filed) (timed : disk.Timed) (target link : Path) :
    (disk.symlink target link).2.Filed := by
  have worked := Location.worked_ofPath link
  unfold VirtualDisk.symlink
  dsimp only
  split
  · exact filed
  · refine insertEntry (filed.put timed worked ?_ ?_) (timed_set timed _ _ ?_) worked
    · rintro mtime ⟨⟩
    · rintro names mtime ⟨⟩
    · rintro mtime ⟨⟩

theorem createDirs (filed : disk.Filed) (timed : disk.Timed) (path : Path) :
    (disk.createDirs path).2.Filed := by
  unfold VirtualDisk.createDirs
  dsimp only
  split
  · exact filed
  · exact filed
  · exact filed.ensureDir timed (Location.worked_ofPath path)

end Filed

theorem listed_remove (tidy : disk.Tidy) {path : Path} {names : List (List Char)} {mtime : Nat}
    (found : (disk.remove path).get? dir = some (.dir names mtime)) :
    ∃ before, disk.get? dir = some (.dir before mtime) ∧
      ∀ name ∈ names, name ∈ before ∧ dir.child name ≠ .ofPath path := by
  have elsewhere : dir ≠ .ofPath path := by
    rintro rfl
    rw [get?_remove_self] at found
    cases found
  have own : (disk.erase (.ofPath path)).get? dir = disk.get? dir := by
    rw [get?_erase, if_neg elsewhere]
  have isName (before : List (List Char)) (time : Nat)
      (lies : disk.get? dir = some (.dir before time)) : ∀ name ∈ before, Path.IsName name :=
    (tidy dir _ lies).2
  by_cases above : (Location.ofPath path).parent? = some dir
  · simp only [remove, above, unlinkChild, own] at found
    split at found
    · -- It was listed here and is so no longer.
      rename_i before time name lies known
      rw [get?_set, if_pos rfl] at found
      cases found
      refine ⟨before, lies, fun other member => ?_⟩
      obtain ⟨old, kept⟩ := List.mem_filter.mp member
      refine ⟨old, fun here => ?_⟩
      rw [← here, Location.name?_child dir (isName before _ lies other old)] at known
      cases known
      simp at kept
    · rename_i unlisted
      rw [own] at found
      refine ⟨names, found, fun name member => ⟨member, fun here => ?_⟩⟩
      refine unlisted names mtime name found ?_
      rw [← here, Location.name?_child dir (isName names _ found name member)]
  · have kept : (disk.remove path).get? dir = disk.get? dir := by
      unfold remove
      dsimp only
      split
      · rename_i parent parentOf
        rw [get?_unlinkChild (fun same => above (by rw [parentOf, same])), own]
      · exact own
    refine ⟨names, by rw [← kept, found], fun name member => ⟨member, fun here => above ?_⟩⟩
    rw [← here, Location.parent?_child]

theorem nodup_keys_remove (once : (disk.entries.map Prod.fst).Nodup) (path : Path) :
    ((disk.remove path).entries.map Prod.fst).Nodup := by
  have erased : ((disk.erase (.ofPath path)).entries.map Prod.fst).Nodup :=
    once.sublist ((Assoc.erase_sublist _ _).map _)
  unfold remove
  dsimp only
  split
  · unfold unlinkChild
    split
    · exact Assoc.nodup_keys_set erased
    · exact erased
  · exact erased

namespace Filed

theorem remove (filed : disk.Filed) (tidy : disk.Tidy) (path : Path) :
    (disk.remove path).Filed where
  once := nodup_keys_remove filed.once path
  worked := by
    intro loc present
    rw [Ne, get?_eq_none_iff, bare?_remove] at present
    split_ifs at present
    · exact absurd rfl present
    · exact filed.worked loc (mt get?_eq_none_iff.mp present)
  listed := by
    intro dir names mtime found name member
    obtain ⟨before, lies, kept⟩ := listed_remove tidy found
    obtain ⟨old, elsewhere⟩ := kept name member
    rw [Ne, get?_eq_none_iff, bare?_remove, if_neg elsewhere, ← get?_eq_none_iff]
    exact filed.listed dir before mtime lies name old
  apart := by
    intro a b mtime stampA stampB
    rw [stamp?, bare?_remove] at stampA stampB
    split_ifs at stampA stampB
    · cases stampA
    · cases stampA
    · cases stampB
    · exact filed.apart a b mtime stampA stampB

theorem addEach (filed : disk.Filed) (timed : disk.Timed) (dir : Path) (names : List String) :
    (disk.addEach dir names).Filed := by
  unfold VirtualDisk.addEach
  induction names generalizing disk with
  | nil => exact filed
  | cons name rest ih => exact ih (filed.write timed _ _) (timed_write timed _ _)

theorem apply (filed : disk.Filed) (tidy : disk.Tidy) (timed : disk.Timed) (step : DiskStep) :
    (disk.apply step).2.Filed := by
  cases step with
  | add path content | write path content => exact filed.write timed path content
  | touch path => exact filed.touch timed path
  | remove path => exact filed.remove tidy path
  | addEach dir names => exact filed.addEach timed dir names
  | removeFile path =>
      rcases removeFile_cases disk path with ⟨fault, kept, -⟩ | removed
      · simpa [VirtualDisk.apply, kept] using filed
      · simpa [VirtualDisk.apply, removed] using filed.remove tidy path
  | createDirs path => exact filed.createDirs timed path
  | symlink target link => exact filed.symlink timed target link
  | read | list | glob =>
      rw [VirtualDisk.apply]
      split <;> exact filed
  | inspect | listAll => exact filed

theorem applyAll (filed : disk.Filed) (tidy : disk.Tidy) (timed : disk.Timed)
    (steps : List DiskStep) : (disk.applyAll steps).Filed := by
  unfold VirtualDisk.applyAll
  induction steps generalizing disk with
  | nil => exact filed
  | cons step rest ih =>
      exact ih (filed.apply tidy timed step) (tidy.apply step) (timed_apply timed step)

end Filed

theorem filed_new : new.Filed where
  once := by decide
  worked := by
    intro loc present
    rw [Ne, get?_eq_none_iff, bare?_new] at present
    split_ifs at present with here
    · exact here ▸ Location.worked_start false
    · exact absurd rfl present
  listed := by
    intro dir names mtime found
    simp only [get?, new, List.lookup_cons, List.lookup_nil] at found
    split at found
    · cases found
      exact fun _ member => absurd member List.not_mem_nil
    · cases found
  apart := by
    intro a b mtime stampA stampB
    rw [stamp?, bare?_new] at stampA stampB
    split_ifs at stampA stampB with hereA hereB
    · rw [hereA, hereB]
    all_goals simp at stampA stampB

theorem mtimeOf_write_self (disk : VirtualDisk) (path : Path) (content : List UInt8) :
    (disk.write path content).mtimeOf path = some disk.clock := by
  simp only [mtimeOf, mtimeFrom, get?_write_self]

theorem apply_of_refused (disk : VirtualDisk) (step : DiskStep) {failure : Failure}
    (refused : (disk.apply step).1 = .refused failure) : (disk.apply step).2 = disk := by
  cases step with
  | add | touch | remove | addEach | write => cases refused
  | removeFile path =>
      rcases removeFile_cases disk path with ⟨fault, kept, -⟩ | removed
      · simp [apply, kept]
      · simp [apply, removed, DiskAnswer.ofResult] at refused
  | createDirs path =>
      rcases createDirs_cases disk path with ⟨fault, kept⟩ | ⟨after, mtime, made, -⟩
      · simp [apply, kept]
      · simp [apply, made, DiskAnswer.ofResult] at refused
  | symlink target link =>
      unfold apply symlink at refused ⊢
      dsimp only at refused ⊢
      split at refused
      · rfl
      · cases refused
  | read | list | glob =>
      rw [apply]
      split <;> rfl
  | inspect | listAll => rfl

/-- A table that is in order: every key is a path that is worked out and stands there once, what a
directory lists is in the table, no two files or directories bear one time, a file that is written
next is newer than all of them, and a step that is refused leaves everything as it is. -/
structure InOrder (disk : VirtualDisk) : Prop where
  once : (disk.entries.map Prod.fst).Nodup
  normal : ∀ key entry, (key, entry) ∈ disk.entries → Location.ofPath key.toPath = key
  listed : ∀ dir names mtime, (dir, Entry.dir names mtime) ∈ disk.entries →
    names.Nodup ∧ ∀ name ∈ names, ∃ entry,
      (Location.ofPath (dir.toPath.join ⟨String.ofList name⟩), entry) ∈ disk.entries
  earlier : ∀ key entry mtime, (key, entry) ∈ disk.entries → entry.mtime? = some mtime →
    mtime < disk.clock
  apart : ∀ key other one two mtime, (key, one) ∈ disk.entries → (other, two) ∈ disk.entries →
    one.mtime? = some mtime → two.mtime? = some mtime → key = other
  newest : ∀ path content, ∃ now,
    (disk.write path content).get? (.ofPath path) = some (.file content now) ∧
    (disk.write path content).mtimeOf path = some now ∧
    ∀ key entry mtime, (key, entry) ∈ disk.entries → entry.mtime? = some mtime → mtime < now
  refused : ∀ step failure, (disk.apply step).1 = .refused failure → (disk.apply step).2 = disk

theorem Filed.stamp?_of_mem (filed : disk.Filed) {entry : Entry} {mtime : Nat}
    (member : (loc, entry) ∈ disk.entries) (dated : entry.mtime? = some mtime) :
    disk.stamp? loc = some mtime := by
  have found : disk.get? loc = some entry := (Assoc.mem_iff_lookup filed.once).mp member
  simp [stamp?, bare?, found, dated]

theorem Filed.inOrder (filed : disk.Filed) (tidy : disk.Tidy) (timed : disk.Timed) :
    disk.InOrder where
  once := filed.once
  normal := by
    intro key entry member
    have found : disk.get? key = some entry := (Assoc.mem_iff_lookup filed.once).mp member
    exact (filed.worked key (by simp [found])).ofPath_toPath
  listed := by
    intro dir names mtime member
    have found : disk.get? dir = some (.dir names mtime) :=
      (Assoc.mem_iff_lookup filed.once).mp member
    obtain ⟨once, areNames⟩ : names.Nodup ∧ ∀ name ∈ names, Path.IsName name := tidy dir _ found
    refine ⟨once, fun name listed => ?_⟩
    obtain ⟨entry, there⟩ :=
      Option.ne_none_iff_exists'.mp (filed.listed dir names mtime found name listed)
    rw [Location.ofPath_join _ (areNames name listed),
      (filed.worked dir (by simp [found])).ofPath_toPath]
    exact ⟨entry, (Assoc.mem_iff_lookup filed.once).mpr there⟩
  earlier _ _ _ member dated := timed.stamp?_lt (filed.stamp?_of_mem member dated)
  apart key other _ _ mtime one two datedOne datedTwo :=
    filed.apart key other mtime (filed.stamp?_of_mem one datedOne)
      (filed.stamp?_of_mem two datedTwo)
  newest path content :=
    ⟨disk.clock, get?_write_self disk path content, mtimeOf_write_self disk path content,
      fun _ _ _ member dated => timed.stamp?_lt (filed.stamp?_of_mem member dated)⟩
  refused := fun step _ => disk.apply_of_refused step

/-- Whatever is done to a new disk, its table is in order. -/
theorem table_in_order (steps : List DiskStep) : (new.applyAll steps).InOrder := by
  have start : new.Made := ⟨[], rfl⟩
  have made : (new.applyAll steps).Made := ⟨steps, rfl⟩
  have filed := filed_new.applyAll start.tidy timed_new steps
  exact filed.inOrder made.tidy made.timed

end VirtualDisk

end ArtifactPipeline
