import ArtifactPipeline.Proofs.OutputDirectories

set_option autoImplicit false

namespace ArtifactPipeline

namespace Path

structure IsName (name : List Char) : Prop where
  solid : isIdle name = false
  clean : '/' ∉ name
  down : name ≠ ['.', '.']

instance (name : List Char) : Decidable (IsName name) :=
  decidable_of_iff (isIdle name = false ∧ '/' ∉ name ∧ name ≠ ['.', '.'])
    ⟨fun ⟨solid, clean, down⟩ => ⟨solid, clean, down⟩,
      fun name => ⟨name.solid, name.clean, name.down⟩⟩

theorem IsName.filled {name : List Char} (isName : IsName name) : name ≠ [] :=
  NodeId.ne_nil_of_notIdle isName.solid

theorem IsName.relative {name : List Char} (isName : IsName name) :
    isAbsoluteText name = false :=
  isAbsoluteText_of_notMem isName.clean

theorem steps_append (front rest : List (List Char)) :
    steps (front ++ rest) = steps front ++ steps rest := by
  simp [steps]

def below (base : Path) (names : List (List Char)) : Path :=
  names.foldl (fun dir name => dir.join ⟨String.ofList name⟩) base

@[simp] theorem below_nil (base : Path) : base.below [] = base := rfl

theorem below_concat (base : Path) (names : List (List Char)) (name : List Char) :
    base.below (names ++ [name]) = (base.below names).join ⟨String.ofList name⟩ := by
  simp [below]

theorem componentsOf_cons {c : Char} {tail : List Char} (relative : c ≠ '/') :
    componentsOf (c :: tail) =
      (if (Text.splitOn '/' (c :: tail)).head? = some ['.'] then [.current] else []) ++
        steps (Text.splitOn '/' (c :: tail)) := by
  unfold componentsOf
  split
  · simp_all
  · simp_all
  · split
    · rename_i rest pieces
      simp [pieces, steps, isIdle]
    · rename_i other
      rw [if_neg]
      · rfl
      · intro dot
        obtain ⟨rest, pieces⟩ := List.head?_eq_some_iff.mp dot
        exact other rest pieces

theorem componentsOf_append_slash {front : List Char} (filled : front ≠ []) (rest : List Char) :
    componentsOf (front ++ '/' :: rest) =
      componentsOf front ++ steps (Text.splitOn '/' rest) := by
  obtain ⟨c, tail, rfl⟩ := List.exists_cons_of_ne_nil filled
  by_cases slash : c = '/'
  · subst slash
    simp [componentsOf, Text.splitOn_append_slash, steps_append]
  · have whole := Text.splitOn_append_slash (c :: tail) rest
    rw [List.cons_append] at whole ⊢
    rw [componentsOf_cons slash, componentsOf_cons slash, whole, steps_append,
      List.head?_append_of_ne_nil _ (Text.splitOn_ne_nil _ _), List.append_assoc]

theorem steps_splitOn_name {name : List Char} (isName : IsName name) :
    steps (Text.splitOn '/' name) = [.name name] := by
  rw [Text.splitOn_of_notMem isName.clean]
  simp [steps, isName.solid, Component.ofSegment, isName.down]

theorem componentsOf_joinText (base : List Char) {name : List Char} (isName : IsName name) :
    componentsOf (joinText base name) = componentsOf base ++ [.name name] := by
  have alone := steps_splitOn_name isName
  cases base with
  | nil =>
      obtain ⟨c, tail, rfl⟩ := List.exists_cons_of_ne_nil isName.filled
      have relative : c ≠ '/' := by
        rintro rfl
        exact isName.clean List.mem_cons_self
      have dotless : c :: tail ≠ ['.'] := fun dot => by simpa [dot, isIdle] using isName.solid
      have open_ : joinText [] (c :: tail) = c :: tail := by simp [joinText, isName.relative]
      rw [open_, componentsOf_cons relative, alone, Text.splitOn_of_notMem isName.clean]
      simp [dotless, componentsOf]
  | cons c base =>
      obtain ⟨front, joined, whole | whole⟩ :=
        joinText_split (List.cons_ne_nil c base) isName.relative
      · rw [joined, whole, componentsOf_append_slash (by simp [← whole]), alone]
      · rw [joined, whole]
        -- The last slash of the directory stands for nothing, unless it is the root.
        cases front with
        | nil =>
            simp only [List.nil_append, componentsOf, alone]
            rfl
        | cons d front =>
            rw [componentsOf_append_slash (List.cons_ne_nil d front),
              componentsOf_append_slash (List.cons_ne_nil d front), alone]
            simp [steps, isIdle]

end Path

namespace Location

theorem ofPath_join (dir : Path) {name : List Char} (isName : Path.IsName name) :
    ofPath (dir.join ⟨String.ofList name⟩) =
      ⟨(ofPath dir).rooted, (ofPath dir).steps ++ [name]⟩ := by
  have walked : (dir.join ⟨String.ofList name⟩).components = dir.components ++ [.name name] := by
    simpa [Path.components, Path.join] using Path.componentsOf_joinText dir.text.toList isName
  rw [ofPath, walked, walk_append]
  rfl

theorem ofPath_below (base : Path) {names : List (List Char)}
    (areNames : ∀ name ∈ names, Path.IsName name) :
    ofPath (base.below names) = ⟨(ofPath base).rooted, (ofPath base).steps ++ names⟩ := by
  induction names using List.reverseRecOn with
  | nil => simp
  | append_singleton names name ih =>
      rw [Path.below_concat, ofPath_join _ (areNames name (by simp)),
        ih fun other member => areNames other (by simp [member])]
      simp

def Clean (loc : Location) : Prop :=
  ∀ step ∈ loc.steps, Path.isIdle step = false ∧ '/' ∉ step

theorem Clean.step {loc : Location} (clean : loc.Clean) {component : Path.Component}
    (proper : ∀ name, component = .name name → Path.isIdle name = false ∧ '/' ∉ name) :
    (loc.step component).Clean := by
  have upward : Path.isIdle up = false ∧ '/' ∉ up := by decide
  cases component with
  | root => exact nofun
  | current => exact clean
  | name text =>
      intro step member
      rcases List.mem_append.mp member with old | new
      · exact clean step old
      · rw [List.mem_singleton.mp new]
        exact proper text rfl
  | parent =>
      unfold Location.step
      dsimp only
      split
      · split_ifs
        · intro step member
          rcases List.mem_append.mp member with old | new
          · exact clean step old
          · rw [List.mem_singleton.mp new]
            exact upward
        · exact fun step member => clean step (List.mem_of_mem_dropLast member)
      · intro step member
        rw [List.mem_singleton.mp member]
        exact upward

theorem Clean.walk {loc : Location} (clean : loc.Clean) {components : List Path.Component}
    (proper : ∀ name, .name name ∈ components → Path.isIdle name = false ∧ '/' ∉ name) :
    (loc.walk components).Clean := by
  induction components generalizing loc with
  | nil => exact clean
  | cons component rest ih =>
      refine ih (clean.step ?_) fun name member => proper name (List.mem_cons_of_mem _ member)
      rintro name rfl
      exact proper name List.mem_cons_self

end Location

theorem Path.isName_of_mem_steps {text name : List Char}
    (member : .name name ∈ steps (Text.splitOn '/' text)) : IsName name := by
  obtain ⟨segment, kept, named⟩ := List.mem_map.mp member
  obtain ⟨inside, solid⟩ := List.mem_filter.mp kept
  unfold Component.ofSegment at named
  split_ifs at named with upward
  cases named
  exact ⟨by simpa using solid, Text.notMem_of_mem_splitOn inside, upward⟩

theorem Path.isName_of_mem_components {path : Path} {name : List Char}
    (member : .name name ∈ path.components) : IsName name := by
  rw [Path.components] at member
  cases text : path.text.toList with
  | nil => simp [text, Path.componentsOf] at member
  | cons c tail =>
      rw [text] at member
      by_cases slash : c = '/'
      · subst slash
        exact Path.isName_of_mem_steps (by simpa [Path.componentsOf] using member)
      · rw [Path.componentsOf_cons slash, List.mem_append] at member
        rcases member with dot | member
        · split_ifs at dot <;> simp at dot
        · exact Path.isName_of_mem_steps member

theorem Location.clean_ofPath (path : Path) : (ofPath path).Clean := by
  have start : here.Clean := fun _ member => absurd member List.not_mem_nil
  refine start.walk fun name member => ?_
  have isName := Path.isName_of_mem_components member
  exact ⟨isName.solid, isName.clean⟩

theorem Location.Clean.isName {loc : Location} (clean : loc.Clean) {name : List Char}
    (known : loc.name? = some name) : Path.IsName name := by
  unfold Location.name? at known
  split at known
  · rename_i last ends
    split_ifs at known with upward
    cases known
    obtain ⟨solid, noSlash⟩ := clean name (List.mem_of_getLast? ends)
    exact ⟨solid, noSlash, upward⟩
  · cases known

def Entry.Tidy : Entry → Prop
  | .dir children _ => children.Nodup ∧ ∀ name ∈ children, Path.IsName name
  | .file _ _ | .link _ => True

theorem Entry.tidy_empty (mtime : Nat) : (Entry.dir [] mtime).Tidy :=
  ⟨List.nodup_nil, fun _ member => absurd member List.not_mem_nil⟩

namespace VirtualDisk

def Tidy (disk : VirtualDisk) : Prop :=
  ∀ loc entry, disk.get? loc = some entry → entry.Tidy

variable {disk : VirtualDisk} {loc parent : Location}

theorem Tidy.set (tidy : disk.Tidy) (loc : Location) {entry : Entry} (own : entry.Tidy) :
    (disk.set loc entry).Tidy := by
  intro other found known
  rw [get?_set] at known
  split_ifs at known
  · cases known
    exact own
  · exact tidy other found known

theorem Tidy.linkChild (tidy : disk.Tidy) (clean : loc.Clean) (parent : Location) :
    (disk.linkChild parent loc).Tidy := by
  unfold VirtualDisk.linkChild
  split
  · rename_i children mtime name listed known
    split_ifs with old
    · exact tidy
    · obtain ⟨once, areNames⟩ := tidy parent _ listed
      refine tidy.set parent ⟨?_, ?_⟩
      · rw [← List.concat_eq_append]
        exact once.concat old
      · intro other member
        rcases List.mem_append.mp member with before | new
        · exact areNames other before
        · rw [List.mem_singleton.mp new]
          exact clean.isName known
  · exact tidy

theorem Tidy.unlinkChild (tidy : disk.Tidy) (parent loc : Location) :
    (disk.unlinkChild parent loc).Tidy := by
  unfold VirtualDisk.unlinkChild
  split
  · rename_i children mtime name listed known
    obtain ⟨once, areNames⟩ := tidy parent _ listed
    exact tidy.set parent ⟨once.filter _, fun other member =>
      areNames other (List.mem_of_mem_filter member)⟩
  · exact tidy

theorem Tidy.erase (tidy : disk.Tidy) (loc : Location) : (disk.erase loc).Tidy := by
  intro other found known
  rw [get?_erase] at known
  split_ifs at known
  exact tidy other found known

theorem Tidy.tick (tidy : disk.Tidy) : disk.tick.Tidy :=
  tidy

theorem Tidy.addDir (tidy : disk.Tidy) (loc : Location) : (disk.addDir loc).Tidy :=
  tidy.tick.set loc (Entry.tidy_empty _)

theorem Tidy.ensureDirAt (tidy : disk.Tidy) (rooted : Bool) {steps : List (List Char)}
    (clean : ∀ step ∈ steps, Path.isIdle step = false ∧ '/' ∉ step) :
    (ensureDirAt rooted steps disk).Tidy := by
  induction steps generalizing disk with
  | nil =>
      rw [VirtualDisk.ensureDirAt]
      split_ifs
      · exact tidy
      · exact tidy.addDir _
  | cons name above ih =>
      rw [ensureDirAt_cons]
      split_ifs
      · exact tidy
      · refine (ih (tidy.addDir _) fun step member => clean step (by simp [member])).linkChild ?_ _
        intro step member
        exact clean step (by simpa [or_comm] using member)

theorem Tidy.ensureDir (tidy : disk.Tidy) (clean : loc.Clean) : (disk.ensureDir loc).Tidy :=
  tidy.ensureDirAt loc.rooted fun step member => clean step (List.mem_reverse.mp member)

theorem Tidy.insertEntry (tidy : disk.Tidy) (clean : loc.Clean) {entry : Entry}
    (own : entry.Tidy) : (disk.insertEntry loc entry).Tidy := by
  have placed := tidy.set loc own
  unfold VirtualDisk.insertEntry
  dsimp only
  split
  · rename_i parent above
    split_ifs
    · exact placed
    · refine (placed.ensureDir ?_).linkChild clean _
      unfold Location.parent? at above
      split_ifs at above <;> cases above
      · exact nofun
      · exact fun step member => clean step (List.mem_of_mem_dropLast member)
  · exact placed

theorem Tidy.write (tidy : disk.Tidy) (path : Path) (content : List UInt8) :
    (disk.write path content).Tidy :=
  tidy.tick.insertEntry (Location.clean_ofPath path) trivial

theorem Tidy.touch (tidy : disk.Tidy) (path : Path) : (disk.touch path).Tidy := by
  have ticked := tidy.tick
  unfold VirtualDisk.touch
  dsimp only
  split
  · exact ticked.set _ trivial
  · rename_i children mtime listed
    have own : children.Nodup ∧ ∀ name ∈ children, Path.IsName name := ticked _ _ listed
    exact ticked.set _ own
  · exact ticked.tick.insertEntry (Location.clean_ofPath path) trivial

theorem Tidy.remove (tidy : disk.Tidy) (path : Path) : (disk.remove path).Tidy := by
  unfold VirtualDisk.remove
  dsimp only
  split
  · exact (tidy.erase _).unlinkChild _ _
  · exact tidy.erase _

theorem Tidy.addEach (tidy : disk.Tidy) (dir : Path) (names : List String) :
    (disk.addEach dir names).Tidy := by
  unfold VirtualDisk.addEach
  induction names generalizing disk with
  | nil => exact tidy
  | cons name rest ih => exact ih (tidy.write _ _)

theorem Tidy.apply (tidy : disk.Tidy) (step : DiskStep) : (disk.apply step).2.Tidy := by
  cases step with
  | add path content | write path content => exact tidy.write path content
  | touch path => exact tidy.touch path
  | remove path => exact tidy.remove path
  | addEach dir names => exact tidy.addEach dir names
  | removeFile path =>
      rcases removeFile_cases disk path with ⟨fault, kept, -⟩ | removed
      · simpa [VirtualDisk.apply, kept] using tidy
      · simpa [VirtualDisk.apply, removed] using tidy.remove path
  | createDirs path =>
      unfold VirtualDisk.apply VirtualDisk.createDirs
      dsimp only
      split
      · exact tidy
      · exact tidy
      · exact tidy.ensureDir (Location.clean_ofPath path)
  | symlink target link =>
      unfold VirtualDisk.apply VirtualDisk.symlink
      dsimp only
      split
      · exact tidy
      · exact tidy.insertEntry (Location.clean_ofPath link) trivial
  | read | list | glob =>
      rw [VirtualDisk.apply]
      split <;> exact tidy
  | inspect | listAll => exact tidy

theorem Made.tidy (made : disk.Made) : disk.Tidy := by
  obtain ⟨steps, rfl⟩ := made
  have start : new.Tidy := by
    intro loc entry known
    simp only [get?, new, List.lookup_cons, List.lookup_nil] at known
    split at known
    · cases known
      exact Entry.tidy_empty _
    · cases known
  unfold applyAll
  generalize new = before at start
  induction steps generalizing before with
  | nil => exact start
  | cons step rest ih => exact ih _ (start.apply step)

end VirtualDisk

end ArtifactPipeline
