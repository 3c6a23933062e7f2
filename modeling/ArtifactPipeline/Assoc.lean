set_option autoImplicit false

namespace ArtifactPipeline.Assoc

variable {κ ν : Type} [DecidableEq κ]

def set (key : κ) (value : ν) : List (κ × ν) → List (κ × ν)
  | [] => [(key, value)]
  | (other, current) :: rest =>
      if other = key then (key, value) :: rest else (other, current) :: set key value rest

def erase (key : κ) : List (κ × ν) → List (κ × ν)
  | [] => []
  | (other, value) :: rest =>
      if other = key then erase key rest else (other, value) :: erase key rest

theorem lookup_set (key other : κ) (value : ν) (entries : List (κ × ν)) :
    (set key value entries).lookup other =
      if other = key then some value else entries.lookup other := by
  induction entries with
  | nil =>
      by_cases h : other = key
      · simp [set, h]
      · simp [set, List.lookup_cons, beq_eq_false_iff_ne.2 h, h]
  | cons entry rest ih =>
      obtain ⟨first, current⟩ := entry
      rw [set]
      split
      · rename_i same
        subst same
        by_cases h : other = first
        · simp [h]
        · simp [List.lookup_cons, beq_eq_false_iff_ne.2 h, h]
      · rename_i different
        by_cases h : other = first
        · subst h
          simp [different]
        · simp [List.lookup_cons, beq_eq_false_iff_ne.2 h, ih]

theorem lookup_erase (key other : κ) (entries : List (κ × ν)) :
    (erase key entries).lookup other = if other = key then none else entries.lookup other := by
  induction entries with
  | nil => simp [erase]
  | cons entry rest ih =>
      obtain ⟨first, current⟩ := entry
      rw [erase]
      split
      · rename_i same
        subst same
        rw [ih]
        by_cases h : other = first
        · rw [if_pos h, if_pos h]
        · simp [List.lookup_cons, beq_eq_false_iff_ne.2 h]
      · rename_i different
        by_cases h : other = first
        · subst h
          simp [different]
        · simp [List.lookup_cons, beq_eq_false_iff_ne.2 h, ih]

end ArtifactPipeline.Assoc
