/-!
Finite sets of names, in the order of their characters.
-/

namespace Candidacy

/-- A set of names. -/
structure NameSet where
  names : List String
  sorted : names.Pairwise (· < ·)
deriving DecidableEq

namespace NameSet

private def insertName (name : String) : List String → List String
  | [] => [name]
  | first :: rest =>
      if name < first then name :: first :: rest
      else if name = first then first :: rest
      else first :: insertName name rest

private theorem mem_insertName {name other : String} {names : List String} :
    other ∈ insertName name names ↔ other = name ∨ other ∈ names := by
  induction names with
  | nil => simp [insertName]
  | cons first rest ih =>
      unfold insertName
      split
      · simp
      · split
        · next _ same => subst same; simp
        · simp only [List.mem_cons, ih]
          constructor
          · rintro (found | found | found) <;> simp [found]
          · rintro (found | found | found) <;> simp [found]

private theorem sorted_insertName (name : String) {names : List String}
    (sorted : names.Pairwise (· < ·)) : (insertName name names).Pairwise (· < ·) := by
  induction names with
  | nil => simp [insertName]
  | cons first rest ih =>
      have tail := List.pairwise_cons.mp sorted
      unfold insertName
      split
      · next less =>
          refine List.pairwise_cons.mpr ⟨fun other member => ?_, sorted⟩
          rcases List.mem_cons.mp member with rfl | member
          · exact less
          · exact String.lt_trans less (tail.1 other member)
      · split
        · exact sorted
        · next less different =>
            refine List.pairwise_cons.mpr ⟨fun other member => ?_, ih tail.2⟩
            rcases mem_insertName.mp member with rfl | member
            · exact Std.lt_of_le_of_ne (String.not_lt.mp less) (Ne.symm different)
            · exact tail.1 other member

def empty : NameSet := ⟨[], List.Pairwise.nil⟩

def insert (set : NameSet) (name : String) : NameSet :=
  ⟨insertName name set.names, sorted_insertName name set.sorted⟩

def ofList (names : List String) : NameSet :=
  names.foldl insert empty

/-- The names that meet a condition. -/
def filter (set : NameSet) (p : String → Bool) : NameSet :=
  ⟨set.names.filter p, set.sorted.filter p⟩

def isEmpty (set : NameSet) : Bool :=
  set.names.isEmpty

instance : Membership String NameSet where
  mem set name := name ∈ set.names

@[simp] theorem mem_names {set : NameSet} {name : String} : name ∈ set.names ↔ name ∈ set :=
  Iff.rfl

@[simp] theorem not_mem_empty (name : String) : ¬name ∈ empty :=
  List.not_mem_nil

@[simp] theorem mem_insert {set : NameSet} {name other : String} :
    other ∈ set.insert name ↔ other = name ∨ other ∈ set :=
  mem_insertName

@[simp] theorem mem_filter {set : NameSet} {p : String → Bool} {name : String} :
    name ∈ set.filter p ↔ name ∈ set ∧ p name = true :=
  List.mem_filter

theorem isEmpty_iff {set : NameSet} : set.isEmpty = true ↔ ∀ name, ¬name ∈ set := by
  simp only [isEmpty, List.isEmpty_iff, List.eq_nil_iff_forall_not_mem]
  rfl

theorem eq_of_mem_iff {set other : NameSet} (same : ∀ name, name ∈ set ↔ name ∈ other) :
    set = other := by
  have nodup (set : NameSet) : set.names.Nodup := by
    apply set.sorted.imp
    intro first second less same
    exact String.lt_irrefl _ (same ▸ less)
  have perm : set.names.Perm other.names :=
    (List.perm_ext_iff_of_nodup (nodup set) (nodup other)).mpr same
  have names : set.names = other.names := by
    apply perm.eq_of_pairwise _ set.sorted other.sorted
    intro first second _ _ less greater
    exact absurd (String.lt_trans less greater) (String.lt_irrefl _)
  cases set
  cases other
  cases names
  rfl

@[simp] theorem mem_ofList {names : List String} {name : String} :
    name ∈ ofList names ↔ name ∈ names := by
  suffices general : ∀ set : NameSet, name ∈ names.foldl insert set ↔ name ∈ set ∨ name ∈ names by
    simpa [ofList] using general empty
  induction names with
  | nil => simp
  | cons first rest ih =>
      intro set
      rw [List.foldl_cons, ih, mem_insert, List.mem_cons]
      constructor
      · rintro ((found | found) | found) <;> simp [found]
      · rintro (found | found | found) <;> simp [found]

end NameSet

end Candidacy
