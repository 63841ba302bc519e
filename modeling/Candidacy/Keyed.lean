/-!
Entries in the order of their text keys, and finite maps kept that way. `get?` is the view: what an
operation does to a map is said by what can be looked up afterwards.
-/

namespace Candidacy

/-- Entries with text keys. -/
abbrev Keyed (α : Type u) := List (String × α)

namespace Keyed

variable {α : Type u}

def get? (entries : Keyed α) (key : String) : Option α :=
  (entries.find? (·.1 = key)).map (·.2)

def contains (entries : Keyed α) (key : String) : Bool :=
  (entries.get? key).isSome

/-- Puts an entry in its place in the order of keys; an entry of that key is replaced. -/
def insert (key : String) (value : α) : Keyed α → Keyed α
  | [] => [(key, value)]
  | (k, v) :: rest =>
      if key < k then (key, value) :: (k, v) :: rest
      else if key = k then (key, value) :: rest
      else (k, v) :: insert key value rest

/-- Sorted by key; of equal keys the last one counts. -/
def ofList (entries : List (String × α)) : Keyed α :=
  entries.foldl (fun sorted entry => insert entry.1 entry.2 sorted) []

def Sorted (entries : Keyed α) : Prop :=
  entries.Pairwise (·.1 < ·.1)

/-! Looking up. -/

@[simp] theorem get?_nil (key : String) : get? ([] : Keyed α) key = none := rfl

theorem get?_cons (k : String) (v : α) (rest : Keyed α) (key : String) :
    get? ((k, v) :: rest) key = if k = key then some v else get? rest key := by
  by_cases same : k = key <;> simp [get?, same]

@[simp] theorem get?_insert_self (key : String) (value : α) (entries : Keyed α) :
    (insert key value entries).get? key = some value := by
  induction entries with
  | nil => simp [insert, get?_cons]
  | cons entry rest ih =>
      obtain ⟨k, v⟩ := entry
      unfold insert
      split
      · simp [get?_cons]
      · split
        · simp [get?_cons]
        · next _ different => simp [get?_cons, Ne.symm different, ih]

theorem get?_insert_other {key other : String} (different : key ≠ other) (value : α)
    (entries : Keyed α) : (insert key value entries).get? other = entries.get? other := by
  induction entries with
  | nil => simp [insert, get?_cons, different]
  | cons entry rest ih =>
      obtain ⟨k, v⟩ := entry
      unfold insert
      split
      · simp [get?_cons, different]
      · split
        · next _ same => subst same; simp [get?_cons, different]
        · simp [get?_cons, ih]

theorem get?_insert (key : String) (value : α) (entries : Keyed α) (other : String) :
    (insert key value entries).get? other =
      if key = other then some value else entries.get? other := by
  by_cases same : key = other
  · subst same; simp
  · simp [same, get?_insert_other same]

theorem mem_of_get? {entries : Keyed α} {key : String} {value : α}
    (found : entries.get? key = some value) : (key, value) ∈ entries := by
  induction entries with
  | nil => simp at found
  | cons entry rest ih =>
      obtain ⟨k, v⟩ := entry
      rw [get?_cons] at found
      split at found
      · next same => simp_all
      · exact List.mem_cons_of_mem _ (ih found)

/-! Order. -/

theorem mem_insert {key : String} {value : α} {entries : Keyed α} {entry : String × α}
    (member : entry ∈ insert key value entries) : entry = (key, value) ∨ entry ∈ entries := by
  induction entries with
  | nil => simpa [insert] using member
  | cons first rest ih =>
      obtain ⟨k, v⟩ := first
      unfold insert at member
      split at member
      · simpa using member
      · split at member
        · simp only [List.mem_cons] at member ⊢
          exact member.imp_right .inr
        · simp only [List.mem_cons] at member ⊢
          rcases member with member | member
          · exact .inr (.inl member)
          · exact (ih member).imp_right .inr

theorem sorted_insert (key : String) (value : α) {entries : Keyed α} (sorted : entries.Sorted) :
    (insert key value entries).Sorted := by
  induction entries with
  | nil => simp [insert, Sorted]
  | cons first rest ih =>
      obtain ⟨k, v⟩ := first
      have tail := List.pairwise_cons.mp sorted
      unfold insert
      split
      · next less =>
          refine List.pairwise_cons.mpr ⟨fun entry member => ?_, sorted⟩
          rcases List.mem_cons.mp member with rfl | member
          · exact less
          · exact String.lt_trans less (tail.1 entry member)
      · split
        · next _ same =>
            subst same
            exact List.pairwise_cons.mpr ⟨tail.1, tail.2⟩
        · next less different =>
            refine List.pairwise_cons.mpr ⟨fun entry member => ?_, ih tail.2⟩
            rcases mem_insert member with rfl | member
            · exact Std.lt_of_le_of_ne (String.not_lt.mp less) (Ne.symm different)
            · exact tail.1 entry member

theorem get?_of_mem {entries : Keyed α} (sorted : entries.Sorted) {key : String} {value : α}
    (member : (key, value) ∈ entries) : entries.get? key = some value := by
  induction entries with
  | nil => simp at member
  | cons first rest ih =>
      obtain ⟨k, v⟩ := first
      have tail := List.pairwise_cons.mp sorted
      rw [get?_cons]
      rcases List.mem_cons.mp member with same | member
      · simp_all
      · have different : k ≠ key := fun same => String.lt_irrefl key (same ▸ tail.1 _ member)
        simp [different, ih tail.2 member]

theorem sorted_ofList (entries : List (String × α)) : (ofList entries).Sorted := by
  suffices kept : ∀ sorted : Keyed α, sorted.Sorted →
      (entries.foldl (fun sorted entry => insert entry.1 entry.2 sorted) sorted).Sorted from
    kept [] List.Pairwise.nil
  induction entries with
  | nil => exact fun _ kept => kept
  | cons entry rest ih => exact fun sorted kept => ih _ (sorted_insert _ _ kept)

end Keyed

/-- A finite map with text keys. -/
structure Table (α : Type u) where
  entries : Keyed α
  sorted : entries.Sorted

namespace Table

variable {α : Type u}

def empty : Table α := ⟨[], List.Pairwise.nil⟩

def get? (table : Table α) (key : String) : Option α :=
  table.entries.get? key

def contains (table : Table α) (key : String) : Bool :=
  table.entries.contains key

def insert (table : Table α) (key : String) (value : α) : Table α :=
  ⟨Keyed.insert key value table.entries, Keyed.sorted_insert key value table.sorted⟩

def keys (table : Table α) : List String :=
  table.entries.map (·.1)

def values (table : Table α) : List α :=
  table.entries.map (·.2)

def size (table : Table α) : Nat :=
  table.entries.length

@[simp] theorem get?_empty (key : String) : (empty : Table α).get? key = none := rfl

@[simp] theorem get?_insert_self (table : Table α) (key : String) (value : α) :
    (table.insert key value).get? key = some value :=
  Keyed.get?_insert_self key value table.entries

theorem get?_insert_other (table : Table α) {key other : String} (different : key ≠ other)
    (value : α) : (table.insert key value).get? other = table.get? other :=
  Keyed.get?_insert_other different value table.entries

theorem get?_insert (table : Table α) (key other : String) (value : α) :
    (table.insert key value).get? other = if key = other then some value else table.get? other :=
  Keyed.get?_insert key value table.entries other

theorem contains_eq_isSome (table : Table α) (key : String) :
    table.contains key = (table.get? key).isSome := rfl

theorem mem_entries_iff (table : Table α) (key : String) (value : α) :
    (key, value) ∈ table.entries ↔ table.get? key = some value :=
  ⟨Keyed.get?_of_mem table.sorted, Keyed.mem_of_get?⟩

theorem keys_nodup (table : Table α) : table.keys.Nodup := by
  refine List.pairwise_map.mpr (table.sorted.imp ?_)
  intro first second less same
  exact String.lt_irrefl _ (same ▸ less)

end Table

end Candidacy
