import Candidacy.Proofs.Comparison

/-!
Values read again. An ordered value is read as itself wherever there is room for its depth.
-/

namespace Candidacy

namespace Keyed

variable {α : Type u}

theorem insert_last {entries : Keyed α} {key : String} (last : ∀ entry ∈ entries, entry.1 < key)
    (value : α) : insert key value entries = entries ++ [(key, value)] := by
  induction entries with
  | nil => rfl
  | cons first rest ih =>
      rw [List.forall_mem_cons] at last
      have behind : ¬key < first.1 := fun before => String.lt_irrefl _ (String.lt_trans last.1 before)
      have other : key ≠ first.1 := fun same => String.lt_irrefl key (by simpa [same] using last.1)
      rw [insert, if_neg behind, if_neg other, ih last.2, List.cons_append]

/-- Entries that are sorted already stay as they are. -/
theorem Sorted.ofList_eq {entries : Keyed α} (sorted : entries.Sorted) :
    ofList entries = entries := by
  suffices grown : ∀ (rest front : Keyed α), (front ++ rest).Sorted →
      rest.foldl (fun sorted entry => insert entry.1 entry.2 sorted) front = front ++ rest from
    grown entries [] sorted
  intro rest
  induction rest with
  | nil => exact fun front _ => (List.append_nil front).symm
  | cons entry rest ih =>
      intro front sorted
      have last : ∀ earlier ∈ front, earlier.1 < entry.1 := fun earlier member =>
        (List.pairwise_append.mp sorted).2.2 earlier member entry List.mem_cons_self
      rw [List.foldl_cons, insert_last last, ih _ (by simpa using sorted), List.append_assoc,
        List.singleton_append]

end Keyed

namespace Json

/-! Depth. -/

mutual
/-- How many arrays and objects stand inside one another. -/
def Value.depth : Value → Nat
  | .null | .bool _ | .number _ | .string _ => 0
  | .array items => itemsDepth items + 1
  | .object members => membersDepth members + 1

def itemsDepth : List Value → Nat
  | [] => 0
  | v :: rest => max v.depth (itemsDepth rest)

def membersDepth : List (String × Value) → Nat
  | [] => 0
  | (_, v) :: rest => max v.depth (membersDepth rest)
end

theorem depth_le_itemsDepth {items : List Value} :
    ∀ item ∈ items, item.depth ≤ itemsDepth items := by
  induction items with
  | nil => exact List.forall_mem_nil _
  | cons first rest ih =>
      rw [List.forall_mem_cons, itemsDepth]
      exact ⟨Nat.le_max_left _ _, fun item member => (ih item member).trans (Nat.le_max_right _ _)⟩

theorem depth_le_membersDepth {members : List (String × Value)} :
    ∀ member ∈ members, member.2.depth ≤ membersDepth members := by
  induction members with
  | nil => exact List.forall_mem_nil _
  | cons first rest ih =>
      rw [List.forall_mem_cons, membersDepth]
      exact ⟨Nat.le_max_left _ _, fun member inside =>
        (ih member inside).trans (Nat.le_max_right _ _)⟩

/-- There is room for so many arrays and objects inside one another. -/
def Source.HasRoom (depth : Nat) : Source → Prop
  | .text room => depth ≤ room
  | .value => True

theorem Source.HasRoom.mono {source : Source} {depth less : Nat} (room : source.HasRoom depth)
    (fits : less ≤ depth) : source.HasRoom less := by
  cases source with
  | text => exact fits.trans room
  | value => exact trivial

theorem Source.HasRoom.enter {source : Source} {depth : Nat} (room : source.HasRoom (depth + 1)) :
    ∃ inner, source.enter = .ok inner ∧ inner.HasRoom depth := by
  match source, room with
  | .value, _ => exact ⟨.value, rfl, trivial⟩
  | .text (rest + 1), room => exact ⟨.text rest, rfl, Nat.le_of_succ_le_succ room⟩

/-! Reading. -/

namespace Document

theorem readItems_ofItems {source : Source} {items : List Value}
    (kept : ∀ item ∈ items, readValue source (ofValue item) = .ok item) :
    readItems source (ofItems items) = .ok items := by
  induction items with
  | nil => rfl
  | cons item rest ih =>
      rw [List.forall_mem_cons] at kept
      rw [ofItems, readItems, kept.1, ih kept.2]
      rfl

theorem readMembers_ofMembers {source : Source} {members : List (String × Value)}
    (kept : ∀ member ∈ members, readValue source (ofValue member.2) = .ok member.2) :
    readMembers source (ofMembers members) = .ok members := by
  induction members with
  | nil => rfl
  | cons member rest ih =>
      rw [List.forall_mem_cons] at kept
      rw [ofMembers, readMembers, kept.1, ih kept.2]
      rfl

theorem readValue_ofValue {v : Value} (ordered : v.IsOrdered) {source : Source}
    (room : source.HasRoom v.depth) : readValue source (ofValue v) = .ok v := by
  induction v using Value.nested generalizing source with
  | null => rfl
  | bool b => rfl
  | number n => rfl
  | string s => rfl
  | array items ih =>
      cases ordered with
      | array each =>
      obtain ⟨inner, enters, innerRoom⟩ := Source.HasRoom.enter room
      have kept := readItems_ofItems fun item member =>
        ih item member (each item member) (innerRoom.mono (depth_le_itemsDepth item member))
      rw [ofValue, readValue, enters, ok_bind, kept]
      rfl
  | object members ih =>
      cases ordered with
      | object sorted each =>
      obtain ⟨inner, enters, innerRoom⟩ := Source.HasRoom.enter room
      have kept := readMembers_ofMembers fun member inside =>
        ih member inside (each member inside) (innerRoom.mono (depth_le_membersDepth member inside))
      rw [ofValue, readValue, enters, ok_bind, kept, ok_bind, readEnding, ok_bind, sorted.ofList_eq]
      rfl

/-- As an object an ordered one is read too. -/
theorem readObject_ofValue {members : Members} (ordered : (Value.object members).IsOrdered)
    {source : Source} (room : source.HasRoom (Value.object members).depth) :
    readObject source (ofValue (.object members)) = .ok members := by
  obtain ⟨inner, enters, whole⟩ := bind_eq_ok_iff.mp (readValue_ofValue ordered room)
  obtain ⟨found, kept, whole⟩ := bind_eq_ok_iff.mp whole
  obtain ⟨_, _, whole⟩ := bind_eq_ok_iff.mp whole
  have same : Keyed.ofList found = members := Value.object.inj (Except.ok.inj whole)
  rw [ofValue, readObject, enters, ok_bind, kept, ok_bind, same]
  rfl

end Document

end Json

end Candidacy
