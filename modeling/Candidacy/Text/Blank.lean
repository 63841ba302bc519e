/-!
White space in text: the Unicode property White_Space, and cutting it off at the ends.
-/

namespace Candidacy.Text

/-- The characters of the Unicode property White_Space. -/
def isBlank (c : Char) : Bool :=
  let n := c.toNat
  (0x09 ≤ n && n ≤ 0x0D) || n == 0x20 || n == 0x85 || n == 0xA0 || n == 0x1680 ||
    (0x2000 ≤ n && n ≤ 0x200A) || n == 0x2028 || n == 0x2029 || n == 0x202F ||
    n == 0x205F || n == 0x3000

def trimStart (cs : List Char) : List Char :=
  cs.dropWhile isBlank

def trimEnd (cs : List Char) : List Char :=
  (trimStart cs.reverse).reverse

/-- A text without the white space at both of its ends. -/
def trim (s : String) : String :=
  String.ofList (trimEnd (trimStart s.toList))

/-- Nothing but white space, or nothing at all. -/
def isBlankText (s : String) : Bool :=
  s.toList.all isBlank

/-! Cutting keeps what stands between the ends. -/

theorem trimStart_eq_nil_iff {cs : List Char} :
    trimStart cs = [] ↔ ∀ c ∈ cs, isBlank c = true := by
  induction cs with
  | nil => simp [trimStart]
  | cons c rest ih =>
      rw [List.forall_mem_cons]
      by_cases blank : isBlank c = true
      · rw [trimStart, List.dropWhile_cons_of_pos blank, ← trimStart, ih]
        exact (and_iff_right blank).symm
      · rw [trimStart, List.dropWhile_cons_of_neg blank]
        exact iff_of_false nofun fun all => blank all.1

@[simp] theorem trimStart_idem (cs : List Char) :
    trimStart (trimStart cs) = trimStart cs := by
  induction cs with
  | nil => rfl
  | cons c rest ih =>
      by_cases blank : isBlank c = true
      · simpa [trimStart, blank] using ih
      · simp [trimStart, blank]

theorem trimEnd_eq_nil_iff {cs : List Char} :
    trimEnd cs = [] ↔ ∀ c ∈ cs, isBlank c = true := by
  simp [trimEnd, trimStart_eq_nil_iff]

theorem trimStart_cons {c : Char} (solid : isBlank c = false) (rest : List Char) :
    trimStart (c :: rest) = c :: rest := by
  simp [trimStart, solid]

theorem trimEnd_cons {c : Char} (solid : isBlank c = false) (rest : List Char) :
    trimEnd (c :: rest) = c :: trimEnd rest := by
  rw [trimEnd, trimStart, List.reverse_cons, List.dropWhile_append]
  split
  · next blank =>
      have nothing : trimEnd rest = [] := by
        rw [trimEnd, trimStart, List.isEmpty_iff.mp blank, List.reverse_nil]
      simp [solid, nothing]
  · simp [trimEnd, trimStart]

@[simp] theorem trimEnd_idem (cs : List Char) : trimEnd (trimEnd cs) = trimEnd cs := by
  simp [trimEnd]

theorem trimStart_eq_nil_or (cs : List Char) :
    trimStart cs = [] ∨ ∃ c rest, trimStart cs = c :: rest ∧ isBlank c = false := by
  induction cs with
  | nil => exact .inl rfl
  | cons c rest ih =>
      cases blank : isBlank c with
      | true => simpa [trimStart, blank] using ih
      | false => exact .inr ⟨c, rest, trimStart_cons blank rest, blank⟩

@[simp] theorem trim_trim (s : String) : trim (trim s) = trim s := by
  have kept : trimStart (trimEnd (trimStart s.toList)) = trimEnd (trimStart s.toList) := by
    obtain nothing | ⟨c, rest, split, solid⟩ := trimStart_eq_nil_or s.toList
    · rw [nothing]
      rfl
    · rw [split, trimEnd_cons solid, trimStart_cons solid]
  simp [trim, kept]

theorem trim_eq_empty_iff {s : String} : trim s = "" ↔ isBlankText s = true := by
  have emptied : trim s = "" ↔ ∀ c ∈ trimStart s.toList, isBlank c = true := by
    simp [trim, trimEnd_eq_nil_iff]
  rw [emptied, isBlankText, List.all_eq_true]
  obtain nothing | ⟨c, rest, split, solid⟩ := trimStart_eq_nil_or s.toList
  · simpa [nothing] using trimStart_eq_nil_iff.mp nothing
  · have member : c ∈ s.toList := (List.dropWhile_sublist isBlank).subset (by
      rw [← trimStart, split]
      exact List.mem_cons_self)
    apply iff_of_false
    · intro blank
      simp [blank c (split ▸ List.mem_cons_self)] at solid
    · intro blank
      simp [blank c member] at solid

end Candidacy.Text
