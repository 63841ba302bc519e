import Candidacy.Text.Blank
import Candidacy.Text.Lowercase
import Mathlib.Data.List.Forall2

/-!
Lower case as a normal form. No capital and no white space comes out of lowering, so a text that was
cut and lowered stays as it is when this is done again. The case of an ASCII letter is lost: it
changes neither the lower case of the letter nor that of a sigma beside it.
-/

namespace Candidacy.Text

/-! Runs of capitals and of what they are lowered to. -/

namespace CapitalRun

variable {run other : CapitalRun} {n : Nat}

def last (run : CapitalRun) : Nat :=
  run.first + (run.count - 1) * run.step

/-- The run of what the members of a run are lowered to. -/
def lowered (run : CapitalRun) : CapitalRun :=
  { run with first := (run.first + run.shift).toNat }

/-- One run ends before the other begins, or its members lie between those of the other. -/
def avoids (run other : CapitalRun) : Bool :=
  Nat.blt run.last other.first || Nat.blt other.last run.first ||
    ((run.count == 1 || run.step % other.step == 0) &&
      run.first % other.step != other.first % other.step)

theorem exists_of_covers (covered : run.covers n = true) :
    ∃ k < run.count, n = run.first + k * run.step := by
  simp only [covers, Bool.and_eq_true, decide_eq_true_eq, beq_iff_eq] at covered
  obtain ⟨⟨low, high⟩, whole⟩ := covered
  have exact : (n - run.first) / run.step * run.step = n - run.first :=
    Nat.div_mul_cancel (Nat.dvd_of_mod_eq_zero whole)
  refine ⟨(n - run.first) / run.step, ?_, by omega⟩
  apply Nat.div_lt_of_lt_mul
  rw [Nat.mul_comm]
  omega

theorem le_last {k : Nat} (inside : k < run.count) : run.first + k * run.step ≤ run.last :=
  Nat.add_le_add_left (Nat.mul_le_mul_right run.step (Nat.le_sub_one_of_lt inside)) run.first

theorem not_covers_of_avoids (apart : run.avoids other = true) {k : Nat} (inside : k < run.count) :
    other.covers (run.first + k * run.step) = false := by
  rw [Bool.eq_false_iff]
  intro covered
  obtain ⟨j, insideToo, same⟩ := exists_of_covers covered
  have below := le_last inside
  have belowToo := le_last insideToo
  simp only [avoids, Bool.or_eq_true, Bool.and_eq_true, Nat.blt_eq, beq_iff_eq, bne_iff_ne] at apart
  obtain (before | behind) | ⟨inStep, different⟩ := apart
  · omega
  · omega
  · apply different
    have remainder : (run.first + k * run.step) % other.step = run.first % other.step := by
      cases inStep with
      | inl single =>
          have zero : k = 0 := by omega
          rw [zero, Nat.zero_mul, Nat.add_zero]
      | inr multiple =>
          rw [Nat.add_mod, Nat.mul_mod, multiple, Nat.mul_zero, Nat.zero_mod, Nat.add_zero,
            Nat.mod_mod]
    rw [← remainder, same, Nat.add_mul_mod_self_right]

end CapitalRun

def blankRuns : List CapitalRun := [
  ⟨0x09, 5, 1, 0⟩, ⟨0x20, 1, 1, 0⟩, ⟨0x85, 1, 1, 0⟩, ⟨0xA0, 1, 1, 0⟩, ⟨0x1680, 1, 1, 0⟩,
  ⟨0x2000, 11, 1, 0⟩, ⟨0x2028, 2, 1, 0⟩, ⟨0x202F, 1, 1, 0⟩, ⟨0x205F, 1, 1, 0⟩, ⟨0x3000, 1, 1, 0⟩]

/-- What no capital is lowered to: the dotted I, the other capitals, and white space. -/
def unreached : List CapitalRun :=
  ⟨0x130, 1, 1, 0⟩ :: (capitalRuns ++ blankRuns)

theorem lowered_avoids :
    ∀ run ∈ capitalRuns, ∀ other ∈ unreached, run.lowered.avoids other = true := by
  have all : (capitalRuns.all fun run => unreached.all run.lowered.avoids) = true := by
    decide +kernel
  simpa only [List.all_eq_true] using all

theorem shift_nonneg : ∀ run ∈ capitalRuns, 0 ≤ (run.first : Int) + run.shift := by
  decide +kernel

theorem covers_zero : ∀ run ∈ unreached, run.covers 0 = false := by
  decide +kernel

theorem exists_of_isBlank {c : Char} (blank : isBlank c = true) :
    ∃ run ∈ blankRuns, run.covers c.toNat = true := by
  simp only [isBlank, Bool.or_eq_true, Bool.and_eq_true, decide_eq_true_eq, beq_iff_eq] at blank
  simp only [blankRuns, CapitalRun.covers, List.exists_mem_cons_iff, Nat.mod_one, Bool.and_eq_true,
    decide_eq_true_eq, beq_self_eq_true, and_true]
  omega

/-! Characters that come out of lowering. -/

/-- Lowered once more, the character stays as it is. -/
structure IsSettled (c : Char) : Prop where
  noSigma : c ≠ 'Σ'
  lowerChar_eq : lowerChar c = [c]

theorem lowerChar_of_uncovered {c : Char} (noDot : c ≠ '\u0130')
    (free : ∀ run ∈ capitalRuns, run.covers c.toNat = false) : lowerChar c = [c] := by
  have nothing : capitalRuns.find? (·.covers c.toNat) = none := by
    rw [List.find?_eq_none]
    intro run member covered
    rw [free run member] at covered
    cases covered
  rw [lowerChar, if_neg noDot, nothing]

theorem isSettled_of_unreached {c : Char}
    (free : ∀ run ∈ unreached, run.covers c.toNat = false) : IsSettled c ∧ isBlank c = false := by
  simp only [unreached, List.forall_mem_cons, List.forall_mem_append] at free
  obtain ⟨noDot, noCapital, noBlank⟩ := free
  refine ⟨⟨?_, lowerChar_of_uncovered ?_ noCapital⟩, ?_⟩
  · rintro rfl
    have capital : ∃ run ∈ capitalRuns, run.covers 'Σ'.toNat = true := by decide +kernel
    obtain ⟨run, member, covered⟩ := capital
    rw [noCapital run member] at covered
    cases covered
  · rintro rfl
    exact absurd noDot (by decide)
  · rw [Bool.eq_false_iff]
    intro blank
    obtain ⟨run, member, covered⟩ := exists_of_isBlank blank
    rw [noBlank run member] at covered
    cases covered

/-- What is no code point stands for the character zero. -/
theorem toNat_ofNat_or (n : Nat) : (Char.ofNat n).toNat = n ∨ (Char.ofNat n).toNat = 0 := by
  by_cases valid : n.isValidChar
  · exact .inl (congrArg Char.toNat (dif_pos valid))
  · exact .inr (congrArg Char.toNat (dif_neg valid))

theorem free_of_lowered {run : CapitalRun} (isRun : run ∈ capitalRuns) {n : Nat}
    (covered : run.covers n = true) :
    ∀ other ∈ unreached, other.covers (Char.ofNat (n + run.shift).toNat).toNat = false := by
  intro other member
  obtain ⟨k, inside, rfl⟩ := CapitalRun.exists_of_covers covered
  have start := shift_nonneg run isRun
  have place : ((run.first + k * run.step : Nat) + run.shift).toNat =
      run.lowered.first + k * run.lowered.step := by
    change _ = ((run.first : Int) + run.shift).toNat + k * run.step
    push_cast
    omega
  rw [place]
  obtain same | zero := toNat_ofNat_or (run.lowered.first + k * run.lowered.step)
  · rw [same]
    exact CapitalRun.not_covers_of_avoids (lowered_avoids run isRun other member) inside
  · rw [zero]
    exact covers_zero other member

/-- Lowering leaves a character, or leads to characters that are neither capitals nor white space. -/
theorem lowerChar_cases (c : Char) :
    lowerChar c = [c] ∨ lowerChar c ≠ [] ∧ ∀ d ∈ lowerChar c, IsSettled d ∧ isBlank d = false := by
  by_cases dotted : c = '\u0130'
  · subst dotted
    right
    have parts : lowerChar '\u0130' = ['i', '\u0307'] := rfl
    rw [parts, List.forall_mem_cons, List.forall_mem_singleton]
    exact ⟨List.cons_ne_nil _ _, isSettled_of_unreached (by decide +kernel),
      isSettled_of_unreached (by decide +kernel)⟩
  · cases found : capitalRuns.find? (·.covers c.toNat) with
    | none =>
        left
        rw [lowerChar, if_neg dotted, found]
    | some run =>
        right
        have isRun := List.mem_of_find?_eq_some found
        have covered := List.find?_some found
        rw [lowerChar, if_neg dotted, found]
        refine ⟨List.cons_ne_nil _ _, List.forall_mem_singleton.mpr ?_⟩
        exact isSettled_of_unreached (free_of_lowered isRun covered)

/-- The characters that stand for a character of a text are settled, and blank only if it is. -/
theorem lowerAfter_cons (before : List Char) (c : Char) (rest : List Char) :
    ∃ piece, piece ≠ [] ∧
      (∀ d ∈ piece, IsSettled d ∧ (isBlank c = false → isBlank d = false)) ∧
      lowerAfter before (c :: rest) = piece ++ lowerAfter (c :: before) rest := by
  rw [lowerAfter]
  split
  · next sigma =>
      -- Both small sigmas are settled, so the place in the word does not matter.
      have small := isSettled_of_unreached (c := 'σ') (by decide +kernel)
      have final := isSettled_of_unreached (c := 'ς') (by decide +kernel)
      split
      · exact ⟨_, List.cons_ne_nil _ _,
          List.forall_mem_singleton.mpr ⟨final.1, fun _ => final.2⟩, rfl⟩
      · exact ⟨_, List.cons_ne_nil _ _,
          List.forall_mem_singleton.mpr ⟨small.1, fun _ => small.2⟩, rfl⟩
  · next noSigma =>
      refine ⟨lowerChar c, ?_, ?_, rfl⟩
      · obtain same | ⟨notEmpty, _⟩ := lowerChar_cases c
        · rw [same]
          exact List.cons_ne_nil _ _
        · exact notEmpty
      · intro d member
        obtain same | ⟨_, settled⟩ := lowerChar_cases c
        · rw [same, List.mem_singleton] at member
          subst member
          exact ⟨⟨noSigma, same⟩, id⟩
        · exact ⟨(settled d member).1, fun _ => (settled d member).2⟩

theorem isSettled_of_mem_lowerAfter {before cs : List Char} {d : Char}
    (member : d ∈ lowerAfter before cs) : IsSettled d := by
  induction cs generalizing before with
  | nil => cases member
  | cons c rest ih =>
      obtain ⟨piece, _, settled, split⟩ := lowerAfter_cons before c rest
      rw [split, List.mem_append] at member
      cases member with
      | inl first => exact (settled d first).1
      | inr later => exact ih later

theorem lowerAfter_of_settled {before cs : List Char} (settled : ∀ c ∈ cs, IsSettled c) :
    lowerAfter before cs = cs := by
  induction cs generalizing before with
  | nil => rfl
  | cons c rest ih =>
      rw [List.forall_mem_cons] at settled
      rw [lowerAfter, if_neg settled.1.noSigma, settled.1.lowerChar_eq, ih settled.2]
      rfl

@[simp] theorem lower_lower (s : String) : lower (lower s) = lower s := by
  have settled : ∀ c ∈ (lower s).toList, IsSettled c := by
    intro c member
    rw [lower, String.toList_ofList] at member
    exact isSettled_of_mem_lowerAfter member
  rw [lower, lowerAfter_of_settled settled, String.ofList_toList]

/-! Texts without white space at their ends. -/

structure IsCut (cs : List Char) : Prop where
  start : ∀ c ∈ cs.head?, isBlank c = false
  stop : ∀ c ∈ cs.getLast?, isBlank c = false

theorem trimStart_of_solid {cs : List Char} (start : ∀ c ∈ cs.head?, isBlank c = false) :
    trimStart cs = cs := by
  cases cs with
  | nil => rfl
  | cons c rest => exact trimStart_cons (start c rfl) rest

theorem head?_trimStart {cs : List Char} : ∀ c ∈ (trimStart cs).head?, isBlank c = false := by
  intro c first
  obtain nothing | ⟨d, rest, split, solid⟩ := trimStart_eq_nil_or cs
  · rw [nothing] at first
    cases first
  · rw [split, List.head?_cons, Option.mem_some] at first
    exact first ▸ solid

theorem trim_of_isCut {s : String} (cut : IsCut s.toList) : trim s = s := by
  have stop : trimStart s.toList.reverse = s.toList.reverse := by
    apply trimStart_of_solid
    rw [List.head?_reverse]
    exact cut.stop
  rw [trim, trimStart_of_solid cut.start, trimEnd, stop, List.reverse_reverse, String.ofList_toList]

theorem isCut_trim (s : String) : IsCut (trim s).toList := by
  rw [trim, String.toList_ofList]
  constructor
  · obtain nothing | ⟨c, rest, split, solid⟩ := trimStart_eq_nil_or s.toList
    · rw [nothing]
      intro d first
      cases first
    · rw [split, trimEnd_cons solid]
      intro d first
      rw [List.head?_cons, Option.mem_some] at first
      exact first ▸ solid
  · rw [trimEnd, List.getLast?_reverse]
    exact head?_trimStart

theorem isBlank_head?_lowerAfter {before cs : List Char}
    (start : ∀ c ∈ cs.head?, isBlank c = false) :
    ∀ d ∈ (lowerAfter before cs).head?, isBlank d = false := by
  cases cs with
  | nil => exact nofun
  | cons c rest =>
      obtain ⟨piece, notEmpty, settled, split⟩ := lowerAfter_cons before c rest
      intro d first
      rw [split, List.head?_append_of_ne_nil _ notEmpty] at first
      exact (settled d (List.mem_of_mem_head? first)).2 (start c rfl)

theorem isBlank_getLast?_lowerAfter {before cs : List Char}
    (stop : ∀ c ∈ cs.getLast?, isBlank c = false) :
    ∀ d ∈ (lowerAfter before cs).getLast?, isBlank d = false := by
  induction cs generalizing before with
  | nil => exact nofun
  | cons c rest ih =>
      obtain ⟨piece, notEmpty, settled, split⟩ := lowerAfter_cons before c rest
      intro d last
      rw [split] at last
      cases rest with
      | nil =>
          rw [lowerAfter_nil, List.append_nil] at last
          exact (settled d (List.mem_of_getLast? last)).2 (stop c rfl)
      | cons next others =>
          obtain ⟨front, frontNotEmpty, _, behind⟩ := lowerAfter_cons (c :: before) next others
          have notNil : lowerAfter (c :: before) (next :: others) ≠ [] := by
            rw [behind]
            exact List.append_ne_nil_of_left_ne_nil frontNotEmpty _
          rw [List.getLast?_append_of_ne_nil _ notNil] at last
          exact ih (by rwa [List.getLast?_cons_cons] at stop) d last

theorem IsCut.lower {s : String} (cut : IsCut s.toList) : IsCut (Text.lower s).toList := by
  rw [Text.lower, String.toList_ofList]
  exact ⟨isBlank_head?_lowerAfter cut.start, isBlank_getLast?_lowerAfter cut.stop⟩

@[simp] theorem trim_lower_trim (s : String) : trim (lower (trim s)) = lower (trim s) :=
  trim_of_isCut (isCut_trim s).lower

/-! White space around a text. -/

/-- White space was added at the ends. -/
def IsPadded (s padded : String) : Prop :=
  ∃ front back, (∀ c ∈ front, isBlank c = true) ∧ (∀ c ∈ back, isBlank c = true) ∧
    padded.toList = front ++ s.toList ++ back

theorem trimStart_append_of_blank {front : List Char} (blank : ∀ c ∈ front, isBlank c = true)
    (cs : List Char) : trimStart (front ++ cs) = trimStart cs :=
  List.dropWhile_append_of_pos blank

theorem trimEnd_append_of_blank {back : List Char} (blank : ∀ c ∈ back, isBlank c = true)
    (cs : List Char) : trimEnd (cs ++ back) = trimEnd cs := by
  have reversed : ∀ c ∈ back.reverse, isBlank c = true :=
    fun c member => blank c (List.mem_reverse.mp member)
  rw [trimEnd, List.reverse_append, trimStart_append_of_blank reversed, trimEnd]

theorem trim_of_isPadded {s padded : String} (isPadded : IsPadded s padded) :
    trim padded = trim s := by
  obtain ⟨front, back, frontBlank, backBlank, split⟩ := isPadded
  have ends : trimEnd (trimStart (s.toList ++ back)) = trimEnd (trimStart s.toList) := by
    rw [trimStart, List.dropWhile_append]
    split
    · next nothing =>
        -- The text itself is blank, so what stands behind it is cut off from its front.
        have blankToo : trimStart back = [] := trimStart_eq_nil_iff.mpr backBlank
        rw [trimStart, List.isEmpty_iff.mp nothing]
        exact congrArg trimEnd blankToo
    · exact trimEnd_append_of_blank backBlank _
  rw [trim, split, List.append_assoc, trimStart_append_of_blank frontBlank, ends, trim]

/-! The case of ASCII letters. -/

theorem isUpper_iff {a : Char} : a.isUpper = true ↔ 65 ≤ a.toNat ∧ a.toNat ≤ 90 := by
  change decide (a.val ≥ 'A'.val ∧ a.val ≤ 'Z'.val) = true ↔ _
  rw [decide_eq_true_iff, ge_iff_le, UInt32.le_iff_toNat_le, UInt32.le_iff_toNat_le]
  exact Iff.rfl

/-- Each capital is lowered to the letter thirty-two places on. -/
theorem toNat_toLower (a : Char) :
    a.toLower.toNat = if 65 ≤ a.toNat ∧ a.toNat ≤ 90 then a.toNat + 32 else a.toNat := by
  have range : a.val ≥ 'A'.val ∧ a.val ≤ 'Z'.val ↔ 65 ≤ a.toNat ∧ a.toNat ≤ 90 :=
    and_congr UInt32.le_iff_toNat_le UInt32.le_iff_toNat_le
  split
  · next capital =>
      have distance : ('a'.val - 'A'.val).toNat = 32 := rfl
      refine (congrArg Char.toNat (dif_pos (range.mpr capital))).trans ?_
      rw [Char.toNat, UInt32.toNat_add, distance]
      change (a.toNat + 32) % 4294967296 = a.toNat + 32
      omega
  · next other => exact congrArg Char.toNat (dif_neg (range.not.mpr other))

theorem toNat_toUpper (a : Char) :
    a.toUpper.toNat = if 97 ≤ a.toNat ∧ a.toNat ≤ 122 then a.toNat - 32 else a.toNat := by
  have range : 'a'.val ≤ a.val ∧ a.val ≤ 'z'.val ↔ 97 ≤ a.toNat ∧ a.toNat ≤ 122 :=
    and_congr UInt32.le_iff_toNat_le UInt32.le_iff_toNat_le
  split
  · next small =>
      -- To go back is to go on to the end of 32 bits and around.
      have distance : ('A'.val - 'a'.val).toNat = 4294967264 := rfl
      refine (congrArg Char.toNat (dif_pos (range.mpr small))).trans ?_
      rw [Char.toNat, UInt32.toNat_add, distance]
      change (a.toNat + 4294967264) % 4294967296 = a.toNat - 32
      omega
  · next other => exact congrArg Char.toNat (dif_neg (range.not.mpr other))

/-- The same character, or the same ASCII letter as a small letter or as a capital. -/
def SameLetter (c d : Char) : Prop :=
  d = c ∨ d = c.toLower ∨ d = c.toUpper

instance : DecidableRel SameLetter := fun c d =>
  inferInstanceAs (Decidable (d = c ∨ d = c.toLower ∨ d = c.toUpper))

/-- Any ASCII letters may stand in another case. -/
def SameLetters (s t : String) : Prop :=
  List.Forall₂ SameLetter s.toList t.toList

instance : DecidableRel SameLetters := fun s t =>
  inferInstanceAs (Decidable (List.Forall₂ SameLetter s.toList t.toList))

theorem SameLetter.toLower_eq {c d : Char} (same : SameLetter c d) : d.toLower = c.toLower := by
  obtain rfl | rfl | rfl := same
  · rfl
  · rw [← Char.toNat_inj, toNat_toLower, toNat_toLower]
    split_ifs <;> omega
  · rw [← Char.toNat_inj, toNat_toLower, toNat_toLower, toNat_toUpper]
    split_ifs <;> omega

theorem toNat_of_isUpper {a : Char} (capital : a.isUpper = true) :
    65 ≤ a.toNat ∧ a.toNat ≤ 90 ∧ a.toLower.toNat = a.toNat + 32 := by
  have range := isUpper_iff.mp capital
  refine ⟨range.1, range.2, ?_⟩
  rw [toNat_toLower, if_pos range]

/-- What does not tell the ASCII capitals from their small letters does not tell letters of different
case apart. -/
theorem SameLetter.congr {α : Type} {c d : Char} (same : SameLetter c d) (f : Char → α)
    (caseless : ∀ a : Char, a.isUpper = true → f a.toLower = f a) : f d = f c := by
  have small (a : Char) : f a.toLower = f a := by
    by_cases capital : a.isUpper = true
    · exact caseless a capital
    · have kept : a.toLower = a := by
        rw [← Char.toNat_inj, toNat_toLower, if_neg (isUpper_iff.not.mp capital)]
      rw [kept]
  rw [← small d, same.toLower_eq, small c]

/-- The run of the ASCII capitals comes first. -/
theorem lowerChar_of_isUpper {a : Char} (capital : a.isUpper = true) :
    lowerChar a = [a.toLower] ∧ lowerChar a.toLower = [a.toLower] := by
  obtain ⟨low, high, small⟩ := toNat_of_isUpper capital
  have covered : (CapitalRun.mk 0x41 26 1 32).covers a.toNat = true := by
    simp [CapitalRun.covers, Nat.mod_one]
    omega
  have lowered : Char.ofNat ((a.toNat : Int) + 32).toNat = a.toLower := by
    have place : ((a.toNat : Int) + 32).toNat = a.toLower.toNat := by omega
    rw [place, Char.ofNat_toNat]
  constructor
  · have noDot : a ≠ '\u0130' := by
      rintro rfl
      exact absurd capital (by decide)
    have found : capitalRuns.find? (·.covers a.toNat) = some ⟨0x41, 26, 1, 32⟩ :=
      List.find?_cons_of_pos covered
    rw [lowerChar, if_neg noDot, found]
    exact congrArg (fun c => [c]) lowered
  · have isRun : CapitalRun.mk 0x41 26 1 32 ∈ capitalRuns := List.mem_cons_self
    have free := free_of_lowered isRun covered
    rw [lowered] at free
    exact (isSettled_of_unreached free).1.lowerChar_eq

theorem isCased_of_isUpper {a : Char} (capital : a.isUpper = true) :
    isCased a = true ∧ isCased a.toLower = true := by
  obtain ⟨low, high, small⟩ := toNat_of_isUpper capital
  constructor
  · refine List.any_eq_true.mpr ⟨(0x41, 0x5A), by decide, ?_⟩
    simp
    omega
  · refine List.any_eq_true.mpr ⟨(0x61, 0x7A), by decide, ?_⟩
    simp [small]
    omega

theorem ignorableSpans_avoid_letters :
    ∀ span ∈ ignorableSpans, span.2 < 65 ∨ 90 < span.1 ∧ span.2 < 97 ∨ 122 < span.1 := by
  decide +kernel

theorem isCaseIgnorable_of_isUpper {a : Char} (capital : a.isUpper = true) :
    isCaseIgnorable a = false ∧ isCaseIgnorable a.toLower = false := by
  obtain ⟨low, high, small⟩ := toNat_of_isUpper capital
  constructor
  all_goals
    rw [isCaseIgnorable, Spans.covers, List.any_eq_false]
    intro span member
    have apart := ignorableSpans_avoid_letters span member
    simp only [Bool.and_eq_true, decide_eq_true_eq]
    omega

namespace SameLetter

variable {c d : Char}

theorem lowerChar_eq (same : SameLetter c d) : lowerChar d = lowerChar c :=
  same.congr lowerChar fun _ capital =>
    (lowerChar_of_isUpper capital).2.trans (lowerChar_of_isUpper capital).1.symm

theorem isCased_eq (same : SameLetter c d) : isCased d = isCased c :=
  same.congr isCased fun _ capital =>
    (isCased_of_isUpper capital).2.trans (isCased_of_isUpper capital).1.symm

theorem isCaseIgnorable_eq (same : SameLetter c d) : isCaseIgnorable d = isCaseIgnorable c :=
  same.congr isCaseIgnorable fun _ capital =>
    (isCaseIgnorable_of_isUpper capital).2.trans (isCaseIgnorable_of_isUpper capital).1.symm

theorem isBlank_eq (same : SameLetter c d) : isBlank d = isBlank c := by
  refine same.congr isBlank fun a capital => ?_
  obtain ⟨low, high, small⟩ := toNat_of_isUpper capital
  rw [Bool.eq_iff_iff]
  simp only [isBlank, small, Bool.or_eq_true, Bool.and_eq_true, decide_eq_true_eq, beq_iff_eq]
  omega

theorem eq_sigma_iff (same : SameLetter c d) : d = 'Σ' ↔ c = 'Σ' := by
  refine iff_of_eq (same.congr (· = 'Σ') fun a capital => propext ?_)
  obtain ⟨low, high, small⟩ := toNat_of_isUpper capital
  have code : 'Σ'.toNat = 931 := rfl
  constructor
  · intro same
    rw [same, code] at small
    omega
  · rintro rfl
    omega

end SameLetter

section Texts

variable {cs ds before after : List Char}

theorem forall₂_dropWhile {p : Char → Bool} (alike : ∀ c d, SameLetter c d → p d = p c)
    (same : List.Forall₂ SameLetter cs ds) :
    List.Forall₂ SameLetter (cs.dropWhile p) (ds.dropWhile p) := by
  induction same with
  | nil => exact .nil
  | @cons c d cs ds first rest ih =>
      rw [List.dropWhile_cons, List.dropWhile_cons, alike c d first]
      split
      · exact ih
      · exact .cons first rest

theorem meetsCased_congr (same : List.Forall₂ SameLetter cs ds) :
    meetsCased ds = meetsCased cs := by
  have rest := forall₂_dropWhile (fun _ _ same => same.isCaseIgnorable_eq) same
  rw [meetsCased, meetsCased]
  generalize cs.dropWhile isCaseIgnorable = behind at rest
  generalize ds.dropWhile isCaseIgnorable = behindToo at rest
  cases rest with
  | nil => rfl
  | cons first _ => exact first.isCased_eq

theorem lowerAfter_congr (sameBefore : List.Forall₂ SameLetter before after)
    (same : List.Forall₂ SameLetter cs ds) : lowerAfter after ds = lowerAfter before cs := by
  induction same generalizing before after with
  | nil => rfl
  | cons first rest ih =>
      rw [lowerAfter, lowerAfter, ih (.cons first sameBefore), first.lowerChar_eq,
        meetsCased_congr sameBefore, meetsCased_congr rest]
      simp only [first.eq_sigma_iff]

end Texts

/-- The case of ASCII letters is lost in lower case. -/
theorem lower_eq_of_sameLetters {s t : String} (same : SameLetters s t) : lower t = lower s := by
  rw [lower, lowerAfter_congr .nil same, lower]

theorem SameLetters.trim {s t : String} (same : SameLetters s t) :
    SameLetters (Text.trim s) (Text.trim t) := by
  have sameBlanks (c d : Char) (same : SameLetter c d) : isBlank d = isBlank c :=
    same.isBlank_eq
  have start := forall₂_dropWhile sameBlanks same
  have stop := forall₂_dropWhile sameBlanks (List.forall₂_reverse_iff.mpr start)
  rw [SameLetters, Text.trim, Text.trim, String.toList_ofList, String.toList_ofList]
  exact List.forall₂_reverse_iff.mpr stop

end Candidacy.Text
