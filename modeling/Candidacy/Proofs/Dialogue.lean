import Candidacy.Menu.Dialogue
import Candidacy.Proofs.Session

/-!
The rounds that are served, one line at a time, are the turns of a session: on a console that is given
the lines of an input they come to an end, with the desk and the output of the session of this input.
-/

namespace Candidacy.Menu

variable {σ : Type} [Registry σ] {clock : Nat → Instant}

/-! A console with given input. -/

/-- The lines not read yet, what was written, and how often the clock was read. -/
structure Tape where
  lines : List (Option String)
  written : Output
  ticks : Nat

/-- Behind its last line the input is empty. -/
def Tape.console (clock : Nat → Instant) : Console (StateM Tape) where
  readLine tape := (tape.lines.headD (some ""), { tape with lines := tape.lines.tail })
  write output tape :=
    ((), { tape with written := ⟨tape.written.out ++ output.out, tape.written.err ++ output.err⟩ })
  now tape := (clock tape.ticks, { tape with ticks := tape.ticks + 1 })

/-- Rounds served on a tape until one is the last: whether all input was text, the desk in the end and
the tape that is left. -/
inductive Serves (clock : Nat → Instant) : Desk σ → Tape → Bool → Desk σ → Tape → Prop
  | last {desk behind : Desk σ} {tape left : Tape} {turn : Turn}
      (served : serveRound (Tape.console clock) desk tape = ((turn, behind), left))
      (isLast : turn.isLast = true) : Serves clock desk tape turn.request.isSome behind left
  | round {desk behind final : Desk σ} {tape next left : Tape} {turn : Turn} {intact : Bool}
      (served : serveRound (Tape.console clock) desk tape = ((turn, behind), next))
      (goesOn : turn.isLast = false) (others : Serves clock behind next intact final left) :
      Serves clock desk tape intact final left

/-! One question. -/

theorem hold_done {α : Type} (a : α) (tape : Tape) :
    (Dialogue.done a).hold (Tape.console clock) tape = (a, tape) := rfl

theorem hold_ask {α : Type} (question : String) (next : Option String → Dialogue α)
    (lines : List (Option String)) (out err : String) (ticks : Nat) :
    (Dialogue.ask question next).hold (Tape.console clock) ⟨lines, ⟨out, err⟩, ticks⟩ =
      (next (lines.headD (some ""))).hold (Tape.console clock)
        ⟨lines.tail, ⟨out ++ question, err⟩, ticks⟩ := by
  have silent : err ++ "" = err := String.append_empty
  change Dialogue.hold (Tape.console clock) (next (lines.headD (some "")))
    (⟨lines.tail, ⟨out ++ question, err ++ ""⟩, ticks⟩ : Tape) = _
  rw [silent]

theorem request_append_empty (choice : Choice) (answers : List String) :
    choice.request (answers ++ [""]) = choice.request answers := by
  apply request_congr
  intro index
  rw [answer, answer, List.getD_eq_getElem?_getD, List.getD_eq_getElem?_getD, List.getElem?_append]
  split
  · rfl
  · next behind =>
      rw [List.getElem?_eq_none (Nat.not_lt.mp behind)]
      cases index - answers.length <;> rfl

/-! The questions of a choice. -/

/-- The turn that a choice leads to, from the answers before and the lines to come. -/
def Choice.turn (choice : Choice) (answers : List String) (heard : List (Option String)) : Turn :=
  if heard.all Option.isSome then ⟨choice.prompts, some (choice.request (answers ++ heard.filterMap id))⟩
  else ⟨choice.prompts.take (answers.length + (readable heard).length + 1), none⟩

section Turn

variable {choice : Choice} {answers : List String} {heard : List (Option String)}

theorem Choice.turn_of_readable (readable : heard.all Option.isSome = true) :
    choice.turn answers heard =
      ⟨choice.prompts, some (choice.request (answers ++ heard.filterMap id))⟩ :=
  if_pos readable

theorem Choice.turn_of_unreadable (unreadable : ¬heard.all Option.isSome = true) :
    choice.turn answers heard =
      ⟨choice.prompts.take (answers.length + (readable heard).length + 1), none⟩ :=
  if_neg unreadable

end Turn

theorem Choice.turn_nil (choice : Choice) (answers : List String) :
    choice.turn answers [] = ⟨choice.prompts, some (choice.request answers)⟩ := by
  rw [turn_of_readable rfl, List.filterMap_nil, List.append_nil]

theorem Choice.turn_none (choice : Choice) (answers : List String) (heard : List (Option String)) :
    choice.turn answers (none :: heard) = ⟨choice.prompts.take (answers.length + 1), none⟩ := by
  simp [turn, readable]

theorem Choice.turn_some (choice : Choice) (answers : List String) (line : String)
    (heard : List (Option String)) :
    choice.turn answers (some line :: heard) = choice.turn (answers ++ [line]) heard := by
  simp [turn, readable, Nat.add_assoc, Nat.add_comm]

/-- Holding the questions that are left takes this turn, and has written all that the turn asks. -/
theorem hold_inquire (choice : Choice) {before questions : List String}
    (split : choice.prompts = before ++ questions) {answers : List String}
    (asked : answers.length = before.length) (lines : List (Option String)) (out err : String)
    (ticks : Nat) :
    ∃ rest, (choice.inquire answers questions).hold (Tape.console clock)
        ⟨lines, ⟨out ++ String.join before, err⟩, ticks⟩ =
          (choice.turn answers (lines.take questions.length),
            ⟨rest, ⟨out ++ String.join
              (choice.turn answers (lines.take questions.length)).prompts, err⟩, ticks⟩) ∧
      ((lines.take questions.length).all Option.isSome = true →
        rest = lines.drop questions.length) := by
  induction questions generalizing before answers lines with
  | nil =>
      refine ⟨lines, ?_, fun _ => rfl⟩
      rw [Choice.inquire, hold_done, List.length_nil, List.take_zero, Choice.turn_nil, split,
        List.append_nil]
  | cons question others ih =>
      have next : choice.prompts = (before ++ [question]) ++ others := by
        rw [split, List.append_cons]
      have written : out ++ String.join before ++ question =
          out ++ String.join (before ++ [question]) := by
        simp [String.join_append, String.append_assoc]
      have more (line : String) : (answers ++ [line]).length = (before ++ [question]).length := by
        simp [asked]
      rw [Choice.inquire, hold_ask, written]
      cases lines with
      | nil =>
          obtain ⟨rest, held, left⟩ := ih next (more "") []
          simp only [List.take_nil, Choice.turn_nil, request_append_empty] at held ⊢
          exact ⟨rest, held, by simpa using left⟩
      | cons line lines =>
          cases line with
          | none =>
              refine ⟨lines, ?_, nofun⟩
              have cut : choice.prompts.take (answers.length + 1) = before ++ [question] := by
                rw [next]
                exact List.take_left' (by simp [asked])
              rw [List.length_cons, List.take_succ_cons, Choice.turn_none, cut]
              rfl
          | some line =>
              obtain ⟨rest, held, left⟩ := ih next (more line) lines
              rw [List.length_cons, List.take_succ_cons, Choice.turn_some]
              exact ⟨rest, held, left⟩

/-! One round. -/

/-- Only the choice to leave makes a request that is the last. -/
theorem Choice.isLast_request (choice : Choice) (answers : List String) :
    (choice.request answers).isLast = decide (choice = .quit) := by
  cases choice with
  | showFlow =>
      rw [request]
      split <;> rfl
  | register =>
      rw [request]
      cases readEmail? (answer answers 0) <;> rfl
  | complete =>
      rw [request]
      cases readPayload? (answer answers 2) <;> rfl
  | list | progress | standing | quit | unknown => rfl

theorem Choice.readable_of_isLast_turn {choice : Choice} {answers : List String}
    {heard : List (Option String)} (goesOn : (choice.turn answers heard).isLast = false) :
    heard.all Option.isSome = true := by
  by_contra unreadable
  rw [turn_of_unreadable unreadable] at goesOn
  cases goesOn

/-- A line of the menu makes the turn of its choice, with the lines that follow as answers. -/
theorem turns_line {line : String} {choice : Choice} (chosen : Choice.ofLine line = choice)
    (lines : List (Option String)) :
    turns (some line :: lines) = choice.turn [] (lines.take choice.prompts.length) ::
      if (choice.turn [] (lines.take choice.prompts.length)).isLast then []
      else turns (lines.drop choice.prompts.length) := by
  rw [turns, chosen]
  by_cases readable : (lines.take choice.prompts.length).all Option.isSome = true
  · have last : (choice.turn [] (lines.take choice.prompts.length)).isLast =
        decide (choice = .quit) := by
      rw [Choice.turn_of_readable readable]
      exact choice.isLast_request _
    rw [last, Choice.turn_of_readable readable, List.nil_append, if_pos readable]
    by_cases quit : choice = .quit <;> simp [quit]
  · rw [Choice.turn_of_unreadable readable, if_neg readable, List.length_nil, Nat.zero_add]
    rfl

theorem append_join_nil (written : String) : written ++ String.join [] = written := by
  rw [String.join_nil, String.append_empty]

/-- A round whose first line is read asks what the choice on this line asks. -/
theorem hold_round_line {line : String} (more : line ≠ "") {choice : Choice}
    (chosen : Choice.ofLine line = choice) (lines : List (Option String)) (out err : String)
    (ticks : Nat) :
    ∃ rest, round.hold (Tape.console clock) ⟨some line :: lines, ⟨out, err⟩, ticks⟩ =
        (choice.turn [] (lines.take choice.prompts.length),
          ⟨rest, ⟨out ++ (banner ++ String.join
            (choice.turn [] (lines.take choice.prompts.length)).prompts), err⟩, ticks⟩) ∧
      ((choice.turn [] (lines.take choice.prompts.length)).isLast = false →
        rest = lines.drop choice.prompts.length) := by
  obtain ⟨rest, held, left⟩ := @hold_inquire clock choice [] choice.prompts
    (List.nil_append choice.prompts).symm [] rfl lines (out ++ banner) err ticks
  rw [append_join_nil] at held
  refine ⟨rest, ?_, fun goesOn => left (Choice.readable_of_isLast_turn goesOn)⟩
  rw [round, hold_ask, ← String.append_assoc, ← held, List.headD_cons]
  split
  · next unread => cases unread
  · next empty => exact absurd (Option.some.inj empty) more
  · next same =>
      cases same
      rw [chosen]
      rfl

/-- A round on a tape takes the first of the turns that the lines make, and leaves those of the others. -/
theorem hold_round (lines : List (Option String)) (solid : ∀ line ∈ lines, line ≠ some "")
    (out err : String) (ticks : Nat) :
    ∃ turn rest, round.hold (Tape.console clock) ⟨lines, ⟨out, err⟩, ticks⟩ =
        (turn, ⟨rest, ⟨out ++ (banner ++ String.join turn.prompts), err⟩, ticks⟩) ∧
      turns lines = turn :: (if turn.isLast then [] else turns rest) ∧
      (turn.isLast = false → rest.length < lines.length ∧ ∀ line ∈ rest, line ≠ some "") := by
  cases lines with
  | nil =>
      have last : Turn.isLast ⟨[], some .endOfInput⟩ = true := rfl
      refine ⟨⟨[], some .endOfInput⟩, [], ?_, ?_, ?_⟩
      · rw [round, hold_ask, append_join_nil]
        rfl
      · rw [turns, if_pos last]
      · intro goesOn
        cases last.symm.trans goesOn
  | cons line lines =>
      rw [List.forall_mem_cons] at solid
      cases line with
      | none =>
          have last : Turn.isLast ⟨[], none⟩ = true := rfl
          refine ⟨⟨[], none⟩, lines, ?_, ?_, ?_⟩
          · rw [round, hold_ask, append_join_nil]
            rfl
          · rw [turns, if_pos last]
          · intro goesOn
            cases last.symm.trans goesOn
      | some line =>
          have more : line ≠ "" := fun empty => solid.1 (congrArg some empty)
          obtain ⟨choice, chosen⟩ : ∃ choice, Choice.ofLine line = choice := ⟨_, rfl⟩
          obtain ⟨rest, held, left⟩ := @hold_round_line clock line more choice chosen lines out err ticks
          refine ⟨choice.turn [] (lines.take choice.prompts.length), rest, held, ?_, ?_⟩
          · rw [turns_line chosen]
            cases last : (choice.turn [] (lines.take choice.prompts.length)).isLast with
            | true => rfl
            | false => rw [left last]
          · intro goesOn
            rw [left goesOn, List.length_drop, List.length_cons]
            exact ⟨by omega, fun other member => solid.2 other (List.mem_of_mem_drop member)⟩

/-! Whole sessions. -/

/-- The session behind some more turns. -/
def Session.follow (clock : Nat → Instant) (session : Session σ) (ticks : Nat) :
    List Turn → Session σ
  | [] => session
  | turn :: others => (session.take turn (clock ticks)).follow clock (ticks + 1) others

theorem run_eq_follow (clock : Nat → Instant) (desk : Desk σ) (input : List (Option String)) :
    run clock desk input = Session.follow clock ⟨desk, ⟨"", ""⟩, true⟩ 0 (turns input) := by
  have folded (turns : List Turn) (session : Session σ) (ticks : Nat) :
      (turns.zipIdx ticks).foldl (fun session turn => session.take turn.1 (clock turn.2)) session =
        session.follow clock ticks turns := by
    induction turns generalizing session ticks with
    | nil => rfl
    | cons turn others ih => exact ih _ _
  exact folded _ _ _

/-- A round on a tape is a turn that the session takes. -/
theorem serveRound_tape {session : Session σ} {lines rest : List (Option String)} {ticks : Nat}
    {turn : Turn} (held : round.hold (Tape.console clock) ⟨lines, session.output, ticks⟩ =
      (turn, ⟨rest, ⟨session.output.out ++ (banner ++ String.join turn.prompts),
        session.output.err⟩, ticks⟩)) :
    serveRound (Tape.console clock) session.desk ⟨lines, session.output, ticks⟩ =
      ((turn, (session.take turn (clock ticks)).desk),
        ⟨rest, (session.take turn (clock ticks)).output, ticks + 1⟩) := by
  simp only [serveRound, bind, StateT.bind, held]
  rfl

theorem serves_follow {lines : List (Option String)} (solid : ∀ line ∈ lines, line ≠ some "")
    {session : Session σ} (intact : session.intact = true) (ticks : Nat) :
    ∃ left, Serves clock session.desk ⟨lines, session.output, ticks⟩
      (session.follow clock ticks (turns lines)).intact
      (session.follow clock ticks (turns lines)).desk
      ⟨left, (session.follow clock ticks (turns lines)).output, ticks + (turns lines).length⟩ := by
  induction length : lines.length using Nat.strongRecOn generalizing lines session ticks with
  | ind length_lines ih =>
      subst length
      obtain ⟨turn, rest, held, split, more⟩ := @hold_round clock lines solid session.output.out
        session.output.err ticks
      have served := serveRound_tape held
      rw [split]
      cases last : turn.isLast with
      | true =>
          have kept : (session.take turn (clock ticks)).intact = turn.request.isSome := by
            rw [Session.take, intact, Bool.true_and]
          refine ⟨rest, ?_⟩
          rw [if_pos rfl, Session.follow, Session.follow, kept]
          exact .last served last
      | false =>
          obtain ⟨shorter, solidToo⟩ := more last
          have asks : turn.request.isSome = true := by
            cases request : turn.request with
            | none => simp [Turn.isLast, request] at last
            | some request => rfl
          have kept : (session.take turn (clock ticks)).intact = true := by
            rw [Session.take, intact, asks, Bool.and_self]
          obtain ⟨left, others⟩ := ih rest.length shorter solidToo kept (ticks + 1) rfl
          refine ⟨left, .round served last ?_⟩
          have count : ticks + (turn :: turns rest).length = ticks + 1 + (turns rest).length := by
            rw [List.length_cons]
            omega
          rw [if_neg Bool.false_ne_true, Session.follow, count]
          exact others

theorem Serves.unique {desk final finalToo : Desk σ} {tape left leftToo : Tape}
    {intact intactToo : Bool} (served : Serves clock desk tape intact final left)
    (servedToo : Serves clock desk tape intactToo finalToo leftToo) :
    intact = intactToo ∧ final = finalToo ∧ left = leftToo := by
  induction served with
  | last first isLast =>
      cases servedToo with
      | last firstToo isLastToo =>
          cases first.symm.trans firstToo
          exact ⟨rfl, rfl, rfl⟩
      | round firstToo goesOn others =>
          cases first.symm.trans firstToo
          rw [isLast] at goesOn
          cases goesOn
  | round first goesOn others ih =>
      cases servedToo with
      | last firstToo isLast =>
          cases first.symm.trans firstToo
          rw [isLast] at goesOn
          cases goesOn
      | round firstToo goesOnToo othersToo =>
          cases first.symm.trans firstToo
          exact ih othersToo

/-- Whatever bytes are typed, the rounds come to an end, and to this one only: that of the session of
these bytes, with its desk, with its output, and with the news whether all bytes were text. -/
theorem rounds_follow_session (clock : Nat → Instant) (desk : Desk σ) (bytes : List UInt8) :
    let input : Tape := ⟨inputLines bytes, ⟨"", ""⟩, 0⟩
    let session := run clock desk (inputLines bytes)
    (∃ left, Serves clock desk input session.intact session.desk left) ∧
      ∀ intact final left, Serves clock desk input intact final left →
        intact = session.intact ∧ final = session.desk ∧ left.written = session.output := by
  intro input session
  obtain ⟨left, served⟩ := @serves_follow σ _ clock (inputLines bytes)
    (ne_empty_of_mem_inputLines bytes) ⟨desk, ⟨"", ""⟩, true⟩ rfl 0
  rw [← run_eq_follow] at served
  refine ⟨⟨_, served⟩, ?_⟩
  intro intact final left servedToo
  obtain ⟨rfl, rfl, rfl⟩ := servedToo.unique served
  exact ⟨rfl, rfl, rfl⟩

end Candidacy.Menu
