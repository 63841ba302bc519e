import Candidacy.Proofs.History
import Candidacy.Proofs.Lines

/-!
A session at the menu, said from the text that is typed: a round reads a line as its choice and as
many more lines as the choice takes, and what the rounds register and submit, one after the other,
is all that happens to the desk.
-/

namespace Candidacy.Menu

open Text.Utf8 (encode)

/-! What is typed. -/

/-- That many lines, each empty once the text has come to its end, and what stands behind them. -/
def takeLines : Nat → List Char → List String × List Char
  | 0, cs => ([], cs)
  | count + 1, cs =>
      let (others, rest) := takeLines count (takeLine cs).2
      (String.ofList (takeLine cs).1 :: others, rest)

/-- The lines that a choice takes besides its own. -/
def linesWanted (choice : String) : Nat :=
  match choice with
  | "1" | "2" | "5" | "6" => 1
  | "4" => 3
  | _ => 0

/-- What is typed in one round: the choice and the answers to its questions. -/
structure Round where
  line : String
  answers : List String

def Round.choice (round : Round) : String :=
  Text.trim round.line

/-- The registration or submission that a round asks for. -/
def Round.change? (round : Round) (now : Instant) : Option Candidacy.Request :=
  match round.choice, round.answers with
  | "2", [email] => (readEmail? email).map .register
  | "4", [id, task, payload] =>
      (readPayload? payload).map fun payload =>
        .submit (Text.trim id) ⟨Text.trim task, payload, now⟩
  | _, _ => none

/-- What the rounds ask for, each at an instant of its own. -/
def changes (clock : Nat → Instant) (rounds : List Round) : List Candidacy.Request :=
  rounds.zipIdx.filterMap fun (round, index) => round.change? (clock index)

/-- A text is typed in rounds, none of which leaves the menu; the rest of the text is left. -/
inductive IsTyped : List Char → List Round → List Char → Prop
  | start (cs : List Char) : IsTyped cs [] cs
  | round {cs left : List Char} {round : Round} {rounds : List Round} {behind : List Char}
      (more : cs ≠ [])
      (line : String.ofList (takeLine cs).1 = round.line)
      (stays : round.choice ≠ "7")
      (answered : takeLines (linesWanted round.choice) (takeLine cs).2 = (round.answers, behind))
      (others : IsTyped behind rounds left) :
      IsTyped cs (round :: rounds) left

/-- Nothing is left to read a choice from, or the next line leaves the menu. -/
def IsOver (cs : List Char) : Prop :=
  cs = [] ∨ cs ≠ [] ∧ Text.trim (String.ofList (takeLine cs).1) = "7"

/-! Answers. -/

theorem length_takeLines (count : Nat) (cs : List Char) :
    (takeLines count cs).1.length = count := by
  induction count generalizing cs with
  | zero => rfl
  | succ count ih => exact congrArg Nat.succ (ih (takeLine cs).2)

theorem length_takeLines_le (count : Nat) (cs : List Char) :
    (takeLines count cs).2.length ≤ cs.length := by
  induction count generalizing cs with
  | zero => exact Nat.le_refl _
  | succ count ih =>
      have shorter : (takeLine cs).2.length ≤ cs.length := by
        cases cs with
        | nil => exact Nat.le_refl _
        | cons c rest => exact Nat.le_of_lt (length_takeLine_lt nofun)
      exact Nat.le_trans (ih (takeLine cs).2) shorter

theorem inputLines_empty : inputLines (encode []) = [] := rfl

/-- Every line of a text can be read. -/
theorem isSome_of_mem_inputLines (cs : List Char) :
    ∀ line ∈ inputLines (encode cs), line.isSome = true := by
  induction length : cs.length using Nat.strongRecOn generalizing cs with
  | ind length_cs ih =>
      subst length
      cases cs with
      | nil => exact nofun
      | cons c rest =>
          rw [inputLines_encode (List.cons_ne_nil c rest), List.forall_mem_cons]
          exact ⟨rfl, ih _ (length_takeLine_lt nofun) _ rfl⟩

theorem drop_inputLines (count : Nat) (cs : List Char) :
    (inputLines (encode cs)).drop count = inputLines (encode (takeLines count cs).2) := by
  induction count generalizing cs with
  | zero => rfl
  | succ count ih =>
      cases cs with
      | nil =>
          have nothing := ih []
          rw [inputLines_empty, List.drop_nil] at nothing ⊢
          exact nothing
      | cons c rest =>
          rw [inputLines_encode (List.cons_ne_nil c rest), List.drop_succ_cons, ih]
          rfl

theorem answer_take_inputLines (count : Nat) (cs : List Char) (index : Nat) :
    answer (((inputLines (encode cs)).take count).filterMap id) index =
      answer (takeLines count cs).1 index := by
  induction count generalizing cs index with
  | zero => rfl
  | succ count ih =>
      cases cs with
      | nil =>
          have nothing := ih []
          simp only [inputLines_empty, List.take_nil] at nothing ⊢
          cases index with
          | zero => rfl
          | succ index => exact nothing index
      | cons c rest =>
          rw [inputLines_encode (List.cons_ne_nil c rest), List.take_succ_cons, List.filterMap_cons]
          cases index with
          | zero => rfl
          | succ index => exact ih _ index

theorem request_congr (choice : Choice) {answers others : List String}
    (same : ∀ index, answer answers index = answer others index) :
    choice.request answers = choice.request others := by
  simp only [Choice.request, same]

/-! Choices. -/

theorem length_prompts_ofLine (line : String) :
    (Choice.ofLine line).prompts.length = linesWanted (Text.trim line) := by
  unfold Choice.ofLine linesWanted
  split <;> simp_all [Choice.prompts]

theorem ofLine_eq_quit_iff {line : String} :
    Choice.ofLine line = .quit ↔ Text.trim line = "7" := by
  unfold Choice.ofLine
  split <;> simp_all

/-! Rounds. -/

def Round.turn (round : Round) : Turn :=
  ⟨(Choice.ofLine round.line).prompts,
    some ((Choice.ofLine round.line).request round.answers)⟩

/-- The turn in which the menu is left, or finds nothing to read. -/
def lastTurn (left : List Char) : Turn :=
  ⟨[], some (if left = [] then .endOfInput else .quit)⟩

theorem turns_round {cs : List Char} {round : Round} {behind : List Char} (more : cs ≠ [])
    (line : String.ofList (takeLine cs).1 = round.line) (stays : round.choice ≠ "7")
    (answered : takeLines (linesWanted round.choice) (takeLine cs).2 = (round.answers, behind)) :
    turns (inputLines (encode cs)) = round.turn :: turns (inputLines (encode behind)) := by
  have wanted : (Choice.ofLine round.line).prompts.length = linesWanted round.choice :=
    length_prompts_ofLine round.line
  have readable : ((inputLines (encode (takeLine cs).2)).take
      (linesWanted round.choice)).all Option.isSome = true := by
    rw [List.all_eq_true]
    intro line member
    exact isSome_of_mem_inputLines _ line (List.mem_of_mem_take member)
  have staying : Choice.ofLine round.line ≠ .quit := ofLine_eq_quit_iff.not.mpr stays
  have asked := request_congr (Choice.ofLine round.line)
    (answer_take_inputLines (linesWanted round.choice) (takeLine cs).2)
  have behindAnswers := drop_inputLines (linesWanted round.choice) (takeLine cs).2
  rw [answered] at asked behindAnswers
  rw [inputLines_encode more, line, turns, wanted, if_pos readable, if_neg staying, asked,
    behindAnswers, Round.turn]

theorem turns_of_isOver {left : List Char} (ended : IsOver left) :
    turns (inputLines (encode left)) = [lastTurn left] := by
  obtain rfl | ⟨more, leaves⟩ := ended
  · rw [inputLines_empty, turns, lastTurn, if_pos rfl]
  · have quit := ofLine_eq_quit_iff.mpr leaves
    rw [inputLines_encode more, turns, quit, lastTurn, if_neg more]
    rfl

theorem IsTyped.turns_eq {cs left : List Char} {rounds : List Round}
    (typed : IsTyped cs rounds left) :
    turns (inputLines (encode cs)) =
      rounds.map Round.turn ++ turns (inputLines (encode left)) := by
  induction typed with
  | start cs => rfl
  | round more line stays answered others ih =>
      rw [turns_round more line stays answered, ih]
      rfl

theorem IsTyped.length_answers {cs left : List Char} {rounds : List Round}
    (typed : IsTyped cs rounds left) :
    ∀ round ∈ rounds, round.answers.length = linesWanted round.choice := by
  induction typed with
  | start cs => exact nofun
  | @round cs left round rounds behind more line stays answered others ih =>
      have length := length_takeLines (linesWanted round.choice) (takeLine cs).2
      rw [answered] at length
      exact List.forall_mem_cons.mpr ⟨length, ih⟩

/-- Every text is typed in rounds until the menu is left or nothing is left to read. -/
theorem exists_rounds (cs : List Char) : ∃ rounds left, IsTyped cs rounds left ∧ IsOver left := by
  induction length : cs.length using Nat.strongRecOn generalizing cs with
  | ind length_cs ih =>
      subst length
      by_cases ended : IsOver cs
      · exact ⟨[], cs, .start cs, ended⟩
      · obtain ⟨more, stays⟩ := not_or.mp ended
        cases answered : takeLines (linesWanted (Text.trim (String.ofList (takeLine cs).1)))
            (takeLine cs).2 with
        | mk answers behind =>
            have shorter : behind.length < cs.length := by
              have notLonger := length_takeLines_le
                (linesWanted (Text.trim (String.ofList (takeLine cs).1))) (takeLine cs).2
              rw [answered] at notLonger
              exact Nat.lt_of_le_of_lt notLonger (length_takeLine_lt more)
            obtain ⟨rounds, left, typed, finished⟩ := ih behind.length shorter behind rfl
            refine ⟨⟨String.ofList (takeLine cs).1, answers⟩ :: rounds, left, ?_, finished⟩
            refine .round more rfl ?_ ?_ typed
            · intro leaves
              exact stays ⟨more, leaves⟩
            · exact answered

/-! What the rounds do to the desk. -/

/-- The change that a request of the menu makes. -/
def Request.change? (now : Instant) : Request → Option Candidacy.Request
  | .register email => some (.register email)
  | .complete id identifier payload => some (.submit id ⟨identifier, payload, now⟩)
  | .showFlow | .showSteps _ | .blankEmail | .list | .badPayload | .progress _ | .standing _
  | .unknown _ | .quit | .endOfInput => none

theorem desk_perform (now : Instant) (desk : Desk Roster) (request : Request) :
    (perform now desk request).2 = desk.serveAll (request.change? now).toList := by
  cases request with
  | register email =>
      simp only [perform, Request.change?, Option.toList_some, Desk.serveAll_cons,
        Desk.serveAll_nil, Desk.serve]
      cases desk.register email <;> rfl
  | complete id identifier payload => rfl
  | showFlow | showSteps | blankEmail | list | badPayload | progress | standing | unknown
  | quit | endOfInput => rfl

theorem change?_request (now : Instant) {round : Round}
    (answered : round.answers.length = linesWanted round.choice) :
    ((Choice.ofLine round.line).request round.answers).change? now = round.change? now := by
  obtain ⟨line, answers⟩ := round
  unfold Round.change?
  generalize choice : Round.choice ⟨line, answers⟩ = text at answered ⊢
  rw [Choice.ofLine, show Text.trim line = text from choice]
  -- One case for each choice: only the second and the fourth ask for a change.
  split
  · simp only [Choice.request]
    split <;> rfl
  · obtain ⟨email, rfl⟩ := List.length_eq_one_iff.mp answered
    simp only [Choice.request, answer, List.getD_cons_zero]
    cases readEmail? email <;> rfl
  · rfl
  · obtain ⟨id, task, payload, rfl⟩ := List.length_eq_three.mp answered
    simp only [Choice.request, answer, List.getD_cons_zero, List.getD_cons_succ]
    cases readPayload? payload <;> rfl
  · rfl
  · rfl
  · rfl
  · next notShow notRegister notList notComplete notProgress notStanding notQuit =>
    split
    · exact absurd rfl notRegister
    · exact absurd rfl notComplete
    · rfl

theorem desk_take {session : Session Roster} {turn : Turn} {request : Request}
    (asks : turn.request = some request) (now : Instant) :
    (session.take turn now).desk = session.desk.serveAll (request.change? now).toList ∧
      (session.take turn now).intact = session.intact := by
  rw [Session.take, Turn.reply, asks]
  exact ⟨desk_perform now session.desk request, Bool.and_true session.intact⟩

/-- The session after some turns. -/
def sessionAfter (clock : Nat → Instant) (desk : Desk Roster) (turns : List Turn) :
    Session Roster :=
  turns.zipIdx.foldl (fun session (turn, index) => session.take turn (clock index))
    ⟨desk, ⟨"", ""⟩, true⟩

theorem sessionAfter_append_singleton (clock : Nat → Instant) (desk : Desk Roster)
    (turns : List Turn) (turn : Turn) :
    sessionAfter clock desk (turns ++ [turn]) =
      (sessionAfter clock desk turns).take turn (clock turns.length) := by
  rw [sessionAfter, List.zipIdx_append, List.foldl_append, Nat.zero_add]
  rfl

theorem changes_append_singleton (clock : Nat → Instant) (rounds : List Round) (round : Round) :
    changes clock (rounds ++ [round]) =
      changes clock rounds ++ (round.change? (clock rounds.length)).toList := by
  rw [changes, List.zipIdx_append, List.filterMap_append, Nat.zero_add, ← changes]
  cases asked : round.change? (clock rounds.length) <;> simp [asked]

/-- After so many rounds, the desk has served what they ask for. -/
theorem desk_rounds (clock : Nat → Instant) (desk : Desk Roster) (rounds : List Round)
    (answered : ∀ round ∈ rounds, round.answers.length = linesWanted round.choice) :
    (sessionAfter clock desk (rounds.map Round.turn)).desk =
        desk.serveAll (changes clock rounds) ∧
      (sessionAfter clock desk (rounds.map Round.turn)).intact = true := by
  induction rounds using List.reverseRecOn with
  | nil => exact ⟨rfl, rfl⟩
  | append_singleton rounds round ih =>
      rw [List.forall_mem_append, List.forall_mem_singleton] at answered
      obtain ⟨served, intact⟩ := ih answered.1
      obtain ⟨taken, kept⟩ := @desk_take (sessionAfter clock desk (rounds.map Round.turn))
        round.turn _ rfl (clock (rounds.map Round.turn).length)
      rw [List.map_append, List.map_singleton, sessionAfter_append_singleton, taken, kept, served,
        change?_request _ answered.2, List.length_map, changes_append_singleton,
        Desk.serveAll_append]
      exact ⟨rfl, intact⟩

/-- Whatever is typed, a session comes to its end: every round takes the lines that its choice
asks for, and after any number of rounds the desk has served what they ask for and nothing else. A
request that the desk refuses leaves it as it was. -/
theorem session_follows_text (clock : Nat → Instant) (desk : Desk Roster) (text : String) :
    let input := inputLines text.toUTF8.data.toList
    let session := run clock desk input
    ∃ rounds left, IsTyped text.toList rounds left ∧ IsOver left ∧
      turns input = rounds.map Round.turn ++ [lastTurn left] ∧
      (∀ round ∈ rounds, round.turn.prompts.length = round.answers.length) ∧
      session.intact = true ∧
      session.desk = desk.serveAll (changes clock rounds) ∧
      (∀ count ≤ rounds.length,
        (sessionAfter clock desk ((turns input).take count)).desk =
          desk.serveAll (changes clock (rounds.take count))) ∧
      (∀ (before : Desk Roster) email refusal, before.register email = .error refusal →
        before.serve (.register email) = before) ∧
      ∀ (before : Desk Roster) id submission refusal,
        (before.submit id submission).1 = .error refusal →
          before.serve (.submit id submission) = before := by
  intro input session
  obtain ⟨rounds, left, typed, ended⟩ := exists_rounds text.toList
  have answered := typed.length_answers
  have taken : turns input = rounds.map Round.turn ++ [lastTurn left] := by
    rw [show input = inputLines (encode text.toList) by
      rw [← Text.Utf8.bytes_eq_encode], typed.turns_eq, turns_of_isOver ended]
  obtain ⟨served, intact⟩ := desk_rounds clock desk rounds answered
  have whole : session = (sessionAfter clock desk (rounds.map Round.turn)).take (lastTurn left)
      (clock (rounds.map Round.turn).length) := by
    rw [← sessionAfter_append_singleton, ← taken]
    rfl
  obtain ⟨unchanged, kept⟩ := @desk_take (sessionAfter clock desk (rounds.map Round.turn))
    (lastTurn left) _ rfl (clock (rounds.map Round.turn).length)
  refine ⟨rounds, left, typed, ended, taken, ?_, ?_, ?_, ?_, ?_, ?_⟩
  · intro round member
    rw [answered round member]
    exact length_prompts_ofLine round.line
  · rw [whole, kept, intact]
  · rw [whole, unchanged, served]
    split <;> rfl
  · intro count within
    have front : (turns input).take count = (rounds.take count).map Round.turn := by
      rw [taken, List.take_append_of_le_length (by simpa using within), List.map_take]
    rw [front]
    refine (desk_rounds clock desk (rounds.take count) ?_).1
    intro round member
    exact answered round (List.mem_of_mem_take member)
  · intro before email refusal refused
    rw [Desk.serve, refused]
  · intro before id submission refusal refused
    obtain ⟨_, answer⟩ | ⟨_, _, _, _, _, answer⟩ := before.submit_outcomes id submission
    · rw [Desk.serve, answer]
    · rw [answer] at refused
      cases refused

end Candidacy.Menu
