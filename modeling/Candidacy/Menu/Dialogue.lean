import Candidacy.Menu

/-!
The menu as a dialogue. A question waits for one line, and the lines so far decide which question comes
next. Held over a console, a round of the menu is one turn and the reply to it.
-/

namespace Candidacy.Menu

/-- Questions that lead to a result, each with what follows from its answer. A line that is not text
is `none`. -/
inductive Dialogue (α : Type)
  | done (a : α)
  | ask (question : String) (next : Option String → Dialogue α)

/-- What a choice still has to ask, behind the answers that were given. -/
def Choice.inquire (choice : Choice) (answers : List String) : List String → Dialogue Turn
  | [] => .done ⟨choice.prompts, some (choice.request answers)⟩
  | question :: others =>
      .ask question fun
        | none => .done ⟨choice.prompts.take (answers.length + 1), none⟩
        | some answer => choice.inquire (answers ++ [answer]) others

/-- One round. A line has at least its line end, so that nothing at all is the end of the input. -/
def round : Dialogue Turn :=
  .ask banner fun
    | none => .done ⟨[], none⟩
    | some "" => .done ⟨[], some .endOfInput⟩
    | some line => (Choice.ofLine line).inquire [] (Choice.ofLine line).prompts

/-- Lines to read, streams to write to, and a clock. -/
structure Console (m : Type → Type) where
  readLine : m (Option String)
  write : Output → m Unit
  now : m Instant

variable {m : Type → Type} [Monad m] {α σ : Type} [Registry σ]

/-- Writes each question, and reads its answer. -/
def Dialogue.hold (console : Console m) : Dialogue α → m α
  | .done a => pure a
  | .ask question next => do
      console.write (say question)
      (next (← console.readLine)).hold console

/-- One round on a console: the turn that was taken, and the desk behind it. -/
def serveRound (console : Console m) (desk : Desk σ) : m (Turn × Desk σ) := do
  let turn ← round.hold console
  let (reply, desk) := turn.reply (← console.now) desk
  console.write reply
  return (turn, desk)

end Candidacy.Menu
