import Promotions.Proofs.Ending
import Promotions.Session

/-! What the steps of a session leave behind. A step that fails changes nothing, and neither does
one that only asks, so that a run without such steps reports the same of all the others. -/
namespace Promotions.Session

variable {s after : Session} {taken : Step} {answer : Answer}

/-- Steps that look something up or work something out. -/
def Step.asks : Step → Bool
  | .validate | .apply | .eligible | .potential | .required | .resolve _ => true
  | _ => false

/-- A step that fails, or that only asks. -/
def isIdle (taken : Step) (done : Report) : Bool := taken.asks || !done.answer.toBool

theorem stepAsked (asks : taken.asks = true) (stepped : s.step taken = .ok (after, answer)) :
    after = s := by
  have same {α : Type} {result : Except Fault α} {f : α → Answer}
      (returned : (do let found ← result; return (s, f found)) = Except.ok (after, answer)) :
      after = s := by
    obtain ⟨found, -, rest⟩ := bindOk.mp returned
    cases rest
    rfl
  cases taken <;> cases asks
  case validate => cases stepped; rfl
  all_goals exact same stepped

theorem idleStep (idle : isIdle taken (s.report taken) = true) :
    (s.report taken).session = s := by
  unfold isIdle report at *
  cases stepped : s.step taken with
  | error fault => rfl
  | ok both =>
    have asks : taken.asks = true := by simpa [stepped, Except.toBool] using idle
    exact stepAsked asks stepped

/-- The steps of a run that are not idle there. -/
def busy (s : Session) : List Step → List Step
  | [] => []
  | taken :: rest =>
      let later := busy (s.report taken).session rest
      if isIdle taken (s.report taken) then later else taken :: later

/-- A run without the steps that fail or only ask reports the same of all the others. -/
theorem runBusy (s : Session) (steps : List Step) : s.run (s.busy steps) =
    ((steps.zip (s.run steps)).filter fun both => !isIdle both.1 both.2).map (·.2) := by
  induction steps generalizing s with
  | nil => rfl
  | cons taken rest ih =>
    cases idle : isIdle taken (s.report taken) with
    | true => simp [busy, run, idle, ← ih, idleStep idle]
    | false => simp [busy, run, idle, ← ih]

end Promotions.Session
