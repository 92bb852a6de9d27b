import Gamebook.Proofs.Exec

/-!
# Loops that wait for an answer

Fights, menus and the prompt take turns until one of them gives a result. `Play.repeatTurn` bounds
the number of turns by the number of answers. `Repeats` is the loop without a bound: it says what
taking turns leads to, and holds only if the turns come to an end. The two agree whenever a turn
without a result uses up an answer, so the bound is never what ends the loop.

## Key results

- `repeats_repeatTurn`: the bounded loop does what the loop without a bound does
- `exists_exec_of_untilResult`: the result of a loop is the result of one of its turns
-/

namespace Gamebook.Play

variable {α : Type} {turn : Play (Option α)}

/-- `Repeats turn w out`: taking turns from `w` until one gives a result, or fails, leads to the
    outcome `out`. -/
inductive Repeats (turn : Play (Option α)) : World → Except Fault α × World → Prop where
  | done {w w' : World} {a : α} (h : turn.exec w = (.ok (some a), w')) :
      Repeats turn w (.ok a, w')
  | fault {w w' : World} {f : Fault} (h : turn.exec w = (.error f, w')) :
      Repeats turn w (.error f, w')
  | again {w w' : World} {out : Except Fault α × World} (h : turn.exec w = (.ok none, w'))
      (rest : Repeats turn w' out) : Repeats turn w out

/-- A `turn` that gives no result has used up an answer. -/
def UsesAnswer (turn : Play (Option α)) : Prop :=
  ∀ w w' : World, turn.exec w = (.ok none, w') →
    w'.console.answers.length < w.console.answers.length

/-- One turn of `untilResult`. -/
theorem exec_untilResult_succ (turn : Play (Option α)) (turns : Nat) (w : World) :
    (untilResult turn (turns + 1)).exec w =
      match turn.exec w with
      | (.ok (some a), w') => (.ok a, w')
      | (.ok none, w') => (untilResult turn turns).exec w'
      | (.error f, w') => (.error f, w') := by
  simp only [untilResult, exec_bind]
  rcases turn.exec w with ⟨f | (_ | a), w'⟩ <;> rfl

/-- `repeatTurn` is `untilResult` with one turn more than there are answers. -/
theorem exec_repeatTurn (turn : Play (Option α)) (w : World) :
    (repeatTurn turn).exec w =
      (untilResult turn (w.console.answers.length + 1)).exec w := by
  simp only [repeatTurn, exec_bind, exec_get]

/-- With more turns than answers the bound of `untilResult` does not matter. -/
private theorem repeats_untilResult (hturn : UsesAnswer turn) {turns : Nat} {w : World}
    (hturns : w.console.answers.length < turns) :
    Repeats turn w ((untilResult turn turns).exec w) := by
  -- the bound goes down by one in each turn, and so do the answers at least
  induction turns generalizing w with
  | zero => omega
  | succ turns ih =>
    rw [exec_untilResult_succ]
    rcases h : turn.exec w with ⟨f | (_ | a), w'⟩
    · exact .fault h
    · have hfewer := hturn w w' h
      exact .again h (ih (by omega))
    · exact .done h

/-- `repeatTurn` does what the loop without a bound does, if its turns use up answers. -/
theorem repeats_repeatTurn (hturn : UsesAnswer turn) (w : World) :
    Repeats turn w ((repeatTurn turn).exec w) := by
  rw [exec_repeatTurn]
  exact repeats_untilResult hturn (Nat.lt_succ_self _)

/-- The result of `untilResult` is the result of one of its turns. -/
theorem exists_exec_of_untilResult {turns : Nat} {w w' : World} {a : α}
    (h : (untilResult turn turns).exec w = (.ok a, w')) :
    ∃ v, turn.exec v = (.ok (some a), w') := by
  induction turns generalizing w with
  | zero => cases h
  | succ turns ih =>
    rw [exec_untilResult_succ] at h
    -- the turn fails, gives no result, or gives the one that the loop ends with
    rcases hturn : turn.exec w with ⟨f | (_ | b), v⟩ <;> rw [hturn] at h
    · cases h
    · exact ih h
    · cases h
      exact ⟨w, hturn⟩

end Gamebook.Play
