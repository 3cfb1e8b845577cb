import TableMachine.Condition

/-!
# Selection

Of several candidates the first whose condition data meets exactly wins, even over a wildcard match
that stands before it. Where there is none, the first candidate matched through a wildcard wins.
Candidates without a condition never win.
-/

namespace TableMachine

namespace Selection

variable {α : Type}

/-- Keeps the first wildcard match as the fallback of the candidates that follow. -/
def winnerOr (conditionOf : α → Option Condition) (data : Json) (fallback : Option α) :
    List α → Option α
  | [] => fallback
  | candidate :: rest =>
    match (conditionOf candidate).bind (·.grade? data) with
    | some .exact => some candidate
    | some .wildcard => winnerOr conditionOf data (fallback.or (some candidate)) rest
    | none => winnerOr conditionOf data fallback rest

def winner? (conditionOf : α → Option Condition) (data : Json) (candidates : List α) : Option α :=
  winnerOr conditionOf data none candidates

/-- The place of the winner among the candidates. -/
def place? (conditionOf : α → Option Condition) (data : Json) (candidates : List α) : Option Nat :=
  (winner? (fun candidate => conditionOf candidate.1) data candidates.zipIdx).map Prod.snd

end Selection

end TableMachine
