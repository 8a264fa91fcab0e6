/-!
# Scripts

The world outside answers call by call, and nothing is known about an answer before the call is
made.  A script is one course of such answers: the first call gets answer 0, the next answer 1, and
so on.
-/
namespace ValidatorAlarm

structure Script (α : Type) where
  answer : Nat → α
  used : Nat

namespace Script

variable {α : Type}

/-- The answer to the next call, and the script after it. -/
def next (s : Script α) : Script α × α := (⟨s.answer, s.used + 1⟩, s.answer s.used)

/-- The same answer to every call. -/
def always (a : α) : Script α := ⟨fun _ => a, 0⟩

/-- The answers of a list, one per call.  The last one is given ever after; without any, the default
is given. -/
def ofList (default : α) (answers : List α) : Script α :=
  ⟨fun n => (answers[n]? <|> answers.getLast?).getD default, 0⟩

end Script

end ValidatorAlarm
