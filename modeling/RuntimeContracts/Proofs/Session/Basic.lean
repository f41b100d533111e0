import RuntimeContracts.Checker.Basic

/-!
# Sessions

A session is a checker in use, with the batches that it has bound so far. Its user registers
assertions, throws the switch, looks assertions up, binds values, and puts clauses to the batches,
in any order. A batch does not know its checker, so that clauses can be put to it at any time.

* `Session.step`, `Session.run`: the session after an action, and after a list of them, with the
  events that were traced on the way.
* `Session.value_step_require`: a clause leaves the session as it is.
-/
namespace RuntimeContracts

/-- A checker and its batches, in the order in which they were bound. -/
structure Session (ε α : Type) where
  checker : Checker ε α
  batches : List (Batch α)

namespace Session

/-- Something that a user does. -/
inductive Action (ε α : Type) where
  | register (a : Assertion ε α)
  | registerTest (name : String) (test : Test ε α)
  /-- Registers up to the first that is refused, as the default assertions are registered. -/
  | registerAll (assertions : List (Assertion ε α))
  | disable
  /-- Looks up the assertion of a name, or its inversion. -/
  | lookup (name : String) (inverted : Bool)
  | bind (values : List α)
  /-- Puts a clause to the batch at a place. The assertions may come from anywhere. -/
  | require (place : Nat) (clause : Clause) (assertions : List (Assertion ε α))

variable {ε α : Type} [HasText α]

/-- The session after an action. A clause changes nothing, but a violation is traced. -/
def step (s : Session ε α) : Action ε α → Traced (Session ε α)
  | .register a => do return { s with checker := (← s.checker.register a).2 }
  | .registerTest name test => do return { s with checker := (← s.checker.registerTest name test).2 }
  | .registerAll assertions => do return { s with checker := (← s.checker.registerAll assertions).2 }
  | .disable => do return { s with checker := ← s.checker.disable }
  | .lookup _ _ => pure s
  | .bind values => pure { s with batches := s.batches ++ [s.checker.bind values] }
  | .require place clause assertions =>
    match s.batches[place]? with
    | some b => ⟨s, Event.ofClause (b.require clause assertions).value⟩
    | none => pure s

/-- The session after a list of actions. -/
def run (s : Session ε α) : List (Action ε α) → Traced (Session ε α)
  | [] => pure s
  | x :: rest => do (← s.step x).run rest

/-! ## Clauses in a session -/

theorem step_require_of_some {s : Session ε α} {place : Nat} {b : Batch α}
    (h : s.batches[place]? = some b) (clause : Clause) (assertions : List (Assertion ε α)) :
    s.step (.require place clause assertions) =
      ⟨s, Event.ofClause (b.require clause assertions).value⟩ := by
  simp only [step, h]

theorem step_require_of_none {s : Session ε α} {place : Nat} (h : s.batches[place]? = none)
    (clause : Clause) (assertions : List (Assertion ε α)) :
    s.step (.require place clause assertions) = pure s := by
  simp only [step, h]

/-- A clause leaves the session as it is. -/
theorem value_step_require (s : Session ε α) (place : Nat) (clause : Clause)
    (assertions : List (Assertion ε α)) :
    (s.step (.require place clause assertions)).value = s := by
  cases h : s.batches[place]? with
  | none => rw [step_require_of_none h, Logged.value_pure]
  | some b => rw [step_require_of_some h]

end Session

end RuntimeContracts
