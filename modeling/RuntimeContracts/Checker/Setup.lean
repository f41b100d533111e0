import RuntimeContracts.Checker.Basic

/-!
# Setups

A setup collects what a checker starts with: assertions in a queue, and whether it checks at all.
The switch is thrown before the queue is registered, wherever it was set.

* `Setup.build`: the checker of a setup.
-/
namespace RuntimeContracts

/-- What a checker starts with. -/
structure Setup (ε : Type u) (α : Type v) where
  enabled : Bool := true
  queue : List (Assertion ε α) := []

namespace Setup

def new : Setup ε α := {}

instance : Inhabited (Setup ε α) := ⟨new⟩

/-- Says whether the checker checks anything. -/
def withEnabled (s : Setup ε α) (enabled : Bool) : Setup ε α := { s with enabled }

/-- Queues an assertion. -/
def withAssertion (s : Setup ε α) (a : Assertion ε α) : Setup ε α :=
  { s with queue := s.queue ++ [a] }

/-- Queues a test under a name. -/
def withTest (s : Setup ε α) (name : String) (test : Test ε α) : Setup ε α :=
  s.withAssertion (.ofTest name test)

/-- The checker of a setup, or the error of the first assertion in the queue that is refused. -/
def build (s : Setup ε α) : Traced (Except ContractError (Checker ε α)) := do
  let start ← if s.enabled then pure .new else Checker.new.disable
  let (answer, c) ← start.registerAll s.queue
  return answer.map fun _ => c

instance : HasOutline (Setup ε α) where
  outline s := .record "InsureBuilder"
    [("enabled", .ofBool s.enabled), ("assertions", .list (s.queue.map outline))] false

end Setup

end RuntimeContracts
