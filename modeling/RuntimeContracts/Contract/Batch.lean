import RuntimeContracts.Contract.Assertion
import RuntimeContracts.Contract.Violation

/-!
# Batches

A batch holds the values that a contract is about, in order. Clauses put assertions to them and
stop at the first value that fails. An exempt batch holds nothing and keeps every clause without
running a test.

* `Batch.must`: every assertion for every value.
* `Batch.either`: one of the assertions for every value.
* `Batch.value_firstUnmet`, `Batch.value_anyMet`: what is found about one value.
* `Batch.require_exempt`: an exempt batch keeps every clause.
-/
namespace RuntimeContracts

/-- Values that clauses are put to. -/
inductive Batch (α : Type u) where
  | bound (values : List α)
  /-- Nothing is checked. -/
  | exempt
deriving DecidableEq

namespace Batch

/-- The values of a batch, none if it is exempt. -/
def values : Batch α → List α
  | bound values => values
  | exempt => []

/-- Clauses on this batch run tests. -/
def isActive : Batch α → Bool
  | bound _ => true
  | exempt => false

def size (b : Batch α) : Nat := b.values.length

def isEmpty (b : Batch α) : Bool := b.values.isEmpty

/-- Batches are equal when both are exempt or their values are equal one by one. -/
def beq [BEq α] : Batch α → Batch α → Bool
  | bound as, bound bs => as == bs
  | exempt, exempt => true
  | _, _ => false

instance [BEq α] : BEq (Batch α) := ⟨beq⟩

/-! ## Clauses -/

/-- The first assertion that does not hold for a value. Those behind it are not asked. -/
def firstUnmet (v : α) : List (Assertion ε α) → Logged ε (Option (Assertion ε α))
  | [] => pure none
  | a :: rest => do
    if ← a.test v then firstUnmet v rest else return some a

/-- One of the assertions holds for a value. Those behind it are not asked. -/
def anyMet (v : α) : List (Assertion ε α) → Logged ε Bool
  | [] => pure false
  | a :: rest => do
    if ← a.test v then return true else anyMet v rest

/-- The report about a value. -/
def violation [HasText α] (clause : Clause) (index : Nat) (v : α)
    (assertions : List (Assertion ε α)) : Violation :=
  { clause, index, value := HasText.text v, cited := assertions.map (·.displayName) }

/-- The first violation of a must clause among values that are counted from `index`. -/
def mustFrom [HasText α] (assertions : List (Assertion ε α)) (index : Nat) :
    List α → Logged ε (Option Violation)
  | [] => pure none
  | v :: rest => do
    match ← firstUnmet v assertions with
    | some a => return some (violation .must index v [a])
    | none => mustFrom assertions (index + 1) rest

/-- The first violation of an either clause among values that are counted from `index`. -/
def eitherFrom [HasText α] (assertions : List (Assertion ε α)) (index : Nat) :
    List α → Logged ε (Option Violation)
  | [] => pure none
  | v :: rest => do
    if ← anyMet v assertions then eitherFrom assertions (index + 1) rest
    else return some (violation .either index v assertions)

/-- The batch itself, if there is no violation. -/
def orViolation (b : Batch α) : Option Violation → Except Violation (Batch α)
  | none => .ok b
  | some v => .error v

/-- Every assertion has to hold for every value. Values are visited in order, and for each of
them the assertions in order. Without assertions every batch passes. -/
def must [HasText α] (b : Batch α) (assertions : List (Assertion ε α)) :
    Logged ε (Except Violation (Batch α)) :=
  match b with
  | exempt => pure (.ok b)
  | bound values => b.orViolation <$> mustFrom assertions 0 values

/-- One of the assertions has to hold for every value. A value stops at the first assertion that
holds, and one for which none does fails them all. Without assertions the first value fails. -/
def either [HasText α] (b : Batch α) (assertions : List (Assertion ε α)) :
    Logged ε (Except Violation (Batch α)) :=
  match b with
  | exempt => pure (.ok b)
  | bound values => b.orViolation <$> eitherFrom assertions 0 values

/-- The clause of either kind. -/
def require [HasText α] (b : Batch α) (clause : Clause) (assertions : List (Assertion ε α)) :
    Logged ε (Except Violation (Batch α)) :=
  match clause with
  | .must => b.must assertions
  | .either => b.either assertions

/-! ## What a clause finds -/

/-- The first assertion that is not met is the first one whose test says no. -/
theorem value_firstUnmet (v : α) (assertions : List (Assertion ε α)) :
    (firstUnmet v assertions).value = assertions.find? fun a => !(a.test v).value := by
  induction assertions with
  | nil => rfl
  | cons a rest ih => cases h : (a.test v).value <;> simp [firstUnmet, h, ih]

theorem value_anyMet (v : α) (assertions : List (Assertion ε α)) :
    (anyMet v assertions).value = assertions.any fun a => (a.test v).value := by
  induction assertions with
  | nil => rfl
  | cons a rest ih => cases h : (a.test v).value <;> simp [anyMet, h, ih]

/-- An exempt batch keeps every clause, and no test runs. -/
theorem require_exempt [HasText α] (clause : Clause) (assertions : List (Assertion ε α)) :
    (exempt : Batch α).require clause assertions = pure (.ok exempt) := by
  cases clause <;> rfl

/-! ## Outline -/

instance [HasOutline α] : HasOutline (Batch α) where
  outline
    | bound values => .tuple "Active" [.list (values.map outline)]
    | exempt => .unit "Disabled"

end Batch

end RuntimeContracts
