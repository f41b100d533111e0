import RuntimeContracts.Logged

/-!
# Tests

A test answers yes or no about one value, and may leave entries in a log while it runs. Tests are
combined as truth values are: of two tests the second one runs only if the first leaves the answer
open.

* `Test.and`, `Test.or`, `Test.not`: the combinations.
* `Test.value_and`, `Test.log_and` and the like: their answers and their logs.
-/
namespace RuntimeContracts

/-- A question about a value of type `α` that may write entries of type `ε`. -/
abbrev Test (ε : Type u) (α : Type v) := α → Logged ε Bool

namespace Test

/-- A test that writes nothing. -/
def silent (p : α → Bool) : Test ε α := fun v => pure (p v)

/-- Writes an entry about the value, then answers as the test. -/
def probed (entry : α → ε) (p : Test ε α) : Test ε α := fun v => do
  Logged.entry (entry v)
  p v

/-- Both tests hold. The second one runs only after a yes of the first. -/
def and (p q : Test ε α) : Test ε α := fun v => do
  if ← p v then q v else return false

/-- One of the tests holds. The second one runs only after a no of the first. -/
def or (p q : Test ε α) : Test ε α := fun v => do
  if ← p v then return true else q v

/-- The test does not hold. -/
def not (p : Test ε α) : Test ε α := fun v => do
  let answer ← p v
  return !answer

/-! ## Answers and logs -/

@[simp] theorem value_silent (p : α → Bool) (v : α) :
    (silent p v : Logged ε Bool).value = p v := rfl

@[simp] theorem log_silent (p : α → Bool) (v : α) : (silent p v : Logged ε Bool).log = [] := rfl

@[simp] theorem value_and (p q : Test ε α) (v : α) :
    (p.and q v).value = ((p v).value && (q v).value) := by
  cases h : (p v).value <;> simp [and, h]

theorem log_and (p q : Test ε α) (v : α) :
    (p.and q v).log = (p v).log ++ if (p v).value then (q v).log else [] := by
  cases h : (p v).value <;> simp [and, h]

@[simp] theorem value_or (p q : Test ε α) (v : α) :
    (p.or q v).value = ((p v).value || (q v).value) := by
  cases h : (p v).value <;> simp [or, h]

theorem log_or (p q : Test ε α) (v : α) :
    (p.or q v).log = (p v).log ++ if (p v).value then [] else (q v).log := by
  cases h : (p v).value <;> simp [or, h]

@[simp] theorem value_not (p : Test ε α) (v : α) : (p.not v).value = !(p v).value := rfl

@[simp] theorem log_not (p : Test ε α) (v : α) : (p.not v).log = (p v).log :=
  List.append_nil (p v).log

end Test

end RuntimeContracts
