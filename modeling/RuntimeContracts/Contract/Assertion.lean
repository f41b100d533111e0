import RuntimeContracts.Contract.Test
import RuntimeContracts.Text.HasText
import RuntimeContracts.Text.Outline

/-!
# Assertions

An assertion is a test with a name under which it is found and a display name under which it is
cited. Every assertion has an inversion, which keeps the name and negates the test.

* `Assertion.invert`: the inversion of an assertion.
* `Assertion.inert`: the assertion handed out when nothing is checked.
-/
namespace RuntimeContracts

/-- A named test. -/
structure Assertion (ε : Type u) (α : Type v) where
  /-- The name under which the assertion is found. -/
  name : String
  /-- The name under which the assertion is cited. -/
  displayName : String
  /-- The assertion is the inversion of another one. -/
  isInverted : Bool
  test : Test ε α

namespace Assertion

/-- An assertion that is cited under its name. -/
def ofTest (name : String) (test : Test ε α) : Assertion ε α :=
  { name, displayName := name, isInverted := false, test }

/-- The same assertion, cited under another name. -/
def withDisplayName (displayName : String) (a : Assertion ε α) : Assertion ε α :=
  { a with displayName }

/-- The assertion that holds where this one does not. -/
def invert (a : Assertion ε α) : Assertion ε α :=
  { name := a.name
    displayName := "not " ++ a.displayName
    isInverted := !a.isInverted
    test := a.test.not }

/-- An assertion that stands in for the one of this name, or for its inversion, where nothing is
checked. It asks nothing of a value. -/
def inert (name : String) (inverted : Bool) : Assertion ε α :=
  let a := ofTest name (.silent fun _ => true)
  if inverted then a.invert else a

instance : HasText (Assertion ε α) := ⟨displayName⟩

instance : HasOutline (Assertion ε α) where
  outline a := .record "Assertion"
    [("name", .ofText a.name), ("display_name", .ofText a.displayName),
      ("inverted", .ofBool a.isInverted)] true

/-! ## What an inversion changes -/

@[simp] theorem name_invert (a : Assertion ε α) : a.invert.name = a.name := rfl

@[simp] theorem displayName_invert (a : Assertion ε α) :
    a.invert.displayName = "not " ++ a.displayName := rfl

@[simp] theorem isInverted_invert (a : Assertion ε α) : a.invert.isInverted = !a.isInverted := rfl

@[simp] theorem value_test_invert (a : Assertion ε α) (v : α) :
    (a.invert.test v).value = !(a.test v).value := rfl

@[simp] theorem log_test_invert (a : Assertion ε α) (v : α) :
    (a.invert.test v).log = (a.test v).log := Test.log_not a.test v

end Assertion

end RuntimeContracts
