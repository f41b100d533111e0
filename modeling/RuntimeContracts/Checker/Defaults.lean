import RuntimeContracts.Checker.Setup
import RuntimeContracts.Value.Basic

/-!
# Default assertions

Seven assertions about the kind of a value come with the library.

* `defaultAssertions`: the assertions in the order of their registration.
* `Checker.registerDefaults`, `Checker.withDefaults`, `Setup.withDefaults`: their registration.
-/
namespace RuntimeContracts

/-- The names of the default assertions, in the order of their registration. -/
def defaultNames : List String :=
  ["number", "string", "boolean", "array", "null", "undefined", "exists"]

/-- The default assertions, in the order of their registration. -/
def defaultAssertions : List (Assertion ε Value) :=
  [.ofTest "number" (.silent Value.isNumber),
    .ofTest "string" (.silent Value.isString),
    .ofTest "boolean" (.silent Value.isBoolean),
    .ofTest "array" (.silent Value.isArray),
    .ofTest "null" (.silent Value.isNull),
    .ofTest "undefined" (.silent Value.isUndefined),
    .ofTest "exists" (.silent Value.isPresent)]

theorem map_name_defaultAssertions :
    (defaultAssertions : List (Assertion ε Value)).map (·.name) = defaultNames := rfl

/-- Registers the default assertions, up to the first whose name is taken. -/
def Checker.registerDefaults (c : Checker ε Value) :
    Traced (Except ContractError Unit × Checker ε Value) :=
  c.registerAll defaultAssertions

/-- An enabled checker with the default assertions. -/
def Checker.withDefaults : Traced (Checker ε Value) :=
  Checker.new.registerEach defaultAssertions

/-- Queues the default assertions. -/
def Setup.withDefaults (s : Setup ε Value) : Setup ε Value :=
  defaultAssertions.foldl Setup.withAssertion s

end RuntimeContracts
