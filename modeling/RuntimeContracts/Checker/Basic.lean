import RuntimeContracts.Checker.Event
import RuntimeContracts.Contract.Batch
import RuntimeContracts.Contract.Registry
import RuntimeContracts.Logged

/-!
# Checkers

A checker owns a registry and a switch. While it is enabled it registers assertions, looks them
up and binds values into batches. Once it is disabled it stays so: registrations are skipped,
every look-up succeeds and every batch is exempt.

* `Checker.register`: one registration, traced.
* `Checker.registerAll`: registrations up to the first that is refused.
* `Checker.lookup`: the assertion of a name, or its inversion.
* `Checker.disable`: the switch.
* `Checker.register_of_insert_ok`, `Checker.register_of_insert_error`: the two outcomes of a
  registration while the checker is enabled.
* `Checker.register_of_disabled`, `Checker.lookup_of_disabled`, `Checker.bind_of_disabled`: what is
  left of a checker that is switched off.
-/
namespace RuntimeContracts

/-- A result with the events that were traced on the way to it. -/
abbrev Traced (β : Type u) := Logged Event β

/-- A registry and a switch. -/
structure Checker (ε : Type u) (α : Type v) where
  registry : Registry ε α
  enabled : Bool

namespace Checker

/-- An enabled checker without assertions. -/
def new : Checker ε α := ⟨.empty, true⟩

instance : Inhabited (Checker ε α) := ⟨new⟩

def contains (c : Checker ε α) (name : String) : Bool := c.registry.contains name

/-- The registered names in ascending order. -/
def names (c : Checker ε α) : List String := c.registry.names

/-- The number of registered assertions, their inversions not counted. -/
def size (c : Checker ε α) : Nat := c.registry.size

def isEmpty (c : Checker ε α) : Bool := c.registry.isEmpty

/-! ## Registration -/

/-- Registers an assertion. The answer is given with the checker as it is afterwards, which is
the same one if the assertion is refused, or skipped because nothing is checked. -/
def register (c : Checker ε α) (a : Assertion ε α) :
    Traced (Except ContractError Unit × Checker ε α) :=
  if !c.enabled then pure (.ok (), c)
  else
    let outcome := c.registry.insert a
    let answer := match outcome with
      | .ok registry => (.ok (), { c with registry })
      | .error e => (.error e, c)
    ⟨answer, [Event.ofRegistration a.name outcome]⟩

/-- Registers a test under a name. -/
def registerTest (c : Checker ε α) (name : String) (test : Test ε α) :
    Traced (Except ContractError Unit × Checker ε α) :=
  c.register (.ofTest name test)

/-- Registers assertions one after another, up to the first that is refused. -/
def registerAll (c : Checker ε α) :
    List (Assertion ε α) → Traced (Except ContractError Unit × Checker ε α)
  | [] => pure (.ok (), c)
  | a :: rest => do
    match ← c.register a with
    | (.ok (), c') => registerAll c' rest
    | (.error e, c') => return (.error e, c')

/-- Registers assertions one after another and passes over those that are refused. -/
def registerEach (c : Checker ε α) : List (Assertion ε α) → Traced (Checker ε α)
  | [] => pure c
  | a :: rest => do
    let (_, c') ← c.register a
    registerEach c' rest

/-! ## Use -/

/-- The assertion registered under a name, or its inversion. A disabled checker knows every name
and answers with an inert assertion. -/
def lookup (c : Checker ε α) (name : String) (inverted : Bool) :
    Except ContractError (Assertion ε α) :=
  if !c.enabled then .ok (.inert name inverted)
  else
    match if inverted then c.registry.getInverted? name else c.registry.get? name with
    | some a => .ok a
    | none => .error (.unknownAssertion name)

/-- The assertion registered under a name. -/
def assertion (c : Checker ε α) (name : String) : Except ContractError (Assertion ε α) :=
  c.lookup name false

/-- The inversion of the assertion registered under a name. -/
def negation (c : Checker ε α) (name : String) : Except ContractError (Assertion ε α) :=
  c.lookup name true

/-- Binds values into a batch. A disabled checker leaves them alone. -/
def bind (c : Checker ε α) (values : List α) : Batch α :=
  if c.enabled then .bound values else .exempt

/-- Switches checking off, for good. Only the first time is traced. -/
def disable (c : Checker ε α) : Traced (Checker ε α) :=
  ⟨{ c with enabled := false }, if c.enabled then [.disabled c.size] else []⟩

/-! ## An enabled checker -/

/-- An enabled checker goes on with the registry that it gets, and says so. -/
theorem register_of_insert_ok {c : Checker ε α} {a : Assertion ε α} {r : Registry ε α}
    (h : c.enabled = true) (hr : c.registry.insert a = .ok r) :
    c.register a = ⟨(.ok (), ⟨r, true⟩), [.registered a.name]⟩ := by
  simp [register, h, hr, Event.ofRegistration]

/-- An enabled checker reports a refusal, and stays as it is. -/
theorem register_of_insert_error {c : Checker ε α} {a : Assertion ε α} {e : ContractError}
    (h : c.enabled = true) (hr : c.registry.insert a = .error e) :
    c.register a = ⟨(.error e, c), [.rejected a.name e]⟩ := by
  simp [register, h, hr, Event.ofRegistration]

/-! ## A disabled checker -/

@[simp] theorem enabled_disable (c : Checker ε α) : c.disable.value.enabled = false := rfl

@[simp] theorem registry_disable (c : Checker ε α) : c.disable.value.registry = c.registry := rfl

theorem register_of_disabled {c : Checker ε α} (h : c.enabled = false) (a : Assertion ε α) :
    c.register a = pure (.ok (), c) := by
  simp [register, h]

theorem lookup_of_disabled {c : Checker ε α} (h : c.enabled = false) (name : String)
    (inverted : Bool) : c.lookup name inverted = .ok (.inert name inverted) := by
  simp [lookup, h]

theorem bind_of_disabled {c : Checker ε α} (h : c.enabled = false) (values : List α) :
    c.bind values = .exempt := by
  simp [bind, h]

/-! ## Outline -/

instance : HasOutline (Checker ε α) where
  outline c := .record "Insure"
    [("registry", outline c.registry), ("enabled", .ofBool c.enabled)] false

end Checker

end RuntimeContracts
