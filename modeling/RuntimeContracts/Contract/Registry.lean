import RuntimeContracts.Contract.Assertion
import RuntimeContracts.Contract.Error
import RuntimeContracts.SortedMap

/-!
# Registries

A registry holds assertions by name, each beside its inversion. Assertions are only ever added: a
name that is taken stays with the assertion that took it first.

* `Registry.insert`: adds an assertion, or refuses a name that is blank or taken.
* `Registry.insert_of_isBlank`, `Registry.insert_of_contains`, `Registry.insert_of_not_contains`:
  its three outcomes. Being blank weighs more than being taken.
-/
namespace RuntimeContracts

/-- Assertions and their inversions by name. -/
structure Registry (ε : Type u) (α : Type v) where
  base : SortedMap (Assertion ε α)
  inverted : SortedMap (Assertion ε α)

namespace Registry

def empty : Registry ε α := ⟨∅, ∅⟩

instance : Inhabited (Registry ε α) := ⟨empty⟩

/-- The assertion registered under a name. -/
def get? (r : Registry ε α) (name : String) : Option (Assertion ε α) := r.base.get? name

/-- The inversion of the assertion registered under a name. -/
def getInverted? (r : Registry ε α) (name : String) : Option (Assertion ε α) :=
  r.inverted.get? name

def contains (r : Registry ε α) (name : String) : Bool := r.base.contains name

/-- The registered names in ascending order. -/
def names (r : Registry ε α) : List String := r.base.keys

/-- The number of registered assertions, their inversions not counted. -/
def size (r : Registry ε α) : Nat := r.base.size

def isEmpty (r : Registry ε α) : Bool := r.base.isEmpty

/-- The registry with an assertion and its inversion added under the assertion's name. -/
def insert (r : Registry ε α) (a : Assertion ε α) : Except ContractError (Registry ε α) :=
  if Text.isBlank a.name then .error (.invalidName a.name)
  else if r.contains a.name then .error (.duplicateName a.name)
  else .ok ⟨r.base.insert a.name a, r.inverted.insert a.name a.invert⟩

/-! ## Outcomes of an insertion -/

theorem insert_of_isBlank {r : Registry ε α} {a : Assertion ε α} (h : Text.isBlank a.name = true) :
    r.insert a = .error (.invalidName a.name) := by
  simp [insert, h]

theorem insert_of_contains {r : Registry ε α} {a : Assertion ε α} (hb : Text.isBlank a.name = false)
    (hc : r.contains a.name = true) : r.insert a = .error (.duplicateName a.name) := by
  simp [insert, hb, hc]

/-- A name that is neither blank nor taken is accepted, and both maps gain an entry. -/
theorem insert_of_not_contains {r : Registry ε α} {a : Assertion ε α}
    (hb : Text.isBlank a.name = false) (hc : r.contains a.name = false) :
    r.insert a = .ok ⟨r.base.insert a.name a, r.inverted.insert a.name a.invert⟩ := by
  simp [insert, hb, hc]

theorem size_of_insert {r r' : Registry ε α} {a : Assertion ε α} (h : r.insert a = .ok r') :
    r'.size = r.size + 1 := by
  cases hb : Text.isBlank a.name with
  | true =>
    rw [insert_of_isBlank hb] at h
    cases h
  | false =>
    cases hc : r.contains a.name with
    | true =>
      rw [insert_of_contains hb hc] at h
      cases h
    | false =>
      rw [insert_of_not_contains hb hc] at h
      cases h
      exact SortedMap.size_insert hc

/-! ## Outline -/

/-- The entries of a map with the outlines of their values. -/
def mapOutline (map : SortedMap (Assertion ε α)) : Outline :=
  .table (map.entries.map fun e => (e.1, outline e.2))

instance : HasOutline (Registry ε α) where
  outline r := .record "Registry"
    [("base", mapOutline r.base), ("inverted", mapOutline r.inverted)] false

end Registry

end RuntimeContracts
