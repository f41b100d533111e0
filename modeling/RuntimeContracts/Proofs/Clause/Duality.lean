import Mathlib.Order.Bounds.Basic
import RuntimeContracts.Proofs.Clause.Outcome

/-!
# Duality of the two clauses

A value keeps a must clause over some assertions just in case it breaks the either clause over
their inversions, and the other way round. The tests that find it out are the same ones: a must
clause stops at the first assertion that does not hold, and there its inversion holds, at which an
either clause stops.

On a batch the two clauses stop at different values, so the law for batches is about the clause on
the one hand, and its dual on each of the values alone on the other hand.

* `Clause.dual`: the other clause.
* `Batch.keeps_dual_iff`, `Batch.asking_dual`: what the dual clause over the inversions finds out
  about a value, and what it asks for that.
* `Batch.dual_clause_over_inversions`: the law for one value and for batches.
-/
namespace RuntimeContracts

/-- The other clause. -/
def Clause.dual : Clause → Clause
  | must => either
  | either => must

namespace Batch

variable {ε α : Type}

/-! ## One value -/

theorem exists_holds_invert_iff {assertions : List (Assertion ε α)} {v : α} :
    (∃ a ∈ assertions.map Assertion.invert, a.Holds v) ↔ ¬ ∀ a ∈ assertions, a.Holds v := by
  simp only [List.mem_map, exists_exists_and_eq_and, Assertion.holds_invert_iff,
    Classical.not_forall, exists_prop]

theorem forall_holds_invert_iff {assertions : List (Assertion ε α)} {v : α} :
    (∀ a ∈ assertions.map Assertion.invert, a.Holds v) ↔ ¬ ∃ a ∈ assertions, a.Holds v := by
  simp only [List.forall_mem_map, Assertion.holds_invert_iff, not_exists, not_and]

theorem keeps_dual_iff {clause : Clause} {assertions : List (Assertion ε α)} {v : α} :
    Keeps clause.dual (assertions.map Assertion.invert) v ↔ ¬ Keeps clause assertions v := by
  cases clause with
  | must => exact exists_holds_invert_iff
  | either => exact forall_holds_invert_iff

/-- The inversions are asked in the place of the assertions, up to the same place. -/
theorem asking_dual (clause : Clause) (assertions : List (Assertion ε α)) (v : α) :
    asking clause.dual (assertions.map Assertion.invert) v = asking clause assertions v := by
  cases clause with
  | must =>
    show (anyMet v (assertions.map Assertion.invert)).log = (firstUnmet v assertions).log
    induction assertions with
    | nil => rfl
    | cons a rest ih => cases h : (a.test v).value <;> simp [firstUnmet, anyMet, h, ih]
  | either =>
    show (firstUnmet v (assertions.map Assertion.invert)).log = (anyMet v assertions).log
    induction assertions with
    | nil => rfl
    | cons a rest ih => cases h : (a.test v).value <;> simp [firstUnmet, anyMet, h, ih]

/-! ## Batches -/

variable [HasText α]

/-- **De Morgan duality of the two clauses.** A clause fails on a value alone just in case the dual
clause over the inversions is kept by it, and both run the same tests in the same order. A batch
keeps a clause just in case the dual clause fails on each of its values, and otherwise the clause
reports the least place whose value keeps the dual clause. -/
theorem dual_clause_over_inversions (clause : Clause) (assertions : List (Assertion ε α))
    (vs : List α) :
    let inversions := assertions.map Assertion.invert
    (∀ v,
      ((∃ r, ((bound [v]).require clause assertions).value = .error r) ↔
        ((bound [v]).require clause.dual inversions).value = .ok (bound [v])) ∧
      ((bound [v]).require clause assertions).log =
        ((bound [v]).require clause.dual inversions).log) ∧
    (((bound vs).require clause assertions).value = .ok (bound vs) ↔
      ∀ v ∈ vs, ∃ r, ((bound [v]).require clause.dual inversions).value = .error r) ∧
    ((∃ r, ((bound vs).require clause assertions).value = .error r) ↔
      ∃ v ∈ vs, ((bound [v]).require clause.dual inversions).value = .ok (bound [v])) ∧
    ∀ r, ((bound vs).require clause assertions).value = .error r →
      IsLeast
        {i | ∃ v, vs[i]? = some v ∧
          ((bound [v]).require clause.dual inversions).value = .ok (bound [v])}
        r.index := by
  intro inversions
  -- the dual clause on a value alone
  have hkept : ∀ v, ((bound [v]).require clause.dual inversions).value = .ok (bound [v]) ↔
      ¬ Keeps clause assertions v := by
    intro v
    rw [value_require_eq_ok_iff, values_bound, List.forall_mem_singleton, keeps_dual_iff]
  have hbroken : ∀ v, (∃ r, ((bound [v]).require clause.dual inversions).value = .error r) ↔
      Keeps clause assertions v := by
    intro v
    simp only [exists_error_iff, values_bound, List.mem_singleton, exists_eq_left]
    rw [keeps_dual_iff, Classical.not_not]
  refine ⟨fun v => ⟨?_, ?_⟩, ?_, ?_, ?_⟩
  · rw [hkept, exists_error_iff]
    simp only [values_bound, List.mem_singleton, exists_eq_left]
  · rw [log_require_singleton, log_require_singleton, asking_dual]
  · simp only [value_require_eq_ok_iff, values_bound, hbroken]
  · simp only [exists_error_iff, values_bound, hkept]
  · intro r hr
    obtain ⟨i, v, hfirst, rfl⟩ := value_require_eq_error_iff.1 hr
    constructor
    · exact ⟨v, hfirst.value, (hkept v).2 hfirst.unkept⟩
    · rintro j ⟨w, hw, hdual⟩
      rcases Nat.lt_or_ge j i with hlt | hle
      · exact absurd (hfirst.earlier j w hlt hw) ((hkept w).1 hdual)
      · exact hle

end Batch

end RuntimeContracts
