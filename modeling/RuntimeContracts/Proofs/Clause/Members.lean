import RuntimeContracts.Proofs.Clause.Outcome
import RuntimeContracts.Value.Text

/-!
# The assertions of a clause as a set

In which order the assertions of a clause are listed, and how often, decides which tests are run
and which assertion a must clause cites. It does not decide whether the clause is kept or which
value is reported: there the list counts as a set. More assertions make a must clause harder to keep
and an either clause easier.

* `Batch.Keeps.must_of_subset`, `Batch.Keeps.either_of_subset`: a value and more or fewer
  assertions.
* `Batch.keeps_iff_of_mem_iff`: a value and the same assertions in another list.
* `Batch.outcome_by_members`: the law for batches.
-/
namespace RuntimeContracts.Batch

variable {ε α : Type} {first second : List (Assertion ε α)}

/-! ## One value -/

theorem Keeps.must_of_subset {v : α} (hsub : first ⊆ second) (h : Keeps .must second v) :
    Keeps .must first v :=
  fun a ha => h a (hsub ha)

theorem Keeps.either_of_subset {v : α} (hsub : first ⊆ second) (h : Keeps .either first v) :
    Keeps .either second v := by
  obtain ⟨a, ha, hholds⟩ := h
  exact ⟨a, hsub ha, hholds⟩

theorem keeps_iff_of_mem_iff (hmem : ∀ a, a ∈ first ↔ a ∈ second) (clause : Clause) (v : α) :
    Keeps clause first v ↔ Keeps clause second v := by
  have hsub : first ⊆ second := fun a => (hmem a).1
  have hsup : second ⊆ first := fun a => (hmem a).2
  cases clause with
  | must => exact ⟨.must_of_subset hsup, .must_of_subset hsub⟩
  | either => exact ⟨.either_of_subset hsub, .either_of_subset hsup⟩

/-! ## Batches -/

/-- **The assertions of a clause count as a set.** Over lists with the same members a clause is kept
by the same batches, and it fails at the same value. If all members of a list are members of another
one, a must clause that fails over the first list fails over the second one and no later, and an
either clause that fails over the second list fails over the first one and no later. -/
theorem outcome_by_members [HasText α] (b : Batch α) (first second : List (Assertion ε α)) :
    ((∀ a, a ∈ first ↔ a ∈ second) → ∀ clause,
      ((b.require clause first).value = .ok b ↔ (b.require clause second).value = .ok b) ∧
      ∀ r, (b.require clause first).value = .error r →
        ∃ r', (b.require clause second).value = .error r' ∧
          r'.index = r.index ∧ r'.value = r.value) ∧
    ((∀ a ∈ first, a ∈ second) →
      (∀ r, (b.must first).value = .error r →
        ∃ r', (b.must second).value = .error r' ∧ r'.index ≤ r.index) ∧
      ∀ r, (b.either second).value = .error r →
        ∃ r', (b.either first).value = .error r' ∧ r'.index ≤ r.index) := by
  constructor
  · intro hmem clause
    have hkeeps := keeps_iff_of_mem_iff hmem clause
    constructor
    · simp only [value_require_eq_ok_iff, hkeeps]
    · exact fun r => exists_error_of_iff hkeeps
  · intro hsub
    simp only [← require_must, ← require_either]
    constructor
    · exact fun r => exists_error_of_imp fun v => Keeps.must_of_subset hsub
    · exact fun r => exists_error_of_imp fun v => Keeps.either_of_subset hsub

/-- The same two assertions in another order, one of them twice, blame the same value. They do not
cite the same assertion. -/
theorem outcome_by_members_of_repeated :
    let text : Assertion Unit Value := .ofTest "text" (.silent Value.isString)
    let known : Assertion Unit Value := .ofTest "known" (.silent Value.isPresent)
    let b : Batch Value := bound [.string "x", .null, .undefined]
    (∀ a, a ∈ [text, known] ↔ a ∈ [known, text, known]) ∧
    ∃ r r', (b.must [text, known]).value = .error r ∧
      (b.must [known, text, known]).value = .error r' ∧ r'.index = r.index ∧ r'.value = r.value ∧
      r.cited = ["text"] ∧ r'.cited = ["known"] := by
  intro text known b
  have hmem : ∀ a, a ∈ [text, known] ↔ a ∈ [known, text, known] := by
    intro a
    simp only [List.mem_cons, List.not_mem_nil, or_false]
    grind
  have hr : (b.must [text, known]).value = .error ⟨.must, 1, "null", ["text"]⟩ := rfl
  have hr' : (b.must [known, text, known]).value = .error ⟨.must, 1, "null", ["known"]⟩ := rfl
  obtain ⟨r', hsecond, hindex, hvalue⟩ :=
    ((outcome_by_members b [text, known] [known, text, known]).1 hmem .must).2 _ hr
  refine ⟨hmem, _, r', hr, hsecond, hindex, hvalue, rfl, ?_⟩
  obtain rfl : Violation.mk .must 1 "null" ["known"] = r' :=
    Except.error.inj (hr'.symm.trans hsecond)
  rfl

end RuntimeContracts.Batch
