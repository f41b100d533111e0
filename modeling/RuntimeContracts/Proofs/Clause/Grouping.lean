import RuntimeContracts.Proofs.Clause.Outcome

/-!
# Clauses over composed tests

Tests can be combined before they are made into an assertion, or they can be made into assertions
each and put to a batch together. A must clause over several assertions is the same as one over a
single assertion whose test joins theirs by conjunction, and an either clause is the same as a must
clause over a single one whose test joins theirs by disjunction. It does not matter how the tests
are bracketed. Only what is cited differs.

* `Grouping`, `Grouping.members`: the ways to bracket a list that is not empty.
* `Grouping.combine`: the test that is composed in this way.
* `Batch.firstUnmet_append`, `Batch.anyMet_append`: the first part of a list is asked first, and
  the second one only if the first leaves the matter open.
* `Grouping.combine_and`, `Grouping.combine_or`: a composed test asks what the list is asked.
* `Batch.require_map`: clauses that judge each value alike, up to a change of the report.
* `Batch.clause_over_composed_test`: all of it together.
-/
namespace RuntimeContracts

/-- A way to bracket the members of a list that is not empty. -/
inductive Grouping (β : Type u) where
  | single (b : β)
  | join (left right : Grouping β)

namespace Grouping

/-- What is bracketed, in order. -/
def members : Grouping β → List β
  | single b => [b]
  | join left right => left.members ++ right.members

/-- The tests of the assertions, joined by an operation as they are bracketed. -/
def combine (op : Test ε α → Test ε α → Test ε α) : Grouping (Assertion ε α) → Test ε α
  | single a => a.test
  | join left right => op (left.combine op) (right.combine op)

end Grouping

variable {ε α : Type}

/-! ## One value -/

namespace Batch

theorem firstUnmet_append (v : α) (before after : List (Assertion ε α)) :
    firstUnmet v (before ++ after) = (do
      match ← firstUnmet v before with
      | some a => return some a
      | none => firstUnmet v after) := by
  induction before with
  | nil => rfl
  | cons a rest ih =>
    simp only [List.cons_append, firstUnmet, bind_assoc]
    congr 1
    funext answer
    cases answer with
    | true => exact ih
    | false => rfl

theorem anyMet_append (v : α) (before after : List (Assertion ε α)) :
    anyMet v (before ++ after) = (do
      if ← anyMet v before then return true else anyMet v after) := by
  induction before with
  | nil => rfl
  | cons a rest ih =>
    simp only [List.cons_append, anyMet, bind_assoc]
    congr 1
    funext answer
    cases answer with
    | true => rfl
    | false => exact ih

theorem firstUnmet_singleton (v : α) (a : Assertion ε α) :
    firstUnmet v [a] = (fun answer => if answer then none else some a) <$> a.test v := by
  rw [firstUnmet, map_eq_pure_bind]
  congr 1
  funext answer
  cases answer <;> rfl

theorem anyMet_singleton (v : α) (a : Assertion ε α) : anyMet v [a] = a.test v := by
  apply Logged.ext <;> cases h : (a.test v).value <;> simp [anyMet, h]

end Batch

namespace Grouping

open Batch (firstUnmet anyMet firstUnmet_append anyMet_append firstUnmet_singleton anyMet_singleton)

/-- A conjunction asks the members in order, and holds if none of them is unmet. -/
theorem combine_and (g : Grouping (Assertion ε α)) (v : α) :
    g.combine Test.and v = Option.isNone <$> firstUnmet v g.members := by
  induction g with
  | single a =>
    rw [combine, members, firstUnmet_singleton, ← comp_map]
    have hanswer : (Option.isNone ∘ fun answer => if answer then none else some a) = id := by
      funext answer
      cases answer <;> rfl
    rw [hanswer, id_map]
  | join left right ihl ihr =>
    rw [combine, members, firstUnmet_append, map_bind, Test.and, ihl, bind_map_left]
    congr 1
    -- the part on the right is asked only if the one on the left finds nothing
    funext found
    cases found with
    | none => exact ihr
    | some a => rfl

/-- A disjunction asks the members in order, and holds if one of them is met. -/
theorem combine_or (g : Grouping (Assertion ε α)) (v : α) :
    g.combine Test.or v = anyMet v g.members := by
  induction g with
  | single a => exact (anyMet_singleton v a).symm
  | join left right ihl ihr => rw [combine, members, anyMet_append, Test.or, ihl, ihr]

end Grouping

/-! ## Batches -/

namespace Batch

variable [HasText α] {clause clause' : Clause} {assertions assertions' : List (Assertion ε α)}
  {f : Violation → Violation}

theorem reportFrom_map
    (h : ∀ index v, judge clause' assertions' index v =
      Option.map f <$> judge clause assertions index v) (index : Nat) (vs : List α) :
    reportFrom clause' assertions' index vs =
      Option.map f <$> reportFrom clause assertions index vs := by
  induction vs generalizing index with
  | nil => rfl
  | cons v rest ih =>
    rw [reportFrom, reportFrom, h, bind_map_left, map_bind]
    congr 1
    funext found
    cases found with
    | none => exact ih (index + 1)
    | some r => rfl

/-- If two clauses judge each value alike, up to a change of the report, then so they do batches. -/
theorem require_map
    (h : ∀ index v, judge clause' assertions' index v =
      Option.map f <$> judge clause assertions index v) (b : Batch α) :
    b.require clause' assertions' = Except.mapError f <$> b.require clause assertions := by
  cases b with
  | exempt =>
    rw [require_exempt, require_exempt]
    rfl
  | bound vs =>
    rw [require_bound, require_bound, reportFrom_map h, ← comp_map, ← comp_map]
    congr 1
    funext found
    cases found <;> rfl

/-- What a must clause over a single assertion says about a value. -/
theorem judge_must_singleton (a : Assertion ε α) (index : Nat) (v : α) :
    judge .must [a] index v =
      (fun answer => if answer then none else some (violation .must index v [a])) <$> a.test v := by
  rw [judge, firstUnmet_singleton, ← map_eq_pure_bind, ← comp_map]
  congr 1
  funext answer
  cases answer <;> rfl

/-- **A clause over composed tests.** A must clause over assertions and one over the conjunction of
their tests run the same tests in the same order and pass the same batches, and their reports are
about the same value. The same is true of an either clause over assertions and a must clause over
the disjunction of their tests. The report on a composed test is that of a must clause and cites the
name of the composed assertion. -/
theorem clause_over_composed_test (b : Batch α) (g : Grouping (Assertion ε α)) (name : String) :
    let retold (r : Violation) : Violation := { r with clause := .must, cited := [name] }
    let all := Assertion.ofTest name (g.combine Test.and)
    let any := Assertion.ofTest name (g.combine Test.or)
    ((b.must [all]).log = (b.must g.members).log ∧
      (b.must [all]).value = (b.must g.members).value.mapError retold) ∧
    ((b.must [any]).log = (b.either g.members).log ∧
      (b.must [any]).value = (b.either g.members).value.mapError retold) := by
  intro retold all any
  -- it is enough to judge single values, and there both sides ask the same questions
  have hall : b.must [all] = Except.mapError retold <$> b.must g.members := by
    rw [← require_must, ← require_must]
    refine require_map (fun index v => ?_) b
    rw [judge_must_singleton]
    show _ <$> g.combine Test.and v = _
    rw [Grouping.combine_and, judge, ← map_eq_pure_bind, ← comp_map, ← comp_map]
    congr 1
    funext found
    cases found <;> rfl
  have hany : b.must [any] = Except.mapError retold <$> b.either g.members := by
    rw [← require_must, ← require_either]
    refine require_map (fun index v => ?_) b
    rw [judge_must_singleton]
    show _ <$> g.combine Test.or v = _
    rw [Grouping.combine_or, judge, ← map_eq_pure_bind, ← comp_map]
    congr 1
    funext met
    cases met <;> rfl
  rw [hall, hany]
  exact ⟨⟨Logged.log_map _ _, rfl⟩, ⟨Logged.log_map _ _, rfl⟩⟩

end Batch

end RuntimeContracts
