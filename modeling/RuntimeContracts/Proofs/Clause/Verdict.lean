import RuntimeContracts.Contract.Batch

/-!
# Verdicts of clauses

Both clauses go through the values of a batch in order and stop at the first one that does not
keep them. What a clause asks of a single value, and what it says about it, is `Batch.judge`; the
way through the batch is `Batch.reportFrom`, which is the same for both clauses.

* `Batch.Keeps`, `Batch.blamed`: when a value keeps a clause, and what is cited when it does not.
* `Batch.find?_unmet_eq_none_iff`: a must clause is kept if no assertion is unmet.
* `Batch.judge_of_keeps`, `Batch.judge_of_not_keeps`: what a clause finds out about one value.
* `Batch.require_bound`: a clause is the way through the batch with its judgement of one value.
* `Batch.require_of_keeps`, `Batch.require_of_not_keeps`: the verdict on a whole batch, with the
  log of the tests that ran.
* `all_or_first_not`: the two cases are all there is.
-/
namespace RuntimeContracts

/-- The test of an assertion says yes to a value. -/
abbrev Assertion.Holds (a : Assertion ε α) (v : α) : Prop := (a.test v).value = true

theorem Assertion.holds_invert_iff {a : Assertion ε α} {v : α} :
    a.invert.Holds v ↔ ¬ a.Holds v := by
  rw [Holds, Holds, value_test_invert, Bool.not_eq_true', Bool.not_eq_true]

/-- All members of a list have a property, or there is a first one that has not. -/
theorem all_or_first_not (p : β → Prop) (xs : List β) :
    (∀ x ∈ xs, p x) ∨
      ∃ before x after, xs = before ++ x :: after ∧ (∀ y ∈ before, p y) ∧ ¬ p x := by
  induction xs with
  | nil =>
    left
    intro x hx
    cases hx
  | cons x rest ih =>
    by_cases hx : p x
    · rcases ih with hall | ⟨before, y, after, rfl, hbefore, hy⟩
      · exact .inl (List.forall_mem_cons.2 ⟨hx, hall⟩)
      · exact .inr ⟨x :: before, y, after, rfl, List.forall_mem_cons.2 ⟨hx, hbefore⟩, hy⟩
    · refine .inr ⟨[], x, rest, rfl, ?_, hx⟩
      intro y hy
      cases hy

namespace Batch

/-! ## One value -/

/-- A value keeps a clause: all assertions hold for it, or one of them does. -/
def Keeps (clause : Clause) (assertions : List (Assertion ε α)) (v : α) : Prop :=
  match clause with
  | .must => ∀ a ∈ assertions, a.Holds v
  | .either => ∃ a ∈ assertions, a.Holds v

/-- The assertions that are cited when a value does not keep a clause. -/
def blamed (clause : Clause) (assertions : List (Assertion ε α)) (v : α) :
    List (Assertion ε α) :=
  match clause with
  | .must => (assertions.find? fun a => !(a.test v).value).toList
  | .either => assertions

/-- No assertion is unmet just in case all of them hold. -/
theorem find?_unmet_eq_none_iff {assertions : List (Assertion ε α)} {v : α} :
    (assertions.find? fun a => !(a.test v).value) = none ↔ Keeps .must assertions v := by
  rw [List.find?_eq_none]
  simp only [Keeps, Bool.not_eq_true', Bool.not_eq_false]

theorem isSome_find?_unmet_iff {assertions : List (Assertion ε α)} {v : α} :
    (assertions.find? fun a => !(a.test v).value).isSome = true ↔ ¬ Keeps .must assertions v := by
  rw [Option.isSome_iff_ne_none, Ne, find?_unmet_eq_none_iff]

/-- The log of what a clause asks of a value. -/
def asking (clause : Clause) (assertions : List (Assertion ε α)) (v : α) : List ε :=
  match clause with
  | .must => (firstUnmet v assertions).log
  | .either => (anyMet v assertions).log

/-- What a clause says about the value at a place of a batch. -/
def judge [HasText α] (clause : Clause) (assertions : List (Assertion ε α)) (index : Nat) (v : α) :
    Logged ε (Option Violation) :=
  match clause with
  | .must => do return (← firstUnmet v assertions).map fun a => violation .must index v [a]
  | .either => do
    return if ← anyMet v assertions then none else some (violation .either index v assertions)

theorem log_judge [HasText α] (clause : Clause) (assertions : List (Assertion ε α))
    (index : Nat) (v : α) :
    (judge clause assertions index v).log = asking clause assertions v := by
  cases clause <;> simp [judge, asking]

theorem judge_of_keeps [HasText α] {clause : Clause} {assertions : List (Assertion ε α)} {v : α}
    (h : Keeps clause assertions v) (index : Nat) :
    judge clause assertions index v = ⟨none, asking clause assertions v⟩ := by
  refine Logged.ext ?_ (log_judge clause assertions index v)
  cases clause with
  | must =>
    have hfind : (firstUnmet v assertions).value = none := by
      rw [value_firstUnmet]
      exact find?_unmet_eq_none_iff.2 h
    simp only [judge, Logged.value_bind, Logged.value_pure, hfind, Option.map_none]
  | either =>
    have hmet : (anyMet v assertions).value = true := by
      rw [value_anyMet, List.any_eq_true]
      exact h
    simp only [judge, Logged.value_bind, Logged.value_pure, hmet, if_true]

theorem judge_of_not_keeps [HasText α] {clause : Clause} {assertions : List (Assertion ε α)}
    {v : α} (h : ¬ Keeps clause assertions v) (index : Nat) :
    judge clause assertions index v =
      ⟨some (violation clause index v (blamed clause assertions v)),
        asking clause assertions v⟩ := by
  refine Logged.ext ?_ (log_judge clause assertions index v)
  cases clause with
  | must =>
    have hsome : ((firstUnmet v assertions).value).isSome = true := by
      rw [value_firstUnmet]
      exact isSome_find?_unmet_iff.2 h
    obtain ⟨a, ha⟩ := Option.isSome_iff_exists.1 hsome
    have hfind := ha
    rw [value_firstUnmet] at hfind
    simp only [judge, Logged.value_bind, Logged.value_pure, ha, Option.map_some, blamed, hfind,
      Option.toList_some]
  | either =>
    have hmet : (anyMet v assertions).value = false := by
      rw [value_anyMet, ← Bool.not_eq_true, List.any_eq_true]
      exact h
    simp only [judge, Logged.value_bind, Logged.value_pure, hmet, blamed]
    rfl

/-! ## The way through a batch -/

/-- What a clause reports about the first value that does not keep it, among values that are
counted from `index`. -/
def reportFrom [HasText α] (clause : Clause) (assertions : List (Assertion ε α)) (index : Nat) :
    List α → Logged ε (Option Violation)
  | [] => pure none
  | v :: rest => do
    match ← judge clause assertions index v with
    | some report => return some report
    | none => reportFrom clause assertions (index + 1) rest

theorem mustFrom_eq_reportFrom [HasText α] (assertions : List (Assertion ε α)) (index : Nat)
    (vs : List α) : mustFrom assertions index vs = reportFrom .must assertions index vs := by
  induction vs generalizing index with
  | nil => rfl
  | cons v rest ih =>
    simp only [mustFrom, reportFrom, judge, bind_assoc, pure_bind]
    congr 1
    funext found
    cases found with
    | none => exact ih (index + 1)
    | some a => rfl

theorem eitherFrom_eq_reportFrom [HasText α] (assertions : List (Assertion ε α)) (index : Nat)
    (vs : List α) : eitherFrom assertions index vs = reportFrom .either assertions index vs := by
  induction vs generalizing index with
  | nil => rfl
  | cons v rest ih =>
    simp only [eitherFrom, reportFrom, judge, bind_assoc, pure_bind]
    congr 1
    funext met
    cases met with
    | true => exact ih (index + 1)
    | false => rfl

theorem require_bound [HasText α] (clause : Clause) (assertions : List (Assertion ε α))
    (vs : List α) :
    (bound vs).require clause assertions =
      (bound vs).orViolation <$> reportFrom clause assertions 0 vs := by
  cases clause with
  | must => rw [← mustFrom_eq_reportFrom]; rfl
  | either => rw [← eitherFrom_eq_reportFrom]; rfl

/-- Values that keep the clause are asked and passed by. -/
theorem reportFrom_append [HasText α] {clause : Clause} {assertions : List (Assertion ε α)}
    {earlier : List α} (h : ∀ v ∈ earlier, Keeps clause assertions v) (index : Nat)
    (later : List α) :
    reportFrom clause assertions index (earlier ++ later) =
      ⟨(reportFrom clause assertions (index + earlier.length) later).value,
        earlier.flatMap (asking clause assertions) ++
          (reportFrom clause assertions (index + earlier.length) later).log⟩ := by
  induction earlier generalizing index with
  | nil => rfl
  | cons v rest ih =>
    have hrest := ih (fun w hw => h w (List.mem_cons_of_mem v hw)) (index + 1)
    have hindex : index + (v :: rest).length = index + 1 + rest.length := by
      rw [List.length_cons]
      omega
    rw [hindex, List.cons_append, reportFrom, judge_of_keeps (h v List.mem_cons_self), hrest]
    apply Logged.ext
    · rfl
    · rw [List.flatMap_cons, List.append_assoc]
      rfl

theorem reportFrom_cons_of_not_keeps [HasText α] {clause : Clause}
    {assertions : List (Assertion ε α)} {v : α} (h : ¬ Keeps clause assertions v) (index : Nat)
    (later : List α) :
    reportFrom clause assertions index (v :: later) =
      ⟨some (violation clause index v (blamed clause assertions v)),
        asking clause assertions v⟩ := by
  rw [reportFrom, judge_of_not_keeps h]
  apply Logged.ext
  · rfl
  · exact List.append_nil _

/-! ## Verdicts on a batch -/

/-- Every value is asked, and the batch passes. -/
theorem require_of_keeps [HasText α] {clause : Clause} {assertions : List (Assertion ε α)}
    {vs : List α} (h : ∀ v ∈ vs, Keeps clause assertions v) :
    (bound vs).require clause assertions =
      ⟨.ok (bound vs), vs.flatMap (asking clause assertions)⟩ := by
  have hall := reportFrom_append h 0 []
  rw [List.append_nil] at hall
  rw [require_bound, hall]
  apply Logged.ext
  · rfl
  · rw [Logged.log_map, reportFrom, Logged.log_pure, List.append_nil]

/-- The first value that does not keep the clause is reported, and none behind it is asked. -/
theorem require_of_not_keeps [HasText α] {clause : Clause} {assertions : List (Assertion ε α)}
    {earlier : List α} {v : α} (he : ∀ w ∈ earlier, Keeps clause assertions w)
    (hv : ¬ Keeps clause assertions v) (later : List α) :
    (bound (earlier ++ v :: later)).require clause assertions =
      ⟨.error (violation clause earlier.length v (blamed clause assertions v)),
        (earlier ++ [v]).flatMap (asking clause assertions)⟩ := by
  rw [require_bound, reportFrom_append he, reportFrom_cons_of_not_keeps hv, Nat.zero_add]
  apply Logged.ext
  · rfl
  · rw [Logged.log_map, List.flatMap_append, List.flatMap_singleton]

end Batch

end RuntimeContracts
