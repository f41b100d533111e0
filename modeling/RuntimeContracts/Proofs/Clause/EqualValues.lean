import RuntimeContracts.Checker.Defaults
import RuntimeContracts.Proofs.Clause.Outcome
import RuntimeContracts.Proofs.Test.Formula
import RuntimeContracts.Proofs.Value.Equality
import RuntimeContracts.Proofs.Value.Flattening

/-!
# Clauses on equal values

What a clause finds in a batch depends on its values through the tests of the assertions and the
text in the report only. The default assertions ask for the kind of a value, and so do all tests
that are combined from theirs. Equal values have the same kind and the same text, so that one batch
can take the place of another one with equal values.

* `Batch.Alike`: values that the assertions and a report do not tell apart.
* `Batch.reportFrom_congr`: clauses find the same in batches of such values.
* `Batch.require_congr`: so they give both batches back or report the same.
* `Value.kind_eq_of_beq`, `Value.text_eq_of_beq`: what equal values have in common.
* `Assertion.FromDefaults`: the test is combined from those of default assertions.
* `Assertion.FromDefaults.test_congr`: such a test asks for the kind.
* `Value.equal_values_interchangeable`: all of it together with the laws of equality.
-/
namespace RuntimeContracts

/-! ## Values that are not told apart -/

namespace Batch

variable {ε α : Type} [HasText α] {assertions : List (Assertion ε α)} {v w : α}

/-- Two values that neither the assertions nor a report tell apart. -/
structure Alike (assertions : List (Assertion ε α)) (v w : α) : Prop where
  test : ∀ a ∈ assertions, a.test v = a.test w
  text : HasText.text v = HasText.text w

omit [HasText α] in
theorem firstUnmet_congr (h : ∀ a ∈ assertions, a.test v = a.test w) :
    firstUnmet v assertions = firstUnmet w assertions := by
  induction assertions with
  | nil => rfl
  | cons a rest ih =>
    obtain ⟨ha, hrest⟩ := List.forall_mem_cons.1 h
    rw [firstUnmet, firstUnmet, ha, ih hrest]

omit [HasText α] in
theorem anyMet_congr (h : ∀ a ∈ assertions, a.test v = a.test w) :
    anyMet v assertions = anyMet w assertions := by
  induction assertions with
  | nil => rfl
  | cons a rest ih =>
    obtain ⟨ha, hrest⟩ := List.forall_mem_cons.1 h
    rw [anyMet, anyMet, ha, ih hrest]

theorem judge_congr (h : Alike assertions v w) (clause : Clause) (index : Nat) :
    judge clause assertions index v = judge clause assertions index w := by
  have hreport (clause : Clause) (cited : List (Assertion ε α)) :
      violation clause index v cited = violation clause index w cited := by
    rw [violation, violation, h.text]
  cases clause with
  | must => simp only [judge, firstUnmet_congr h.test, hreport]
  | either => simp only [judge, anyMet_congr h.test, hreport]

theorem reportFrom_congr {vs ws : List α} (h : List.Forall₂ (Alike assertions) vs ws)
    (clause : Clause) (index : Nat) :
    reportFrom clause assertions index vs = reportFrom clause assertions index ws := by
  induction h generalizing index with
  | nil => rfl
  | cons hvw _ ih =>
    rw [reportFrom, reportFrom, judge_congr hvw]
    congr 1
    funext found
    cases found with
    | none => exact ih (index + 1)
    | some r => rfl

/-- An exempt batch and one without values are not told apart by what is found. -/
theorem require_eq_reportFrom (clause : Clause) (assertions : List (Assertion ε α)) (b : Batch α) :
    b.require clause assertions = b.orViolation <$> reportFrom clause assertions 0 b.values := by
  cases b with
  | bound vs => exact require_bound clause assertions vs
  | exempt => exact require_exempt clause assertions

/-- A clause runs the same tests on two batches of values that it does not tell apart. It gives both
of them back, or it makes the same report. -/
theorem require_congr {b b' : Batch α} (h : List.Forall₂ (Alike assertions) b.values b'.values)
    (clause : Clause) :
    (b.require clause assertions).log = (b'.require clause assertions).log ∧
      ((b.require clause assertions).value = .ok b ∧
          (b'.require clause assertions).value = .ok b' ∨
        ∃ r, (b.require clause assertions).value = .error r ∧
          (b'.require clause assertions).value = .error r) := by
  rw [require_eq_reportFrom, require_eq_reportFrom, reportFrom_congr h]
  simp only [Logged.log_map, Logged.value_map, true_and]
  cases (reportFrom clause assertions 0 b'.values).value with
  | none => exact .inl ⟨rfl, rfl⟩
  | some r => exact .inr ⟨r, rfl, rfl⟩

end Batch

/-! ## Kind and text of equal values -/

namespace Value

theorem numberText_of_isZero {x : Binary64} (h : x.isZero = true) : numberText x = "0" := by
  have hmagnitude : x.magnitude = 0 := of_decide_eq_true h
  have hnan : x.isNaN = false := by simp [Binary64.isNaN, hmagnitude]
  have hinfinite : x.isInfinite = false := by
    simp [Binary64.isInfinite, hmagnitude, Binary64.infiniteMagnitude]
  rw [numberText, hnan, hinfinite, h]
  rfl

/-- Two zeros have the same text because a text has no sign for them. -/
theorem numberText_eq_of_beq {x y : Binary64} (h : (x == y) = true) :
    numberText x = numberText y := by
  rcases Binary64.eq_or_isZero_of_beq h with rfl | ⟨hx, hy⟩
  · rfl
  · rw [numberText_of_isZero hx, numberText_of_isZero hy]

/-- The text of an item depends on whether the item is present, so equal texts of the items alone
are not enough. -/
theorem compatible_kind_text : Compatible fun v w => v.kind = w.kind ∧ v.text = w.text where
  undefined := ⟨rfl, rfl⟩
  null := ⟨rfl, rfl⟩
  bool _ := ⟨rfl, rfl⟩
  number _ _ h := ⟨rfl, numberText_eq_of_beq h⟩
  string _ := ⟨rfl, rfl⟩
  array as bs h := by
    have hitem (v w : Value) (hvw : v.kind = w.kind ∧ v.text = w.text) :
        v.itemText = w.itemText := by
      unfold itemText isPresent isUndefined isNull
      rw [hvw.1, hvw.2]
    have hitems : as.map itemText = bs.map itemText := by
      rw [← List.forall₂_eq_eq_eq, List.forall₂_map_left_iff, List.forall₂_map_right_iff]
      exact h.imp hitem
    refine ⟨rfl, ?_⟩
    rw [text, text, itemTexts_eq, itemTexts_eq, hitems]
  object _ _ _ := ⟨rfl, rfl⟩

theorem kind_eq_of_beq {v w : Value} (h : (v == w) = true) : v.kind = w.kind :=
  (compatible_kind_text.of_beq h).1

theorem text_eq_of_beq {v w : Value} (h : (v == w) = true) : v.text = w.text :=
  (compatible_kind_text.of_beq h).2

end Value

/-! ## Tests that ask for the kind -/

variable {ε : Type}

theorem test_default_congr {d : Assertion ε Value} (hd : d ∈ defaultAssertions) {v w : Value}
    (h : v.kind = w.kind) : d.test v = d.test w := by
  simp only [defaultAssertions, List.mem_cons, List.not_mem_nil, or_false] at hd
  rcases hd with rfl | rfl | rfl | rfl | rfl | rfl | rfl <;>
    simp only [Assertion.ofTest, Test.silent, Value.isNumber, Value.isString, Value.isBoolean,
      Value.isArray, Value.isNull, Value.isUndefined, Value.isPresent, h]

/-- Leaves with the same answer and log for two values make combined tests with the same. -/
theorem Formula.test_congr {α β : Type} (f : Formula β) {meaning : β → Test ε α} {v w : α}
    (h : ∀ b, meaning b v = meaning b w) : f.test meaning v = f.test meaning w := by
  rw [test_eq, test_eq]
  simp only [h]

namespace Assertion

/-- The test of the assertion is that of a default assertion, or is combined from such tests by
conjunction, disjunction, negation and inversion. -/
def FromDefaults (a : Assertion ε Value) : Prop :=
  ∃ f : Formula {d : Assertion ε Value // d ∈ defaultAssertions}, a.test = f.test fun d => d.1.test

theorem fromDefaults_of_mem {d : Assertion ε Value} (h : d ∈ defaultAssertions) : d.FromDefaults :=
  ⟨.leaf ⟨d, h⟩, rfl⟩

namespace FromDefaults

variable {a b : Assertion ε Value}

theorem invert (h : a.FromDefaults) : a.invert.FromDefaults := by
  obtain ⟨f, hf⟩ := h
  exact ⟨.not f, congrArg Test.not hf⟩

theorem and (name : String) (ha : a.FromDefaults) (hb : b.FromDefaults) :
    (ofTest name (a.test.and b.test)).FromDefaults := by
  obtain ⟨f, hf⟩ := ha
  obtain ⟨g, hg⟩ := hb
  exact ⟨.and f g, congrArg₂ Test.and hf hg⟩

theorem or (name : String) (ha : a.FromDefaults) (hb : b.FromDefaults) :
    (ofTest name (a.test.or b.test)).FromDefaults := by
  obtain ⟨f, hf⟩ := ha
  obtain ⟨g, hg⟩ := hb
  exact ⟨.or f g, congrArg₂ Test.or hf hg⟩

theorem test_congr (h : a.FromDefaults) {v w : Value} (hkind : v.kind = w.kind) :
    a.test v = a.test w := by
  obtain ⟨f, hf⟩ := h
  rw [hf]
  exact f.test_congr fun d => test_default_congr d.2 hkind

end FromDefaults

end Assertion

/-! ## All together -/

namespace Value

theorem alike_of_beq {assertions : List (Assertion ε Value)} (h : ∀ a ∈ assertions, a.FromDefaults)
    {v w : Value} (hvw : (v == w) = true) : Batch.Alike assertions v w where
  test a ha := (h a ha).test_congr (kind_eq_of_beq hvw)
  text := text_eq_of_beq hvw

/-- **Equal values are interchangeable.** Equality of values is symmetric and transitive, and holds
of a value and itself if and only if no NaN stands in it. Equal values have the same kind and the
same text. A clause over assertions that are made of the default ones therefore runs the same tests
on two batches of equal values, and gives both of them back or makes the same report. -/
theorem equal_values_interchangeable :
    (∀ v w : Value, (v == w) = true → (w == v) = true) ∧
    (∀ u v w : Value, (u == v) = true → (v == w) = true → (u == w) = true) ∧
    (∀ v : Value, (v == v) = true ↔ ∀ x, PartOf (number x) v → x.isNaN = false) ∧
    (∀ v w : Value, (v == w) = true → v.kind = w.kind ∧ v.text = w.text) ∧
    ∀ (b b' : Batch Value) (assertions : List (Assertion ε Value)) (clause : Clause),
      List.Forall₂ (fun v w => (v == w) = true) b.values b'.values →
      (∀ a ∈ assertions, a.FromDefaults) →
      (b.require clause assertions).log = (b'.require clause assertions).log ∧
        ((b.require clause assertions).value = .ok b ∧
            (b'.require clause assertions).value = .ok b' ∨
          ∃ r, (b.require clause assertions).value = .error r ∧
            (b'.require clause assertions).value = .error r) := by
  refine ⟨fun v w => beq_symm, fun u v w => beq_trans, fun v => beq_self_iff,
    fun v w h => ⟨kind_eq_of_beq h, text_eq_of_beq h⟩, ?_⟩
  intro b b' assertions clause hvalues hdefaults
  exact Batch.require_congr (hvalues.imp fun v w hvw => alike_of_beq hdefaults hvw) clause

/-- The two zeros are equal inside an array as well, and its text has no sign for either. What is
found to be no plain value is reported in the same way. -/
theorem equal_values_interchangeable_of_zeros :
    let positive := array [number (.ofMagnitude false 0), null]
    let negative := array [number (.ofMagnitude true 0), null]
    let aNumber : Assertion Unit Value := .ofTest "number" (.silent isNumber)
    let aString : Assertion Unit Value := .ofTest "string" (.silent isString)
    let noArray : Assertion Unit Value := (Assertion.ofTest "array" (.silent isArray)).invert
    let scalar := Assertion.ofTest "scalar" (aNumber.test.or aString.test)
    let plain := Assertion.ofTest "plain" (noArray.test.and scalar.test)
    let report : Violation :=
      { clause := .either, index := 0, value := "0,", cited := ["plain", "not array"] }
    ((Batch.bound [positive]).either [plain, noArray]).value = .error report ∧
      ((Batch.bound [negative]).either [plain, noArray]).value = .error report := by
  intro positive negative aNumber aString noArray scalar plain report
  have hnumber : aNumber.FromDefaults :=
    Assertion.fromDefaults_of_mem (by simp [defaultAssertions, aNumber])
  have hstring : aString.FromDefaults :=
    Assertion.fromDefaults_of_mem (by simp [defaultAssertions, aString])
  have hnoArray : noArray.FromDefaults :=
    (Assertion.fromDefaults_of_mem (by simp [defaultAssertions])).invert
  have hdefaults : ∀ a ∈ [plain, noArray], a.FromDefaults :=
    List.forall_mem_cons.2 ⟨hnoArray.and "plain" (hnumber.or "scalar" hstring),
      List.forall_mem_singleton.2 hnoArray⟩
  have hpositive : ((Batch.bound [positive]).either [plain, noArray]).value = .error report := rfl
  have hequal : (positive == negative) = true := rfl
  obtain ⟨-, -, -, -, hclause⟩ := equal_values_interchangeable (ε := Unit)
  obtain ⟨-, ⟨hok, -⟩ | ⟨r, hr, hr'⟩⟩ := hclause (.bound [positive]) (.bound [negative])
    [plain, noArray] .either (.cons hequal .nil) hdefaults
  · cases hpositive.symm.trans hok
  · cases hpositive.symm.trans hr
    exact ⟨hpositive, hr'⟩

end Value

end RuntimeContracts
