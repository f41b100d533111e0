import RuntimeContracts.Proofs.Test.Formula

/-!
# Rewriting formulas

The laws of De Morgan, double negation and the two laws of association hold of tests with all that
they write: both sides answer alike, and run the same tests in the same order. A formula can
therefore be rewritten anywhere inside without a change to what is answered or asked. In particular
all negations, also those that are inversions of assertions, can be pushed down to the leaves.

* `Test.not_and`, `Test.and_assoc` and the like: the laws.
* `Formula.Law`, `Formula.Rewrites`: a law at the top of a formula, and laws anywhere inside.
* `Formula.Rewrites.test_eq`: rewriting does not change the test.
* `Formula.pushed`: the formula with its negations pushed down.
* `Formula.rewrites_pushed`, `Formula.negatesLeaves_pushed`: it is arrived at by rewriting, and
  negates nothing but leaves.
* `Formula.short_circuit_evaluation`: all of it together.
-/
namespace RuntimeContracts

variable {ε α β : Type}

/-! ## Laws of tests -/

namespace Test

variable (p q r : Test ε α)

theorem not_and : (p.and q).not = p.not.or q.not := by
  funext v
  apply Logged.ext
  · rw [value_not, value_and, value_or, value_not, value_not, Bool.not_and]
  · rw [log_not, log_and, log_or, log_not, value_not, log_not]
    cases (p v).value <;> rfl

theorem not_or : (p.or q).not = p.not.and q.not := by
  funext v
  apply Logged.ext
  · rw [value_not, value_or, value_and, value_not, value_not, Bool.not_or]
  · rw [log_not, log_or, log_and, log_not, value_not, log_not]
    cases (p v).value <;> rfl

theorem and_assoc : (p.and q).and r = p.and (q.and r) := by
  funext v
  apply Logged.ext
  · simp only [value_and, Bool.and_assoc]
  · rw [log_and, log_and, log_and, log_and, value_and]
    cases (p v).value <;> simp

theorem or_assoc : (p.or q).or r = p.or (q.or r) := by
  funext v
  apply Logged.ext
  · simp only [value_or, Bool.or_assoc]
  · rw [log_or, log_or, log_or, log_or, value_or]
    cases (p v).value <;> simp

end Test

namespace Formula

/-! ## Rewriting -/

/-- A law of negation or of association, applied to a formula as a whole. To negate an assertion, or
to invert it, is to make it of the negation. -/
inductive Law : Formula β → Formula β → Prop where
  | not_not (f : Formula β) : Law (not (not f)) f
  | not_and (f g : Formula β) : Law (not (and f g)) (or (not f) (not g))
  | not_or (f g : Formula β) : Law (not (or f g)) (and (not f) (not g))
  | not_assertion (name : String) (n : Nat) (f : Formula β) :
      Law (not (assertion name n f)) (assertion name n (not f))
  | inversion (name : String) (n : Nat) (f : Formula β) :
      Law (assertion name (n + 1) f) (assertion name n (not f))
  | and_assoc (f g h : Formula β) : Law (and (and f g) h) (and f (and g h))
  | or_assoc (f g h : Formula β) : Law (or (or f g) h) (or f (or g h))

/-- Laws are applied to a formula and to the parts of it, in either direction and any number of
times. -/
inductive Rewrites : Formula β → Formula β → Prop where
  | law {f g : Formula β} (h : Law f g) : Rewrites f g
  | refl (f : Formula β) : Rewrites f f
  | symm {f g : Formula β} (h : Rewrites f g) : Rewrites g f
  | trans {f g h : Formula β} (first : Rewrites f g) (second : Rewrites g h) : Rewrites f h
  | and {f f' g g' : Formula β} (left : Rewrites f f') (right : Rewrites g g') :
      Rewrites (and f g) (and f' g')
  | or {f f' g g' : Formula β} (left : Rewrites f f') (right : Rewrites g g') :
      Rewrites (or f g) (or f' g')
  | not {f f' : Formula β} (h : Rewrites f f') : Rewrites (not f) (not f')
  | assertion (name : String) (n : Nat) {f f' : Formula β} (h : Rewrites f f') :
      Rewrites (assertion name n f) (assertion name n f')

theorem Law.test_eq {f g : Formula β} (h : Law f g) (meaning : β → Test ε α) :
    f.test meaning = g.test meaning := by
  cases h with
  | not_not => exact Test.not_not _
  | not_and => exact Test.not_and _ _
  | not_or => exact Test.not_or _ _
  | not_assertion name n f =>
    rw [test, test_assertion, test_assertion, test]
    split <;> rfl
  | inversion name n f =>
    rw [test_assertion, test_assertion, test, Nat.bodd_succ]
    cases n.bodd with
    | true => exact (Test.not_not _).symm
    | false => rfl
  | and_assoc => exact Test.and_assoc _ _ _
  | or_assoc => exact Test.or_assoc _ _ _

namespace Rewrites

variable {f g : Formula β}

/-- Rewriting does not change the test, whatever the tests of the leaves are. -/
theorem test_eq (h : f.Rewrites g) (meaning : β → Test ε α) : f.test meaning = g.test meaning := by
  induction h with
  | law h => exact h.test_eq meaning
  | refl f => rfl
  | symm _ ih => exact ih.symm
  | trans _ _ ih₁ ih₂ => exact ih₁.trans ih₂
  | and _ _ ihl ihr => rw [test, test, ihl, ihr]
  | or _ _ ihl ihr => rw [test, test, ihl, ihr]
  | not _ ih => rw [test, test, ih]
  | assertion name n _ ih => rw [test, test, ih]

end Rewrites

/-- The test of a leaf that has this answer and writes down that it was asked. -/
def labelled (answer : β → Bool) (b : β) : Test β Unit := fun _ => ⟨answer b, [b]⟩

theorem test_labelled (answer : β → Bool) (f : Formula β) :
    f.test (labelled answer) () = ⟨f.holds answer, f.asked answer⟩ := by
  rw [test_eq]
  exact Logged.ext rfl (List.flatMap_singleton' _)

/-- Rewriting changes neither the truth value nor what is asked. -/
theorem Rewrites.asked_eq {f g : Formula β} (h : f.Rewrites g) (answer : β → Bool) :
    f.holds answer = g.holds answer ∧ f.asked answer = g.asked answer := by
  have htest := congrFun (h.test_eq (labelled answer)) ()
  rw [test_labelled, test_labelled] at htest
  exact ⟨congrArg Logged.value htest, congrArg Logged.log htest⟩

/-! ## Negations at the leaves -/

/-- The formula, or its negation, with all negations pushed down to the leaves. -/
def pushed (negated : Bool) : Formula β → Formula β
  | leaf b => if negated then not (leaf b) else leaf b
  | and f g =>
    if negated then or (f.pushed true) (g.pushed true) else and (f.pushed false) (g.pushed false)
  | or f g =>
    if negated then and (f.pushed true) (g.pushed true) else or (f.pushed false) (g.pushed false)
  | not f => f.pushed (!negated)
  | assertion name n f => assertion name 0 (f.pushed (negated ^^ n.bodd))

/-- Nothing but leaves is negated, and no assertion is inverted. -/
def NegatesLeaves : Formula β → Prop
  | leaf _ => True
  | and f g => f.NegatesLeaves ∧ g.NegatesLeaves
  | or f g => f.NegatesLeaves ∧ g.NegatesLeaves
  | not (leaf _) => True
  | not _ => False
  | assertion _ n f => n = 0 ∧ f.NegatesLeaves

theorem negatesLeaves_pushed (f : Formula β) (negated : Bool) :
    (f.pushed negated).NegatesLeaves := by
  induction f generalizing negated with
  | leaf b => cases negated <;> trivial
  | and f g ihf ihg => cases negated <;> exact ⟨ihf _, ihg _⟩
  | or f g ihf ihg => cases negated <;> exact ⟨ihf _, ihg _⟩
  | not f ih => exact ih _
  | assertion name n f ih => exact ⟨rfl, ih _⟩

example (b c : β) :
    (assertion "a" 1 (and (leaf b) (not (leaf c)))).pushed false =
      assertion "a" 0 (or (not (leaf b)) (leaf c)) :=
  rfl

/-- The formula or its negation. -/
def signed (negated : Bool) (f : Formula β) : Formula β := if negated then not f else f

theorem not_signed (negated : Bool) (f : Formula β) :
    (not (f.signed negated)).Rewrites (f.signed !negated) := by
  cases negated with
  | true => exact .law (.not_not f)
  | false => exact .refl _

/-- All inversions of an assertion come down to one negation, or to none. -/
theorem assertion_rewrites (name : String) (n : Nat) (f : Formula β) :
    (assertion name n f).Rewrites (assertion name 0 (f.signed n.bodd)) := by
  induction n generalizing f with
  | zero => exact .refl _
  | succ n ih =>
    have hsigned : ((not f).signed n.bodd).Rewrites (f.signed (n + 1).bodd) := by
      rw [Nat.bodd_succ]
      cases n.bodd with
      | true => exact .law (.not_not f)
      | false => exact .refl _
    exact (Rewrites.law (.inversion name n f)).trans
      ((ih (not f)).trans (.assertion name 0 hsigned))

/-- Negations are pushed down by the laws alone. -/
theorem rewrites_pushed (f : Formula β) (negated : Bool) :
    (f.signed negated).Rewrites (f.pushed negated) := by
  induction f generalizing negated with
  | leaf b => exact .refl _
  | and f g ihf ihg =>
    cases negated with
    | true => exact (Rewrites.law (.not_and f g)).trans (.or (ihf true) (ihg true))
    | false => exact .and (ihf false) (ihg false)
  | or f g ihf ihg =>
    cases negated with
    | true => exact (Rewrites.law (.not_or f g)).trans (.and (ihf true) (ihg true))
    | false => exact .or (ihf false) (ihg false)
  | not f ih =>
    cases negated with
    | true => exact (Rewrites.law (.not_not f)).trans (ih false)
    | false => exact ih true
  | assertion name n f ih =>
    have hinner := assertion_rewrites name n f
    cases negated with
    | true =>
      have hnot := (Rewrites.law (.not_assertion name 0 (f.signed n.bodd))).trans
        (.assertion name 0 (not_signed n.bodd f))
      rw [pushed, Bool.true_xor]
      exact hinner.not.trans (hnot.trans (.assertion name 0 (ih _)))
    | false =>
      rw [pushed, Bool.false_xor]
      exact hinner.trans (.assertion name 0 (ih _))

/-! ## All together -/

/-- **Short-circuit evaluation of formulas.** A test that is combined from others answers as its
formula says for the answers of the leaves. It runs the tests of those leaves at which evaluation
arrives, from left to right and each of them once. Any rewriting by the laws of negation and of
association, anywhere in the formula, changes neither the answer nor what is asked in which order.
All negations can be pushed down to the leaves in this way. -/
theorem short_circuit_evaluation (f : Formula β) (meaning : β → Test ε α) (v : α) :
    let answer b := (meaning b v).value
    (f.test meaning v).value = f.holds answer ∧
    (f.test meaning v).log = (f.visited answer).flatMap (fun o => (meaning o.2 v).log) ∧
    (f.visited answer).Sublist f.occurrences ∧
    ((f.visited answer).map Prod.fst).Nodup ∧
    (∀ g, f.Rewrites g →
      g.test meaning v = f.test meaning v ∧ g.holds answer = f.holds answer ∧
        g.asked answer = f.asked answer) ∧
    f.Rewrites (f.pushed false) ∧ (f.pushed false).NegatesLeaves := by
  intro answer
  have htest := f.test_eq meaning v
  refine ⟨congrArg Logged.value htest, ?_, f.visited_sublist answer,
    f.nodup_places_visited answer, fun g hg => ?_, f.rewrites_pushed false,
    f.negatesLeaves_pushed false⟩
  · rw [htest, asked, List.flatMap_map]
  · obtain ⟨hholds, hasked⟩ := hg.asked_eq answer
    exact ⟨(congrFun (hg.test_eq meaning) v).symm, hholds.symm, hasked.symm⟩

end Formula

end RuntimeContracts
