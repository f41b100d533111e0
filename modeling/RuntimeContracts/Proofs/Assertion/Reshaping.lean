import Mathlib.Algebra.Ring.Parity
import Mathlib.Data.List.Basic
import RuntimeContracts.Proofs.Registry.History

/-!
# Chains of inversions and renamings

An assertion that is made from a test can be inverted, cited under another name, copied, and stored
in a registry and looked up again, any number of times and in any order. Its name stays. Whether it
says what its test says, or the opposite, is a matter of how often it was inverted in all, and how
it is cited is a matter of how often it was inverted since it got its last display name. However
long the chain is, it runs its test once for each question.

* `Reshaping`, `Assertion.reshape`, `Assertion.reshapeAll`: the steps of a chain, one step and all of
  them.
* `Assertion.Shaped`: what is left of an assertion after a chain, all its fields together.
* `Assertion.Shaped.reshape`, `Assertion.Shaped.reshapeAll`: a step keeps it, so a chain does.
* `Assertion.reshape_eq_none_iff`, `Assertion.reshapeAll_eq_none_iff`: only a registry can refuse an
  assertion, for a blank name.
* `Assertion.reshaped_by_counts`: all of it together.
-/
namespace RuntimeContracts

/-! ## Steps -/

/-- Something that is done with an assertion and gives an assertion. -/
inductive Reshaping where
  | invert
  | rename (displayName : String)
  | copy
  /-- Inserted into a registry of its own and looked up in it, or its inversion looked up. -/
  | stored (inverted : Bool)
deriving DecidableEq

namespace Reshaping

def isInversion : Reshaping → Bool
  | invert => true
  | stored inverted => inverted
  | _ => false

/-- The display name that a step sets. -/
def newName? : Reshaping → Option String
  | rename displayName => some displayName
  | _ => none

def isStored : Reshaping → Bool
  | stored _ => true
  | _ => false

/-- How often a chain inverts. -/
def inversions (steps : List Reshaping) : Nat := steps.countP isInversion

/-- What a chain does after the last step that sets a display name. -/
def sinceRenamed (steps : List Reshaping) : List Reshaping :=
  (steps.reverse.takeWhile fun step => step.newName? = none).reverse

/-- The last display name that a chain sets, or the one from before it. -/
def lastName (name : String) (steps : List Reshaping) : String :=
  (steps.filterMap newName?).getLast?.getD name

theorem inversions_concat (steps : List Reshaping) (step : Reshaping) :
    inversions (steps ++ [step]) = inversions steps + if step.isInversion then 1 else 0 := by
  cases h : step.isInversion <;> simp [inversions, List.countP_append, h]

theorem sinceRenamed_concat (steps : List Reshaping) (step : Reshaping) :
    sinceRenamed (steps ++ [step]) =
      if step.newName? = none then sinceRenamed steps ++ [step] else [] := by
  by_cases h : step.newName? = none <;> simp [sinceRenamed, h]

theorem lastName_concat (name : String) (steps : List Reshaping) (step : Reshaping) :
    lastName name (steps ++ [step]) = step.newName?.getD (lastName name steps) := by
  cases h : step.newName? <;> simp [lastName, h]

end Reshaping

open Reshaping (inversions sinceRenamed lastName inversions_concat sinceRenamed_concat
  lastName_concat)

namespace Assertion

variable {ε α : Type}

/-- The assertion after a step. A registry does not take a blank name. -/
def reshape (a : Assertion ε α) : Reshaping → Option (Assertion ε α)
  | .invert => some a.invert
  | .rename displayName => some (a.withDisplayName displayName)
  | .copy => some a
  | .stored inverted =>
    match (Registry.empty : Registry ε α).insert a with
    | .ok r => if inverted then r.getInverted? a.name else r.get? a.name
    | .error _ => none

/-- The assertion after a chain of steps. -/
def reshapeAll (a : Assertion ε α) : List Reshaping → Option (Assertion ε α)
  | [] => some a
  | step :: rest => (a.reshape step).bind (reshapeAll · rest)

/-- A registry of its own gives an assertion back, or its inversion. -/
theorem reshape_stored (a : Assertion ε α) (inverted : Bool) :
    a.reshape (.stored inverted) =
      if Text.isBlank a.name then none else some (if inverted then a.invert else a) := by
  cases hb : Text.isBlank a.name with
  | true => simp only [reshape, Registry.insert_of_isBlank hb, if_true]
  | false =>
    have hinsert := Registry.insert_of_not_contains (r := (Registry.empty : Registry ε α)) hb rfl
    rw [reshape, hinsert]
    cases inverted with
    | true => simp [Registry.getInverted?, SortedMap.get?_insert]
    | false => simp [Registry.get?, SortedMap.get?_insert]

/-! ## What is left after a chain -/

/-- What is left of the assertion of a test after a chain of steps. -/
structure Shaped (name : String) (test : Test ε α) (steps : List Reshaping)
    (a : Assertion ε α) : Prop where
  name_eq : a.name = name
  isInverted_iff : a.isInverted = true ↔ Odd (inversions steps)
  answer : ∀ v, (a.test v).value = if Odd (inversions steps) then !(test v).value else (test v).value
  displayName_eq : a.displayName =
    String.join (List.replicate (inversions (sinceRenamed steps)) "not ") ++ lastName name steps
  log : ∀ v, (a.test v).log = (test v).log

namespace Shaped

variable {name : String} {test : Test ε α} {steps : List Reshaping} {a b : Assertion ε α}

theorem ofTest (name : String) (test : Test ε α) : Shaped name test [] (.ofTest name test) where
  name_eq := rfl
  isInverted_iff := by simp [Assertion.ofTest, inversions]
  answer v := by simp [Assertion.ofTest, inversions]
  displayName_eq := by simp [Assertion.ofTest, inversions, sinceRenamed, lastName]
  log v := rfl

/-- A step that inverts. -/
theorem invert (h : Shaped name test steps a) {step : Reshaping} (hi : step.isInversion = true)
    (hn : step.newName? = none) : Shaped name test (steps ++ [step]) a.invert := by
  have hcount : ∀ earlier, inversions (earlier ++ [step]) = inversions earlier + 1 := by
    intro earlier
    rw [inversions_concat, if_pos hi]
  constructor
  · exact h.name_eq
  · rw [hcount, Nat.odd_add_one, ← h.isInverted_iff, isInverted_invert, Bool.not_eq_true',
      Bool.not_eq_true]
  · intro v
    rw [hcount, value_test_invert, h.answer]
    by_cases hodd : Odd (inversions steps) <;> simp [hodd, Nat.odd_add_one]
  · rw [sinceRenamed_concat, if_pos hn, hcount, lastName_concat, hn, Option.getD_none,
      displayName_invert, h.displayName_eq, List.replicate_succ, String.join_cons,
      String.append_assoc]
  · intro v
    rw [log_test_invert, h.log]

/-- A step that leaves the assertion as it is. -/
theorem keep (h : Shaped name test steps a) {step : Reshaping} (hi : step.isInversion = false)
    (hn : step.newName? = none) : Shaped name test (steps ++ [step]) a := by
  have hcount : ∀ earlier, inversions (earlier ++ [step]) = inversions earlier := by
    intro earlier
    rw [inversions_concat, if_neg (Bool.eq_false_iff.1 hi), Nat.add_zero]
  constructor
  · exact h.name_eq
  · rw [hcount]
    exact h.isInverted_iff
  · rw [hcount]
    exact h.answer
  · rw [sinceRenamed_concat, if_pos hn, hcount, lastName_concat, hn, Option.getD_none]
    exact h.displayName_eq
  · exact h.log

theorem rename (h : Shaped name test steps a) (displayName : String) :
    Shaped name test (steps ++ [.rename displayName]) (a.withDisplayName displayName) := by
  have hcount : inversions (steps ++ [.rename displayName]) = inversions steps :=
    inversions_concat steps (.rename displayName)
  constructor
  · exact h.name_eq
  · rw [hcount]
    exact h.isInverted_iff
  · rw [hcount]
    exact h.answer
  · rw [sinceRenamed_concat, lastName_concat]
    exact (String.empty_append).symm
  · exact h.log

/-- Every step keeps all of it. -/
theorem reshape (h : Shaped name test steps a) {step : Reshaping} (hb : a.reshape step = some b) :
    Shaped name test (steps ++ [step]) b := by
  cases step with
  | invert =>
    cases hb
    exact h.invert rfl rfl
  | rename displayName =>
    cases hb
    exact h.rename displayName
  | copy =>
    cases hb
    exact h.keep rfl rfl
  | stored inverted =>
    rw [reshape_stored] at hb
    split at hb
    · cases hb
    · cases hb
      cases inverted with
      | true => exact h.invert rfl rfl
      | false => exact h.keep rfl rfl

theorem reshapeAll (h : Shaped name test steps a) {more : List Reshaping}
    (hb : a.reshapeAll more = some b) : Shaped name test (steps ++ more) b := by
  induction more generalizing steps a with
  | nil =>
    cases hb
    rw [List.append_nil]
    exact h
  | cons step rest ih =>
    obtain ⟨c, hc, hrest⟩ := Option.bind_eq_some_iff.1 hb
    have hall := ih (h.reshape hc) hrest
    rwa [List.append_assoc] at hall

end Shaped

/-! ## Which chains come to an end -/

theorem reshape_eq_none_iff {a : Assertion ε α} {step : Reshaping} :
    a.reshape step = none ↔ Text.isBlank a.name = true ∧ step.isStored = true := by
  cases step with
  | stored inverted => simp [reshape_stored, Reshaping.isStored]
  | _ => simp [reshape, Reshaping.isStored]

theorem name_of_reshape {a b : Assertion ε α} {step : Reshaping} (h : a.reshape step = some b) :
    b.name = a.name := by
  cases step with
  | invert =>
    cases h
    rfl
  | rename displayName =>
    cases h
    rfl
  | copy =>
    cases h
    rfl
  | stored inverted =>
    rw [reshape_stored] at h
    split at h
    · cases h
    · cases h
      cases inverted <;> rfl

/-- Only a registry can refuse an assertion, for a blank name. -/
theorem reshapeAll_eq_none_iff {a : Assertion ε α} {steps : List Reshaping} :
    a.reshapeAll steps = none ↔
      Text.isBlank a.name = true ∧ ∃ step ∈ steps, step.isStored = true := by
  induction steps generalizing a with
  | nil => simp [reshapeAll]
  | cons step rest ih =>
    rw [reshapeAll, List.exists_mem_cons_iff]
    cases h : a.reshape step with
    | none => simp [reshape_eq_none_iff.1 h]
    | some b =>
      have hnot : ¬ (Text.isBlank a.name = true ∧ step.isStored = true) := by
        rw [← reshape_eq_none_iff, h]
        exact Option.some_ne_none b
      rw [Option.bind_some, ih, name_of_reshape h]
      grind

/-! ## All together -/

/-- **Chains of inversions and renamings.** A chain of steps gives an assertion, unless there is a
registry in it and the name is blank. The assertion has the name that it was made with. It is an
inversion if it has been inverted an odd number of times, and then it says the opposite of its
test; otherwise it says what its test says. It is cited under the display name that it got last,
behind as many negations as there have been inversions since. To ask it is to run its test once, and
perhaps to turn the answer round. -/
theorem reshaped_by_counts (name : String) (test : Test ε α) (steps : List Reshaping) :
    let chain := (ofTest name test).reshapeAll steps
    (chain = none ↔ Text.isBlank name = true ∧ ∃ step ∈ steps, step.isStored = true) ∧
    ∀ a, chain = some a →
      a.name = name ∧
      (a.isInverted = true ↔ Odd (inversions steps)) ∧
      (∀ v, (a.test v).value =
        if Odd (inversions steps) then !(test v).value else (test v).value) ∧
      a.displayName =
        String.join (List.replicate (inversions (sinceRenamed steps)) "not ") ++
          lastName name steps ∧
      ∀ v, a.test v = do
        let answer ← test v
        return if Odd (inversions steps) then !answer else answer := by
  intro chain
  refine ⟨reshapeAll_eq_none_iff, fun a ha => ?_⟩
  have h : Shaped name test steps a := (Shaped.ofTest name test).reshapeAll ha
  refine ⟨h.name_eq, h.isInverted_iff, h.answer, h.displayName_eq, fun v => ?_⟩
  apply Logged.ext
  · exact h.answer v
  · rw [Logged.log_bind, Logged.log_pure, List.append_nil]
    exact h.log v

end Assertion

end RuntimeContracts
