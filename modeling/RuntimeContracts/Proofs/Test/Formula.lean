import Mathlib.Data.List.Nodup
import Mathlib.Data.Nat.Bits
import Mathlib.Logic.Function.Iterate
import RuntimeContracts.Contract.Assertion

/-!
# Formulas of tests

Tests are combined by conjunction, disjunction and negation, and assertions that are made of them
count as tests again, as do their inversions. Such a combination is a formula. Its answer is the
truth value of the formula for the answers of its leaves, and the leaves that are asked are those at
which evaluation arrives when it goes from left to right and leaves out what cannot change the
answer any more.

* `Formula`, `Formula.test`: a way to combine tests, and the test that is combined.
* `Formula.holds`: the truth value of a formula.
* `Formula.occurrences`, `Formula.arrives`, `Formula.visited`: the leaves from left to right, those
  at which evaluation arrives, and all of these in order.
* `Formula.asked_and`, `Formula.asked_or` and the like: what is asked of a formula is told by its
  parts.
* `Formula.test_eq`: the answer and the log of a combined test.
-/
namespace RuntimeContracts

variable {ε α β : Type}

/-- A way to combine tests, which the leaves stand for. -/
inductive Formula (β : Type) where
  | leaf (b : β)
  | and (f g : Formula β)
  | or (f g : Formula β)
  | not (f : Formula β)
  /-- An assertion of this name that is made of a formula and then inverted this many times. -/
  | assertion (name : String) (inversions : Nat) (f : Formula β)
deriving DecidableEq

/-! ## Assertions that are inverted several times -/

theorem Test.not_not (p : Test ε α) : p.not.not = p := by
  funext v
  apply Logged.ext
  · rw [value_not, value_not, Bool.not_not]
  · rw [log_not, log_not]

theorem Assertion.test_iterate_invert (n : Nat) (a : Assertion ε α) :
    (invert^[n] a).test = if n.bodd then a.test.not else a.test := by
  induction n generalizing a with
  | zero => rfl
  | succ n ih =>
    rw [Function.iterate_succ_apply, ih, Nat.bodd_succ]
    cases n.bodd with
    | true => exact a.test.not_not
    | false => rfl

namespace Formula

/-- The test that is combined in this way. -/
def test (meaning : β → Test ε α) : Formula β → Test ε α
  | leaf b => meaning b
  | and f g => (f.test meaning).and (g.test meaning)
  | or f g => (f.test meaning).or (g.test meaning)
  | not f => (f.test meaning).not
  | assertion name inversions f =>
    (Assertion.invert^[inversions] (Assertion.ofTest name (f.test meaning))).test

/-- The truth value of the formula where the leaves have these. -/
def holds (answer : β → Bool) : Formula β → Bool
  | leaf b => answer b
  | and f g => f.holds answer && g.holds answer
  | or f g => f.holds answer || g.holds answer
  | not f => !f.holds answer
  | assertion _ inversions f => inversions.bodd ^^ f.holds answer

theorem test_assertion (meaning : β → Test ε α) (name : String) (inversions : Nat)
    (f : Formula β) :
    (assertion name inversions f).test meaning =
      if inversions.bodd then (f.test meaning).not else f.test meaning :=
  Assertion.test_iterate_invert inversions (Assertion.ofTest name (f.test meaning))

/-! ## Leaves and their places -/

/-- One of the two operands of a conjunction or a disjunction. -/
inductive Side where
  | left
  | right
deriving DecidableEq

/-- The place of a leaf: which operands are entered on the way down to it. -/
abbrev Place := List Side

/-- The leaves of an operand, with their places in the whole. -/
def within (side : Side) (leaves : List (Place × β)) : List (Place × β) :=
  leaves.map (Prod.map (side :: ·) id)

theorem filter_within (side : Side) (p : Place × β → Bool) (leaves : List (Place × β)) :
    (within side leaves).filter p = within side (leaves.filter fun o => p (side :: o.1, o.2)) :=
  List.filter_map

theorem map_fst_within (side : Side) (leaves : List (Place × β)) :
    (within side leaves).map Prod.fst = (leaves.map Prod.fst).map (side :: ·) := by
  simp [within]

theorem map_snd_within (side : Side) (leaves : List (Place × β)) :
    (within side leaves).map Prod.snd = leaves.map Prod.snd := by
  simp [within]

/-- All leaves from left to right. -/
def occurrences : Formula β → List (Place × β)
  | leaf b => [([], b)]
  | and f g => within .left f.occurrences ++ within .right g.occurrences
  | or f g => within .left f.occurrences ++ within .right g.occurrences
  | not f => f.occurrences
  | assertion _ _ f => f.occurrences

/-- Evaluation arrives at a place: wherever the way there enters an operand on the right, the
operand on the left has not settled the matter. -/
def arrives (answer : β → Bool) : Formula β → Place → Bool
  | and f _, .left :: place => f.arrives answer place
  | and f g, .right :: place => f.holds answer && g.arrives answer place
  | or f _, .left :: place => f.arrives answer place
  | or f g, .right :: place => !f.holds answer && g.arrives answer place
  | not f, place => f.arrives answer place
  | assertion _ _ f, place => f.arrives answer place
  | _, _ => true

/-- The leaves at which evaluation arrives, in the order in which it does. -/
def visited (answer : β → Bool) (f : Formula β) : List (Place × β) :=
  f.occurrences.filter fun o => f.arrives answer o.1

/-- What is asked, in order. -/
def asked (answer : β → Bool) (f : Formula β) : List β :=
  (f.visited answer).map Prod.snd

theorem nodup_places (f : Formula β) : (f.occurrences.map Prod.fst).Nodup := by
  -- the places in an operand begin with its side
  have happend (f g : Formula β) (hf : (f.occurrences.map Prod.fst).Nodup)
      (hg : (g.occurrences.map Prod.fst).Nodup) :
      ((within .left f.occurrences ++ within .right g.occurrences).map Prod.fst).Nodup := by
    have hinj (side : Side) : Function.Injective (side :: · : Place → Place) :=
      fun _ _ h => (List.cons.inj h).2
    rw [List.map_append, map_fst_within, map_fst_within, List.nodup_append]
    refine ⟨List.Nodup.map (hinj .left) hf, List.Nodup.map (hinj .right) hg, ?_⟩
    intro p hp q hq heq
    obtain ⟨p', -, rfl⟩ := List.mem_map.1 hp
    obtain ⟨q', -, rfl⟩ := List.mem_map.1 hq
    cases heq
  induction f with
  | leaf b => exact List.pairwise_singleton _ _
  | and f g ihf ihg => exact happend f g ihf ihg
  | or f g ihf ihg => exact happend f g ihf ihg
  | not f ih => exact ih
  | assertion name inversions f ih => exact ih

/-- Evaluation goes from left to right, and arrives at every leaf once at most. -/
theorem visited_sublist (answer : β → Bool) (f : Formula β) :
    (f.visited answer).Sublist f.occurrences :=
  List.filter_sublist

theorem nodup_places_visited (answer : β → Bool) (f : Formula β) :
    ((f.visited answer).map Prod.fst).Nodup :=
  f.nodup_places.sublist ((f.visited_sublist answer).map Prod.fst)

/-! ## What is asked -/

section Asked

variable (answer : β → Bool) (f g : Formula β)

theorem visited_and :
    (and f g).visited answer =
      within .left (f.visited answer) ++
        if f.holds answer then within .right (g.visited answer) else [] := by
  rw [visited, occurrences, List.filter_append, filter_within, filter_within]
  congr 1
  cases h : f.holds answer <;> simp [arrives, visited, within, h]

theorem visited_or :
    (or f g).visited answer =
      within .left (f.visited answer) ++
        if f.holds answer then [] else within .right (g.visited answer) := by
  rw [visited, occurrences, List.filter_append, filter_within, filter_within]
  congr 1
  cases h : f.holds answer <;> simp [arrives, visited, within, h]

theorem asked_leaf (b : β) : (leaf b).asked answer = [b] := rfl

theorem asked_and :
    (and f g).asked answer = f.asked answer ++ if f.holds answer then g.asked answer else [] := by
  rw [asked, visited_and, List.map_append, map_snd_within, apply_ite (List.map Prod.snd),
    map_snd_within]
  rfl

theorem asked_or :
    (or f g).asked answer = f.asked answer ++ if f.holds answer then [] else g.asked answer := by
  rw [asked, visited_or, List.map_append, map_snd_within, apply_ite (List.map Prod.snd),
    map_snd_within]
  rfl

theorem asked_not : (not f).asked answer = f.asked answer := rfl

theorem asked_assertion (name : String) (inversions : Nat) :
    (assertion name inversions f).asked answer = f.asked answer := rfl

end Asked

/-! ## The answer and the log -/

/-- A combined test answers as its formula says, and runs what its formula asks. -/
theorem test_eq (f : Formula β) (meaning : β → Test ε α) (v : α) :
    f.test meaning v =
      ⟨f.holds fun b => (meaning b v).value,
        (f.asked fun b => (meaning b v).value).flatMap fun b => (meaning b v).log⟩ := by
  induction f with
  | leaf b =>
    rw [asked_leaf, List.flatMap_singleton]
    rfl
  | and f g ihf ihg =>
    rw [asked_and, List.flatMap_append]
    apply Logged.ext
    · rw [test, Test.value_and, ihf, ihg]
      rfl
    · rw [test, Test.log_and, ihf, ihg]
      split <;> rfl
  | or f g ihf ihg =>
    rw [asked_or, List.flatMap_append]
    apply Logged.ext
    · rw [test, Test.value_or, ihf, ihg]
      rfl
    · rw [test, Test.log_or, ihf, ihg]
      split <;> rfl
  | not f ih =>
    rw [asked_not]
    apply Logged.ext
    · rw [test, Test.value_not, ih]
      rfl
    · rw [test, Test.log_not, ih]
  | assertion name inversions f ih =>
    have hvalue := congrArg Logged.value ih
    have hlog := congrArg Logged.log ih
    rw [test_assertion, asked_assertion, holds]
    cases inversions.bodd with
    | true =>
      apply Logged.ext
      · rw [if_pos rfl, Test.value_not, hvalue, Bool.true_xor]
      · rw [if_pos rfl, Test.log_not, hlog]
    | false =>
      apply Logged.ext
      · rw [if_neg Bool.false_ne_true, hvalue, Bool.false_xor]
      · rw [if_neg Bool.false_ne_true, hlog]

end Formula

end RuntimeContracts
