import Mathlib.Data.List.Basic
import RuntimeContracts.Proofs.Clause.Verdict

/-!
# Evaluation of clauses

A question is a value together with an assertion that it is asked about. The questions of a batch
are in order when all assertions are asked about the first value, in the order in which they are
given, then about the second one, and so on. A clause asks some of them, and what its tests write
tells which.

* `Batch.questions`, `Batch.asked`: the questions in order, and the log that they leave.
* `Batch.log_firstUnmet`, `Batch.log_anyMet`: the questions about one value, which end at the
  first one that settles the matter.
* `Batch.must_evaluation`: a must clause asks the questions in order, up to the first one that is
  answered by no.
* `Batch.either_evaluation`: an either clause goes on to the next value after every yes, and ends
  with a value that gets none.
-/
namespace RuntimeContracts.Batch

/-! ## Questions -/

/-- The assertions in order, each about the same value. -/
def about (v : α) (assertions : List (Assertion ε α)) : List (α × Assertion ε α) :=
  assertions.map fun a => (v, a)

/-- The questions of a batch in order, those about the first value before those about the second
one. -/
def questions (vs : List α) (assertions : List (Assertion ε α)) : List (α × Assertion ε α) :=
  vs.flatMap fun v => about v assertions

/-- What the tests write when questions are put one after another. With tests that write an entry
of their own each, this is the list of the tests that ran. -/
def asked (qs : List (α × Assertion ε α)) : List ε :=
  qs.flatMap fun q => (q.2.test q.1).log

/-- The assertions up to the first one that holds, and that one. -/
def untilMet (v : α) (assertions : List (Assertion ε α)) : List (Assertion ε α) :=
  assertions.take (assertions.findIdx (fun a => (a.test v).value) + 1)

/-- The assertions up to the first one that does not hold, and that one. -/
def untilUnmet (v : α) (assertions : List (Assertion ε α)) : List (Assertion ε α) :=
  assertions.take (assertions.findIdx (fun a => !(a.test v).value) + 1)

theorem asked_append (qs qs' : List (α × Assertion ε α)) :
    asked (qs ++ qs') = asked qs ++ asked qs' :=
  List.flatMap_append

theorem asked_flatMap (vs : List β) (f : β → List (α × Assertion ε α)) :
    asked (vs.flatMap f) = vs.flatMap fun v => asked (f v) :=
  List.flatMap_assoc

theorem length_questions (vs : List α) (assertions : List (Assertion ε α)) :
    (questions vs assertions).length = vs.length * assertions.length := by
  induction vs with
  | nil => simp [questions]
  | cons v rest ih =>
    have hcons : questions (v :: rest) assertions = about v assertions ++ questions rest assertions :=
      List.flatMap_cons
    have hlen : (about v assertions).length = assertions.length := List.length_map _
    rw [hcons, List.length_append, ih, hlen, List.length_cons, Nat.succ_mul, Nat.add_comm]

/-- The questions up to the one that stands at place `j` among those about `v`. -/
theorem take_questions (earlier later : List α) (v : α) {assertions : List (Assertion ε α)} {j : Nat}
    (hj : j < assertions.length) :
    (questions (earlier ++ v :: later) assertions).take (earlier.length * assertions.length + j + 1) =
      questions earlier assertions ++ about v (assertions.take (j + 1)) := by
  have hsplit : questions (earlier ++ v :: later) assertions =
      questions earlier assertions ++ (about v assertions ++ questions later assertions) := by
    simp only [questions, List.flatMap_append, List.flatMap_cons]
  have hlen : (about v assertions).length = assertions.length := List.length_map _
  have hplace : earlier.length * assertions.length + j + 1 =
      (questions earlier assertions).length + (j + 1) := by
    rw [length_questions]
    omega
  rw [hsplit, hplace, List.take_length_add_append, List.take_append_of_le_length (by omega), about,
    ← List.map_take]
  rfl

/-! ## One value -/

theorem log_firstUnmet (v : α) (assertions : List (Assertion ε α)) :
    (firstUnmet v assertions).log = asked (about v (untilUnmet v assertions)) := by
  induction assertions with
  | nil => rfl
  | cons a rest ih =>
    cases h : (a.test v).value with
    | true =>
      simp only [firstUnmet, Logged.log_bind, h, if_true, ih, untilUnmet, List.findIdx_cons,
        Bool.not_true, cond_false, List.take_succ_cons]
      rfl
    | false =>
      simp only [firstUnmet, Logged.log_bind, h, untilUnmet, List.findIdx_cons, Bool.not_false,
        cond_true, List.take_succ_cons, List.take_zero]
      rfl

theorem log_anyMet (v : α) (assertions : List (Assertion ε α)) :
    (anyMet v assertions).log = asked (about v (untilMet v assertions)) := by
  induction assertions with
  | nil => rfl
  | cons a rest ih =>
    cases h : (a.test v).value with
    | true =>
      simp only [anyMet, Logged.log_bind, h, untilMet, List.findIdx_cons, cond_true,
        List.take_succ_cons, List.take_zero]
      rfl
    | false =>
      simp only [anyMet, Logged.log_bind, h, Bool.false_eq_true, if_false, ih, untilMet,
        List.findIdx_cons, cond_false, List.take_succ_cons]
      rfl

/-- Where all assertions hold, all of them are asked. -/
theorem untilUnmet_of_keeps {v : α} {assertions : List (Assertion ε α)}
    (h : ∀ a ∈ assertions, a.Holds v) : untilUnmet v assertions = assertions := by
  have hnone : assertions.findIdx (fun a => !(a.test v).value) = assertions.length := by
    rw [List.findIdx_eq_length]
    intro a ha
    simp [h a ha]
  rw [untilUnmet, hnone]
  exact List.take_of_length_le (Nat.le_succ _)

/-- Where no assertion holds, all of them are asked. -/
theorem untilMet_of_not_keeps {v : α} {assertions : List (Assertion ε α)}
    (h : ¬ ∃ a ∈ assertions, a.Holds v) : untilMet v assertions = assertions := by
  have hnone : assertions.findIdx (fun a => (a.test v).value) = assertions.length := by
    rw [List.findIdx_eq_length]
    intro a ha
    rw [← Bool.not_eq_true]
    exact fun hholds => h ⟨a, ha, hholds⟩
  rw [untilMet, hnone]
  exact List.take_of_length_le (Nat.le_succ _)

/-! ## Must clauses -/

/-- The assertion at place `j` does not hold for the value at place `i`, and this is the least such
pair of places, values counting first. -/
structure LeastUnmet (vs : List α) (assertions : List (Assertion ε α)) (i j : Nat) (v : α)
    (a : Assertion ε α) : Prop where
  value : vs[i]? = some v
  assertion : assertions[j]? = some a
  unmet : ¬ a.Holds v
  least : ∀ i' j' w b, vs[i']? = some w → assertions[j']? = some b →
    i' < i ∨ i' = i ∧ j' < j → b.Holds w

theorem leastUnmet_append {earlier later : List α} {before after : List (Assertion ε α)} {v : α}
    {a : Assertion ε α} (he : ∀ w ∈ earlier, ∀ b ∈ before ++ a :: after, b.Holds w)
    (hb : ∀ b ∈ before, b.Holds v) (ha : ¬ a.Holds v) :
    LeastUnmet (earlier ++ v :: later) (before ++ a :: after) earlier.length before.length v a where
  value := by simp
  assertion := by simp
  unmet := ha
  least i' j' w b hw hb' horder := by
    rcases horder with hlt | ⟨rfl, hlt⟩
    · rw [List.getElem?_append_left hlt] at hw
      exact he w (List.mem_of_getElem? hw) b (List.mem_of_getElem? hb')
    · rw [List.getElem?_append_right (Nat.le_refl _), Nat.sub_self, List.getElem?_cons_zero] at hw
      rw [List.getElem?_append_left hlt] at hb'
      cases hw
      exact hb b (List.mem_of_getElem? hb')

/-- The first assertion that does not hold ends the questions, and it is the one that is cited. -/
theorem must_of_first_unmet {before : List (Assertion ε α)} {v : α} {a : Assertion ε α}
    (hb : ∀ b ∈ before, b.Holds v) (ha : ¬ a.Holds v) (after : List (Assertion ε α)) :
    untilUnmet v (before ++ a :: after) = before ++ [a] ∧
      blamed .must (before ++ a :: after) v = [a] := by
  have hno : (!(a.test v).value) = true := by simpa using ha
  have hyes : ∀ b ∈ before, (!(b.test v).value) = false := by simpa using hb
  constructor
  · have hidx : (before ++ a :: after).findIdx (fun b => !(b.test v).value) = before.length := by
      rw [List.findIdx_append, if_neg, List.findIdx_cons, hno, cond_true, Nat.zero_add]
      rw [List.findIdx_lt_length]
      rintro ⟨b, hmem, hholds⟩
      rw [hyes b hmem] at hholds
      cases hholds
    rw [untilUnmet, hidx, List.take_length_add_append]
    rfl
  · have hnone : before.find? (fun b => !(b.test v).value) = none :=
      find?_unmet_eq_none_iff.2 hb
    have hfound : (a :: after).find? (fun b => !(b.test v).value) = some a :=
      List.find?_cons_of_pos hno
    rw [blamed, List.find?_append, hnone, Option.none_or, hfound]
    rfl

/-- **Must, completely.** If all assertions hold for all values, all questions are asked in order
and the batch passes. Otherwise there is a least pair of a value and an assertion that does not
hold for it; the questions are asked in order up to this one, and the violation is about this value
and cites this assertion only. -/
theorem must_evaluation [HasText α] (vs : List α) (assertions : List (Assertion ε α)) :
    ((∀ v ∈ vs, ∀ a ∈ assertions, a.Holds v) →
      (bound vs).must assertions = ⟨.ok (bound vs), asked (questions vs assertions)⟩) ∧
    ((¬ ∀ v ∈ vs, ∀ a ∈ assertions, a.Holds v) →
      ∃ i j v a, LeastUnmet vs assertions i j v a ∧
        (bound vs).must assertions =
          ⟨.error
            { clause := .must
              index := i
              value := HasText.text v
              cited := [a.displayName] },
            asked ((questions vs assertions).take (i * assertions.length + j + 1))⟩) := by
  have hasking : ∀ v, asking .must assertions v = asked (about v (untilUnmet v assertions)) :=
    fun v => log_firstUnmet v assertions
  -- what is asked about values for which all assertions hold
  have hkept : ∀ ws : List α, (∀ w ∈ ws, ∀ a ∈ assertions, a.Holds w) →
      ws.flatMap (asking .must assertions) = asked (questions ws assertions) := by
    intro ws hws
    rw [questions, asked_flatMap]
    refine List.flatMap_congr fun w hw => ?_
    rw [hasking, untilUnmet_of_keeps (hws w hw)]
  constructor
  · intro hall
    have hkeeps : ∀ v ∈ vs, Keeps .must assertions v := hall
    have hrequire := require_of_keeps hkeeps
    rw [hkept vs hall] at hrequire
    exact hrequire
  · intro hnot
    rcases all_or_first_not (Keeps .must assertions) vs with hall | ⟨earlier, v, later, rfl, he, hv⟩
    · exact absurd hall hnot
    rcases all_or_first_not (·.Holds v) assertions with hall | ⟨before, a, after, rfl, hb, ha⟩
    · exact absurd hall hv
    obtain ⟨huntil, hblamed⟩ := must_of_first_unmet hb ha after
    refine ⟨earlier.length, before.length, v, a, leastUnmet_append he hb ha, ?_⟩
    have hrequire := require_of_not_keeps he hv later
    have hj : before.length < (before ++ a :: after).length := by simp
    have htake : (before ++ a :: after).take (before.length + 1) = before ++ [a] := by
      rw [List.take_length_add_append]
      rfl
    rw [List.flatMap_append, hkept earlier he, List.flatMap_singleton, hasking, huntil, ← htake,
      ← asked_append, ← take_questions earlier later v hj, hblamed] at hrequire
    exact hrequire

/-! ## Either clauses -/

variable {ε α : Type}

/-- **Either, completely.** If for every value one of the assertions holds, every value is asked up
to the first one that does, and the batch passes. Otherwise there is a least value for which none
holds; it is asked about all of them, none behind it is asked, and the violation cites all
assertions as they were given. Without assertions this is the first value. -/
theorem either_evaluation [HasText α] (vs : List α) (assertions : List (Assertion ε α)) :
    ((∀ v ∈ vs, ∃ a ∈ assertions, a.Holds v) →
      (bound vs).either assertions =
        ⟨.ok (bound vs), asked (vs.flatMap fun v => about v (untilMet v assertions))⟩) ∧
    ((¬ ∀ v ∈ vs, ∃ a ∈ assertions, a.Holds v) →
      ∃ i v, vs[i]? = some v ∧ (∀ a ∈ assertions, ¬ a.Holds v) ∧
        (∀ i' w, i' < i → vs[i']? = some w → ∃ a ∈ assertions, a.Holds w) ∧
        (assertions = [] → i = 0) ∧
        (bound vs).either assertions =
          ⟨.error
            { clause := .either
              index := i
              value := HasText.text v
              cited := assertions.map (·.displayName) },
            asked (((vs.take i).flatMap fun w => about w (untilMet w assertions)) ++
              about v assertions)⟩) := by
  have hasking : ∀ ws : List α, ws.flatMap (asking .either assertions) =
      asked (ws.flatMap fun w => about w (untilMet w assertions)) := by
    intro ws
    rw [asked_flatMap]
    exact List.flatMap_congr fun w _ => log_anyMet w assertions
  constructor
  · intro hall
    have hkeeps : ∀ v ∈ vs, Keeps .either assertions v := hall
    have hrequire := require_of_keeps hkeeps
    rw [hasking] at hrequire
    exact hrequire
  · intro hnot
    rcases all_or_first_not (Keeps .either assertions) vs with
      hall | ⟨earlier, v, later, rfl, he, hv⟩
    · exact absurd hall hnot
    refine ⟨earlier.length, v, by simp, ?_, ?_, ?_, ?_⟩
    · exact fun a ha hholds => hv ⟨a, ha, hholds⟩
    · intro i' w hlt hw
      rw [List.getElem?_append_left hlt] at hw
      exact he w (List.mem_of_getElem? hw)
    · rintro rfl
      cases earlier with
      | nil => rfl
      | cons w rest =>
        obtain ⟨a, ha, -⟩ := he w List.mem_cons_self
        cases ha
    · have hrequire := require_of_not_keeps he hv later
      rw [hasking, List.flatMap_append, List.flatMap_singleton, untilMet_of_not_keeps hv] at hrequire
      rw [List.take_left]
      exact hrequire

end RuntimeContracts.Batch
