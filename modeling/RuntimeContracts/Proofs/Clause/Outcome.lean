import RuntimeContracts.Proofs.Clause.Verdict

/-!
# Outcomes of clauses

A clause gives the batch back, or it reports the first value that does not keep it. Which of the
two happens, and which value is reported, is a matter of `Batch.Keeps` alone, and not of the way in
which the tests were run. Two clauses on the same values can therefore be compared value by value.

* `Batch.FirstUnkept`: the first value that does not keep a clause, with its place.
* `Batch.value_require_eq_ok_iff`, `Batch.value_require_eq_error_iff`: when a clause gives the batch
  back, and when it makes a certain report.
* `Batch.exists_error_of_imp`: a clause that asks for more fails no later.
* `Batch.exists_error_of_iff`: clauses that ask for the same fail at the same value.
-/
namespace RuntimeContracts.Batch

variable {ε α : Type} {clause clause' : Clause} {assertions assertions' : List (Assertion ε α)}
  {vs : List α}

/-! ## The first value that does not keep a clause -/

/-- The value in a place of a list does not keep a clause, and all values before it do. -/
structure FirstUnkept (clause : Clause) (assertions : List (Assertion ε α)) (vs : List α)
    (index : Nat) (v : α) : Prop where
  value : vs[index]? = some v
  unkept : ¬ Keeps clause assertions v
  earlier : ∀ i w, i < index → vs[i]? = some w → Keeps clause assertions w

theorem firstUnkept_append {earlier : List α} {v : α}
    (he : ∀ w ∈ earlier, Keeps clause assertions w) (hv : ¬ Keeps clause assertions v)
    (later : List α) :
    FirstUnkept clause assertions (earlier ++ v :: later) earlier.length v where
  value := by simp
  unkept := hv
  earlier i w hlt hw := by
    rw [List.getElem?_append_left hlt] at hw
    exact he w (List.mem_of_getElem? hw)

namespace FirstUnkept

variable {i j : Nat} {v w : α}

theorem not_forall (h : FirstUnkept clause assertions vs i v) :
    ¬ ∀ u ∈ vs, Keeps clause assertions u :=
  fun hall => h.unkept (hall v (List.mem_of_getElem? h.value))

/-- A clause that asks for more is broken no later. -/
theorem le (h : FirstUnkept clause assertions vs i v)
    (h' : FirstUnkept clause' assertions' vs j w)
    (himp : ∀ u, Keeps clause' assertions' u → Keeps clause assertions u) : j ≤ i := by
  rcases Nat.lt_or_ge i j with hlt | hle
  · have hkept : Keeps clause' assertions' v := h'.earlier i v hlt h.value
    exact absurd (himp v hkept) h.unkept
  · exact hle

theorem congr (h : FirstUnkept clause assertions vs i v)
    (hiff : ∀ u, Keeps clause assertions u ↔ Keeps clause' assertions' u) :
    FirstUnkept clause' assertions' vs i v where
  value := h.value
  unkept hkept := h.unkept ((hiff v).2 hkept)
  earlier k u hlt hu := (hiff u).1 (h.earlier k u hlt hu)

theorem eq_of_index_eq (h : FirstUnkept clause assertions vs i v)
    (h' : FirstUnkept clause' assertions' vs j w) (hindex : i = j) : v = w := by
  subst hindex
  exact Option.some.inj (h.value.symm.trans h'.value)

/-- There is only one such place, and one value in it. -/
theorem unique (h : FirstUnkept clause assertions vs i v)
    (h' : FirstUnkept clause assertions vs j w) : i = j ∧ v = w := by
  have hindex : i = j := Nat.le_antisymm (h'.le h fun _ => id) (h.le h' fun _ => id)
  exact ⟨hindex, h.eq_of_index_eq h' hindex⟩

end FirstUnkept

/-! ## Outcomes -/

@[simp] theorem values_bound (vs : List α) : (bound vs).values = vs := rfl

variable [HasText α] {b : Batch α}

theorem require_must (b : Batch α) (assertions : List (Assertion ε α)) :
    b.require .must assertions = b.must assertions := rfl

theorem require_either (b : Batch α) (assertions : List (Assertion ε α)) :
    b.require .either assertions = b.either assertions := rfl

/-- Every clause is kept, or it reports the first value that does not keep it. -/
theorem require_cases (clause : Clause) (assertions : List (Assertion ε α)) (b : Batch α) :
    (∀ v ∈ b.values, Keeps clause assertions v) ∧ (b.require clause assertions).value = .ok b ∨
      ∃ i v, FirstUnkept clause assertions b.values i v ∧
        (b.require clause assertions).value =
          .error (violation clause i v (blamed clause assertions v)) := by
  cases b with
  | exempt => exact .inl ⟨List.forall_mem_nil _, by rw [require_exempt, Logged.value_pure]⟩
  | bound vs =>
    rcases all_or_first_not (Keeps clause assertions) vs with
      hall | ⟨earlier, v, later, rfl, he, hv⟩
    · exact .inl ⟨hall, congrArg Logged.value (require_of_keeps hall)⟩
    · exact .inr ⟨earlier.length, v, firstUnkept_append he hv later,
        congrArg Logged.value (require_of_not_keeps he hv later)⟩

theorem value_require_eq_ok_iff :
    (b.require clause assertions).value = .ok b ↔ ∀ v ∈ b.values, Keeps clause assertions v := by
  rcases require_cases clause assertions b with ⟨hall, hok⟩ | ⟨i, v, hfirst, herror⟩
  · exact iff_of_true hok hall
  · rw [herror]
    exact iff_of_false (fun h => by cases h) hfirst.not_forall

theorem value_require_eq_error_iff {r : Violation} :
    (b.require clause assertions).value = .error r ↔
      ∃ i v, FirstUnkept clause assertions b.values i v ∧
        r = violation clause i v (blamed clause assertions v) := by
  rcases require_cases clause assertions b with ⟨hall, hok⟩ | ⟨i, v, hfirst, herror⟩
  · rw [hok]
    refine iff_of_false (fun h => by cases h) ?_
    rintro ⟨i, v, hfirst, -⟩
    exact hfirst.not_forall hall
  · rw [herror]
    constructor
    · intro h
      cases h
      exact ⟨i, v, hfirst, rfl⟩
    · rintro ⟨j, w, hfirst', rfl⟩
      obtain ⟨rfl, rfl⟩ := hfirst.unique hfirst'
      rfl

/-- A clause fails if it is not kept. -/
theorem exists_error_iff :
    (∃ r, (b.require clause assertions).value = .error r) ↔
      ∃ v ∈ b.values, ¬ Keeps clause assertions v := by
  rcases require_cases clause assertions b with ⟨hall, hok⟩ | ⟨i, v, hfirst, herror⟩
  · rw [hok]
    refine iff_of_false (fun ⟨r, h⟩ => by cases h) ?_
    rintro ⟨v, hv, hnot⟩
    exact hnot (hall v hv)
  · exact iff_of_true ⟨_, herror⟩ ⟨v, List.mem_of_getElem? hfirst.value, hfirst.unkept⟩

/-- A value alone is asked what the clause asks of it, whether it keeps the clause or not. -/
theorem log_require_singleton (clause : Clause) (assertions : List (Assertion ε α)) (v : α) :
    ((bound [v]).require clause assertions).log = asking clause assertions v := by
  by_cases hv : Keeps clause assertions v
  · rw [require_of_keeps (List.forall_mem_singleton.2 hv), List.flatMap_singleton]
  · have hrequire := require_of_not_keeps (List.forall_mem_nil _) hv []
    rw [List.nil_append, List.flatMap_singleton] at hrequire
    rw [hrequire]

/-! ## Two clauses on the same batch -/

/-- A clause that asks for more fails as well, and no later. -/
theorem exists_error_of_imp
    (himp : ∀ v, Keeps clause' assertions' v → Keeps clause assertions v) {r : Violation}
    (h : (b.require clause assertions).value = .error r) :
    ∃ r', (b.require clause' assertions').value = .error r' ∧ r'.index ≤ r.index := by
  obtain ⟨i, v, hfirst, rfl⟩ := value_require_eq_error_iff.1 h
  rcases require_cases clause' assertions' b with ⟨hall, -⟩ | ⟨j, w, hfirst', herror⟩
  · exact absurd (fun w hw => himp w (hall w hw)) hfirst.not_forall
  · exact ⟨_, herror, hfirst.le hfirst' himp⟩

/-- Clauses that ask for the same fail at the same value. -/
theorem exists_error_of_iff
    (hiff : ∀ v, Keeps clause assertions v ↔ Keeps clause' assertions' v) {r : Violation}
    (h : (b.require clause assertions).value = .error r) :
    ∃ r', (b.require clause' assertions').value = .error r' ∧
      r'.index = r.index ∧ r'.value = r.value := by
  obtain ⟨i, v, hfirst, rfl⟩ := value_require_eq_error_iff.1 h
  exact ⟨_, value_require_eq_error_iff.2 ⟨i, v, hfirst.congr hiff, rfl⟩, rfl, rfl⟩

end RuntimeContracts.Batch
