import RuntimeContracts.Proofs.Clause.Outcome

/-!
# Chains of clauses

A clause gives its batch back, so that the next one can be put to it. A chain of clauses asks
everything of the first clause before anything of the second one, and ends with the first clause
that fails. Each clause in it does what it does alone.

Two must clauses in a chain ask for the same as a single one over all their assertions. The single
one goes through the values once, though, and may come upon an earlier value that only the second
clause would blame.

* `Requirement`, `Batch.requireAll`: a clause with its assertions, and a chain of them.
* `Batch.requireAll_cons_of_ok`, `Batch.requireAll_cons_of_error`: the first clause of a chain.
* `Batch.requireAll_append`: the clauses that are kept at the beginning of a chain.
* `Batch.value_must_append_of_ok`, `Batch.value_must_append_of_error`: two must clauses and a single
  one.
* `Batch.chain_of_clauses`: all of it together.
-/
namespace RuntimeContracts

variable {ε α : Type}

namespace Batch

/-! ## Two lists of assertions -/

variable {first second : List (Assertion ε α)} {v : α}

theorem keeps_must_append_iff :
    Keeps .must (first ++ second) v ↔ Keeps .must first v ∧ Keeps .must second v :=
  List.forall_mem_append

/-- Where all of the first assertions hold, one of the second is blamed. -/
theorem blamed_append_of_keeps (h : Keeps .must first v) :
    blamed .must (first ++ second) v = blamed .must second v := by
  rw [blamed, List.find?_append, find?_unmet_eq_none_iff.2 h, Option.none_or]
  rfl

/-- Where one of the first assertions does not hold, it is blamed. -/
theorem blamed_append_of_not_keeps (h : ¬ Keeps .must first v) :
    blamed .must (first ++ second) v = blamed .must first v := by
  rw [blamed, List.find?_append, Option.or_of_isSome (isSome_find?_unmet_iff.2 h)]
  rfl

end Batch

/-! ## Clauses in a chain -/

/-- A clause with its assertions. -/
structure Requirement (ε α : Type) where
  clause : Clause
  assertions : List (Assertion ε α)

variable [HasText α]

/-- A clause that is put to a batch alone. -/
def Requirement.on (q : Requirement ε α) (b : Batch α) : Logged ε (Except Violation (Batch α)) :=
  b.require q.clause q.assertions

namespace Batch

/-- Clauses one after another, each on the batch that the one before it gives back, up to the first
that fails. -/
def requireAll (b : Batch α) :
    List (Requirement ε α) → Logged ε (Except Violation (Batch α))
  | [] => pure (.ok b)
  | q :: rest => do
    match ← q.on b with
    | .ok b' => b'.requireAll rest
    | .error r => return .error r

variable {b : Batch α} {q : Requirement ε α}

theorem on_ok_or_error (q : Requirement ε α) (b : Batch α) :
    (q.on b).value = .ok b ∨ ∃ r, (q.on b).value = .error r := by
  rcases require_cases q.clause q.assertions b with ⟨-, hok⟩ | ⟨i, v, -, herror⟩
  · exact .inl hok
  · exact .inr ⟨_, herror⟩

/-- A clause that is kept is followed by the rest of the chain on the same batch. -/
theorem requireAll_cons_of_ok (h : (q.on b).value = .ok b) (rest : List (Requirement ε α)) :
    b.requireAll (q :: rest) =
      ⟨(b.requireAll rest).value, (q.on b).log ++ (b.requireAll rest).log⟩ := by
  apply Logged.ext
  · rw [requireAll, Logged.value_bind, h]
  · rw [requireAll, Logged.log_bind, h]

/-- A clause that fails ends the chain. -/
theorem requireAll_cons_of_error {r : Violation} (h : (q.on b).value = .error r)
    (rest : List (Requirement ε α)) : b.requireAll (q :: rest) = ⟨.error r, (q.on b).log⟩ := by
  apply Logged.ext
  · rw [requireAll, Logged.value_bind, h]
    rfl
  · rw [requireAll, Logged.log_bind, h]
    exact List.append_nil _

/-- Clauses that are kept are asked in order, and the rest of the chain decides. -/
theorem requireAll_append {earlier : List (Requirement ε α)}
    (h : ∀ q ∈ earlier, (q.on b).value = .ok b) (later : List (Requirement ε α)) :
    b.requireAll (earlier ++ later) =
      ⟨(b.requireAll later).value,
        (earlier.flatMap fun q => (q.on b).log) ++ (b.requireAll later).log⟩ := by
  induction earlier with
  | nil => rfl
  | cons q rest ih =>
    rw [List.forall_mem_cons] at h
    rw [List.cons_append, requireAll_cons_of_ok h.1, ih h.2, List.flatMap_cons, List.append_assoc]

theorem requireAll_of_ok {chain : List (Requirement ε α)}
    (h : ∀ q ∈ chain, (q.on b).value = .ok b) :
    b.requireAll chain = ⟨.ok b, chain.flatMap fun q => (q.on b).log⟩ := by
  have hall := requireAll_append h []
  rw [List.append_nil] at hall
  rw [hall, requireAll, Logged.value_pure, Logged.log_pure, List.append_nil]

/-- The first clause that fails ends the chain, and none behind it is asked. -/
theorem requireAll_of_error {before : List (Requirement ε α)} {r : Violation}
    (hbefore : ∀ p ∈ before, (p.on b).value = .ok b) (hq : (q.on b).value = .error r)
    (after : List (Requirement ε α)) :
    b.requireAll (before ++ q :: after) =
      ⟨.error r, (before ++ [q]).flatMap fun p => (p.on b).log⟩ := by
  rw [requireAll_append hbefore, requireAll_cons_of_error hq, List.flatMap_append,
    List.flatMap_singleton]

theorem value_requireAll_eq_ok_iff {chain : List (Requirement ε α)} :
    (b.requireAll chain).value = .ok b ↔ ∀ q ∈ chain, (q.on b).value = .ok b := by
  rcases all_or_first_not (fun q : Requirement ε α => (q.on b).value = .ok b) chain with
    hall | ⟨before, q, after, rfl, hbefore, hq⟩
  · rw [requireAll_of_ok hall]
    exact iff_of_true rfl hall
  · obtain ⟨r, hr⟩ := (on_ok_or_error q b).resolve_left hq
    rw [requireAll_of_error hbefore hr]
    exact iff_of_false (fun h => by cases h) fun hall => hq (hall q (by simp))

/-! ## Two must clauses and a single one -/

variable {first second : List (Assertion ε α)}

theorem value_must_append_eq_ok_iff :
    (b.must (first ++ second)).value = .ok b ↔
      (b.must first).value = .ok b ∧ (b.must second).value = .ok b := by
  simp only [← require_must, value_require_eq_ok_iff, keeps_must_append_iff, imp_and, forall_and]

/-- If the first clause is kept, the report of the second one stands. -/
theorem value_must_append_of_ok {r : Violation} (hfirst : (b.must first).value = .ok b)
    (hsecond : (b.must second).value = .error r) : (b.must (first ++ second)).value = .error r := by
  rw [← require_must, value_require_eq_ok_iff] at hfirst
  rw [← require_must, value_require_eq_error_iff] at hsecond
  obtain ⟨i, v, hbroken, rfl⟩ := hsecond
  rw [← require_must, value_require_eq_error_iff]
  refine ⟨i, v, ?_, ?_⟩
  · constructor
    · exact hbroken.value
    · exact fun hkept => hbroken.unkept (keeps_must_append_iff.1 hkept).2
    · intro j w hlt hw
      have hw' : w ∈ b.values := List.mem_of_getElem? hw
      exact keeps_must_append_iff.2 ⟨hfirst w hw', hbroken.earlier j w hlt hw⟩
  · rw [blamed_append_of_keeps (hfirst v (List.mem_of_getElem? hbroken.value))]

/-- If the first clause fails, so does the single one. Its report is about a value that does not
stand behind the one that the first clause blames, and if it is about this value, it is the same. -/
theorem value_must_append_of_error {r : Violation} (hfirst : (b.must first).value = .error r) :
    ∃ r', (b.must (first ++ second)).value = .error r' ∧ r'.index ≤ r.index ∧
      (r'.index = r.index → r' = r) := by
  simp only [← require_must] at hfirst ⊢
  have himp : ∀ v, Keeps .must (first ++ second) v → Keeps .must first v :=
    fun v hkept => (keeps_must_append_iff.1 hkept).1
  obtain ⟨r', hr', hle⟩ := exists_error_of_imp himp hfirst
  refine ⟨r', hr', hle, fun hindex => ?_⟩
  -- in the same place there is the same value, and one of the first assertions does not hold for it
  obtain ⟨i, v, hbroken, rfl⟩ := value_require_eq_error_iff.1 hfirst
  obtain ⟨j, w, hbroken', rfl⟩ := value_require_eq_error_iff.1 hr'
  obtain rfl : j = i := hindex
  obtain rfl : v = w := hbroken.eq_of_index_eq hbroken' rfl
  rw [blamed_append_of_not_keeps hbroken.unkept]

/-! ## All together -/

/-- **Chains of clauses.** A chain is kept just in case each of its clauses is kept alone, and then
it has asked what all of them ask. Otherwise it fails with the report that the first failing clause
gives alone, and has asked what the clauses up to this one ask. The order of the clauses and how
often they occur do not matter for whether it is kept. Two must clauses are kept just in case a
single one over all their assertions is. If only the second one fails, the single one makes the same
report. If the first one fails, the single one blames the same value in the same way, or an earlier
value. -/
theorem chain_of_clauses (b : Batch α) (chain : List (Requirement ε α)) :
    ((b.requireAll chain).value = .ok b ↔ ∀ q ∈ chain, (q.on b).value = .ok b) ∧
    ((∀ q ∈ chain, (q.on b).value = .ok b) →
      b.requireAll chain = ⟨.ok b, chain.flatMap fun q => (q.on b).log⟩) ∧
    ((¬ ∀ q ∈ chain, (q.on b).value = .ok b) →
      ∃ before q after r, chain = before ++ q :: after ∧
        (∀ p ∈ before, (p.on b).value = .ok b) ∧ (q.on b).value = .error r ∧
        b.requireAll chain = ⟨.error r, (before ++ [q]).flatMap fun p => (p.on b).log⟩) ∧
    (∀ other, (∀ q, q ∈ other ↔ q ∈ chain) →
      ((b.requireAll other).value = .ok b ↔ (b.requireAll chain).value = .ok b)) ∧
    ∀ first second : List (Assertion ε α),
      ((b.requireAll [⟨.must, first⟩, ⟨.must, second⟩]).value = .ok b ↔
        (b.must (first ++ second)).value = .ok b) ∧
      (∀ r, (b.must first).value = .ok b → (b.must second).value = .error r →
        (b.must (first ++ second)).value = .error r) ∧
      ∀ r, (b.must first).value = .error r →
        ∃ r', (b.must (first ++ second)).value = .error r' ∧ r'.index ≤ r.index ∧
          (r'.index = r.index → r' = r) := by
  refine ⟨value_requireAll_eq_ok_iff, requireAll_of_ok, ?_, ?_, fun first second => ⟨?_, ?_, ?_⟩⟩
  · intro hnot
    rcases all_or_first_not (fun q : Requirement ε α => (q.on b).value = .ok b) chain with
      hall | ⟨before, q, after, rfl, hbefore, hq⟩
    · exact absurd hall hnot
    · obtain ⟨r, hr⟩ := (on_ok_or_error q b).resolve_left hq
      exact ⟨before, q, after, r, rfl, hbefore, hr, requireAll_of_error hbefore hr after⟩
  · intro other hsame
    rw [value_requireAll_eq_ok_iff, value_requireAll_eq_ok_iff]
    simp only [hsame]
  · rw [value_requireAll_eq_ok_iff, value_must_append_eq_ok_iff, List.forall_mem_cons,
      List.forall_mem_singleton]
    rfl
  · exact fun r => value_must_append_of_ok
  · exact fun r => value_must_append_of_error

end Batch

end RuntimeContracts
