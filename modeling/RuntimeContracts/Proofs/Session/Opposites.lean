import RuntimeContracts.Proofs.Clause.Verdict
import RuntimeContracts.Proofs.Session.Start
import RuntimeContracts.Value.Text

/-!
# An assertion and its inversion

For every value exactly one of an assertion and its inversion holds. An either clause over the two
is kept by every batch, and a must clause by the empty batch only. A checker that is still on hands
out such a pair under every name that is registered in it, whatever has been registered before.

* `Assertion.Opposes`: for every value exactly one of two assertions holds.
* `Batch.either_opposites`, `Batch.must_opposites`: clauses over the two.
* `Checker.exists_lookups`: what a checker hands out under a registered name.
* `Session.excluded_middle`: clauses over what is handed out under a name.
-/
namespace RuntimeContracts

/-! ## Opposites -/

namespace Assertion

/-- For every value exactly one of two assertions holds. -/
def Opposes (a b : Assertion ε α) : Prop := ∀ v, a.Holds v ↔ ¬ b.Holds v

theorem Opposes.symm {a b : Assertion ε α} (h : a.Opposes b) : b.Opposes a := by
  intro v
  rw [h v, Classical.not_not]

theorem opposes_invert (a : Assertion ε α) : a.Opposes a.invert := by
  intro v
  rw [holds_invert_iff, Classical.not_not]

end Assertion

namespace Batch

variable {ε α : Type} [HasText α] {a b : Assertion ε α}

/-- One of two opposites holds. -/
theorem either_opposites (h : a.Opposes b) (vs : List α) :
    ((bound vs).either [a, b]).value = .ok (bound vs) := by
  have hkeeps : ∀ v ∈ vs, Keeps .either [a, b] v := by
    intro v _
    by_cases ha : a.Holds v
    · exact ⟨a, List.mem_cons_self, ha⟩
    · exact ⟨b, List.mem_cons_of_mem _ List.mem_cons_self, (h.symm v).2 ha⟩
  exact congrArg Logged.value (require_of_keeps hkeeps)

/-- One of two opposites does not hold, and the first value is blamed for it. -/
theorem must_opposites (h : a.Opposes b) (v : α) (rest : List α) :
    ∃ x y, ([a, b] = [x, y] ∨ [a, b] = [y, x]) ∧ ¬ x.Holds v ∧ y.Holds v ∧
      ((bound (v :: rest)).must [a, b]).value =
        .error
          { clause := .must
            index := 0
            value := HasText.text v
            cited := [x.displayName] } := by
  -- the violation of a value that does not keep the clause
  have hviolated : ¬ Keeps .must [a, b] v →
      ((bound (v :: rest)).must [a, b]).value =
        .error (violation .must 0 v (blamed .must [a, b] v)) := by
    intro hnot
    exact congrArg Logged.value (require_of_not_keeps (List.forall_mem_nil _) hnot rest)
  by_cases ha : a.Holds v
  · have hb : ¬ b.Holds v := (h v).1 ha
    have hblamed : blamed .must [a, b] v = [b] := by simp [blamed, ha, hb]
    refine ⟨b, a, .inr rfl, hb, ha, ?_⟩
    rw [hviolated fun hkeeps => hb (hkeeps b (List.mem_cons_of_mem _ List.mem_cons_self)), hblamed]
    rfl
  · have hno : (a.test v).value = false := Bool.eq_false_iff.2 ha
    have hblamed : blamed .must [a, b] v = [a] := by simp [blamed, hno]
    refine ⟨a, b, .inl rfl, ha, (h.symm v).2 ha, ?_⟩
    rw [hviolated fun hkeeps => ha (hkeeps a List.mem_cons_self), hblamed]
    rfl

theorem must_opposites_iff (h : a.Opposes b) (vs : List α) :
    ((bound vs).must [a, b]).value = .ok (bound vs) ↔ vs = [] := by
  cases vs with
  | nil => exact iff_of_true rfl rfl
  | cons v rest =>
    obtain ⟨x, y, -, -, -, hmust⟩ := must_opposites h v rest
    rw [hmust]
    exact iff_of_false (fun h => by cases h) (List.cons_ne_nil v rest)

end Batch

/-! ## What is handed out -/

/-- Under a registered name a checker that is on hands out an assertion and its inversion. -/
theorem Checker.exists_lookups {c : Checker ε α} (h : c.registry.Filled) (hc : c.enabled = true)
    {name : String} (hname : c.contains name = true) :
    ∃ a, c.assertion name = .ok a ∧ c.negation name = .ok a.invert := by
  obtain ⟨history, hr⟩ := h
  have hremembers : c.registry.Remembers history := hr ▸ Registry.remembers_offerEach history
  obtain ⟨a, ha⟩ : ∃ a, c.registry.get? name = some a := Option.isSome_iff_exists.1 hname
  have hinverted : c.registry.getInverted? name = some a.invert := by
    rw [hremembers.getInverted?_eq, ha, Option.map_some]
  refine ⟨a, ?_, ?_⟩
  · simp [assertion, lookup, hc, ha]
  · simp [negation, lookup, hc, hinverted]

namespace Session

variable {ε α : Type} [HasText α]

/-- **Excluded middle and non-contradiction.** In any session whose checker is still on, a
registered name gives an assertion and its negation. An either clause over the two, in either
order, is kept by every batch. A must clause over them is kept by the empty batch only; otherwise
it fails at the first value and cites the one of the two that does not hold for it. The same is
true if the negation is not looked up, but made from the assertion. -/
theorem excluded_middle (start : Start ε α) (actions : List (Action ε α)) {s : Session ε α}
    (hs : (start.session actions).value = .ok s) (hon : s.checker.enabled = true) (name : String)
    (hname : s.checker.contains name = true) (values : List α) :
    let batch := s.checker.bind values
    batch = .bound values ∧
    ∃ a b, s.checker.assertion name = .ok a ∧ s.checker.negation name = .ok b ∧
      ∀ pair ∈ [[a, b], [b, a], [a, a.invert], [a.invert, a]],
        (batch.either pair).value = .ok batch ∧
        ((batch.must pair).value = .ok batch ↔ values = []) ∧
        ∀ v rest, values = v :: rest →
          ∃ x y, (pair = [x, y] ∨ pair = [y, x]) ∧ ¬ x.Holds v ∧ y.Holds v ∧
            (batch.must pair).value =
              .error
                { clause := .must
                  index := 0
                  value := HasText.text v
                  cited := [x.displayName] } := by
  intro batch
  have hbatch : batch = .bound values := if_pos hon
  obtain ⟨a, ha, hinvert⟩ := Checker.exists_lookups (Start.filled_session hs) hon hname
  have hpair : ∀ p q : Assertion ε α, p.Opposes q →
      (batch.either [p, q]).value = .ok batch ∧
      ((batch.must [p, q]).value = .ok batch ↔ values = []) ∧
      ∀ v rest, values = v :: rest →
        ∃ x y, ([p, q] = [x, y] ∨ [p, q] = [y, x]) ∧ ¬ x.Holds v ∧ y.Holds v ∧
          (batch.must [p, q]).value =
            .error
              { clause := .must
                index := 0
                value := HasText.text v
                cited := [x.displayName] } := by
    intro p q hpq
    rw [hbatch]
    refine ⟨Batch.either_opposites hpq values, Batch.must_opposites_iff hpq values, ?_⟩
    rintro v rest rfl
    exact Batch.must_opposites hpq v rest
  have hopposes := a.opposes_invert
  refine ⟨hbatch, a, a.invert, ha, hinvert, ?_⟩
  simp only [List.forall_mem_cons]
  exact ⟨hpair _ _ hopposes, hpair _ _ hopposes.symm, hpair _ _ hopposes,
    hpair _ _ hopposes.symm, List.forall_mem_nil _⟩

/-- An inversion with a display name of its own. -/
def noText : Assertion Unit Value :=
  (Assertion.ofTest "text" (.silent Value.isString)).invert.withDisplayName "no text"

/-- An inversion is registered, and another assertion is refused because the name is taken. -/
theorem excluded_middle_of_inverted :
    ∃ s : Session Unit Value,
      ((Start.setup [.assertion noText]).session
        [.registerTest "text" (.silent fun _ => true)]).value = .ok s ∧
      s.checker.enabled = true ∧ s.checker.contains "text" = true ∧
      s.checker.assertion "text" = .ok noText ∧ s.checker.negation "text" = .ok noText.invert ∧
      let batch := s.checker.bind [.string "x", .null]
      (batch.either [noText.invert, noText]).value = .ok batch ∧
      (batch.must [noText.invert, noText]).value =
        .error
          { clause := .must
            index := 0
            value := "x"
            cited := ["no text"] } := by
  refine ⟨⟨⟨(Registry.empty.offer noText).2, true⟩, []⟩, rfl, rfl, rfl, rfl, rfl, ?_⟩
  obtain ⟨-, a, b, ha, hb, hpairs⟩ :=
    excluded_middle (.setup [.assertion noText]) [.registerTest "text" (.silent fun _ => true)]
      (s := ⟨⟨(Registry.empty.offer noText).2, true⟩, []⟩) rfl rfl "text" rfl [.string "x", .null]
  obtain rfl : noText = a := Except.ok.inj ha
  obtain rfl : noText.invert = b := Except.ok.inj hb
  obtain ⟨heither, -, hmust⟩ := hpairs [noText.invert, noText] (by simp)
  obtain ⟨x, y, hpair, hx, -, hviolated⟩ := hmust (.string "x") [.null] rfl
  refine ⟨heither, ?_⟩
  rcases hpair with hpair | hpair
  · cases hpair
    exact absurd rfl hx
  · cases hpair
    exact hviolated

end Session

end RuntimeContracts
