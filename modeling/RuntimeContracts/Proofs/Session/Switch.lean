import RuntimeContracts.Proofs.Session.Basic

/-!
# The switch

Once a checker is switched off, nothing that is done in its session has an effect any more. Only
batches that were bound before keep asking their questions.

* `Session.SwitchedOff`: the invariant. The checker is off, its registry is the one that it had
  when the switch was thrown, and every batch that was bound since is exempt.
* `Session.SwitchedOff.step`, `Session.SwitchedOff.run`: no action breaks it.
* `Session.SwitchedOff.log_run`: nothing is traced, unless a clause is put to an older batch.
* `Session.disable_is_final`: what is left of a checker after the switch.
-/
namespace RuntimeContracts

namespace Checker

variable {c : Checker ε α}

theorem registerAll_of_disabled (h : c.enabled = false) (assertions : List (Assertion ε α)) :
    c.registerAll assertions = pure (.ok (), c) := by
  induction assertions with
  | nil => rfl
  | cons a rest ih =>
    rw [registerAll, register_of_disabled h, pure_bind]
    exact ih

theorem disable_of_disabled (h : c.enabled = false) : c.disable = pure c := by
  obtain ⟨r, enabled⟩ := c
  cases h
  rfl

/-- A disabled checker knows every name, and cites it as it is looked up. -/
theorem lookup_inert (h : c.enabled = false) (name : String) (inverted : Bool) :
    ∃ a, c.lookup name inverted = .ok a ∧ a.name = name ∧
      a.displayName = if inverted then "not " ++ name else name := by
  refine ⟨.inert name inverted, lookup_of_disabled h name inverted, ?_, ?_⟩
  · cases inverted <;> rfl
  · cases inverted <;> rfl

end Checker

namespace Session

variable {ε α : Type} {r : Registry ε α} {old : List (Batch α)} {s : Session ε α}

/-- The checker is off and has this registry, and the session has had these batches when it was
switched off. -/
structure SwitchedOff (r : Registry ε α) (old : List (Batch α)) (s : Session ε α) : Prop where
  checker : s.checker = ⟨r, false⟩
  batches : ∃ later, s.batches = old ++ later ∧ ∀ b ∈ later, b = .exempt

/-- An action other than a clause on one of the first `n` batches. -/
def Action.IsSince (n : Nat) : Action ε α → Prop
  | .require place _ _ => n ≤ place
  | _ => True

namespace SwitchedOff

theorem enabled (h : s.SwitchedOff r old) : s.checker.enabled = false := by
  rw [h.checker]

/-- A session with the same checker, and no other batches than exempt ones in addition. -/
theorem of_append {s' : Session ε α} (h : s.SwitchedOff r old) (added : List (Batch α))
    (hc : s'.checker = s.checker) (hb : s'.batches = s.batches ++ added)
    (hadded : ∀ b ∈ added, b = .exempt) : s'.SwitchedOff r old where
  checker := hc.trans h.checker
  batches := by
    obtain ⟨later, hlater, hexempt⟩ := h.batches
    refine ⟨later ++ added, ?_, ?_⟩
    · rw [hb, hlater, List.append_assoc]
    · intro b hmem
      rcases List.mem_append.1 hmem with hmem | hmem
      · exact hexempt b hmem
      · exact hadded b hmem

/-- A batch that was bound since is exempt. -/
theorem exempt_of_le (h : s.SwitchedOff r old) {place : Nat} {b : Batch α}
    (hplace : old.length ≤ place) (hb : s.batches[place]? = some b) : b = .exempt := by
  obtain ⟨later, hlater, hexempt⟩ := h.batches
  rw [hlater, List.getElem?_append_right hplace] at hb
  exact hexempt b (List.mem_of_getElem? hb)

variable [HasText α]

/-- No action turns the checker on again or changes its registry, and what is bound is exempt. -/
theorem step (h : s.SwitchedOff r old) (x : Action ε α) : (s.step x).value.SwitchedOff r old := by
  have hoff := h.enabled
  have hsame : ∀ s' : Session ε α, s'.checker = s.checker → s'.batches = s.batches →
      s'.SwitchedOff r old := by
    intro s' hc hb
    refine h.of_append [] hc ?_ ?_
    · rw [hb, List.append_nil]
    · intro b hmem
      cases hmem
  cases x with
  | register a =>
    refine hsame _ ?_ rfl
    show (s.checker.register a).value.2 = s.checker
    rw [Checker.register_of_disabled hoff]
    rfl
  | registerTest name test =>
    refine hsame _ ?_ rfl
    show (s.checker.register (.ofTest name test)).value.2 = s.checker
    rw [Checker.register_of_disabled hoff]
    rfl
  | registerAll assertions =>
    refine hsame _ ?_ rfl
    show (s.checker.registerAll assertions).value.2 = s.checker
    rw [Checker.registerAll_of_disabled hoff]
    rfl
  | disable =>
    refine hsame _ ?_ rfl
    show s.checker.disable.value = s.checker
    rw [Checker.disable_of_disabled hoff]
    rfl
  | lookup name inverted => exact h
  | bind values =>
    refine h.of_append [s.checker.bind values] rfl rfl ?_
    intro b hb
    rw [List.mem_singleton.1 hb]
    exact Checker.bind_of_disabled hoff values
  | require place clause assertions =>
    rw [value_step_require]
    exact h

/-- Only a clause on an older batch can be traced. -/
theorem log_step (h : s.SwitchedOff r old) {x : Action ε α} (hx : x.IsSince old.length) :
    (s.step x).log = [] := by
  have hoff := h.enabled
  cases x with
  | register a =>
    rw [Session.step, Checker.register_of_disabled hoff]
    rfl
  | registerTest name test =>
    rw [Session.step, Checker.registerTest, Checker.register_of_disabled hoff]
    rfl
  | registerAll assertions =>
    rw [Session.step, Checker.registerAll_of_disabled hoff]
    rfl
  | disable =>
    rw [Session.step, Checker.disable_of_disabled hoff]
    rfl
  | lookup name inverted => rfl
  | bind values => rfl
  | require place clause assertions =>
    cases hb : s.batches[place]? with
    | none => rw [step_require_of_none hb, Logged.log_pure]
    | some b =>
      rw [step_require_of_some hb, h.exempt_of_le hx hb, Batch.require_exempt]
      rfl

theorem run (h : s.SwitchedOff r old) (since : List (Action ε α)) :
    (s.run since).value.SwitchedOff r old := by
  induction since generalizing s with
  | nil => exact h
  | cons x rest ih => exact ih (h.step x)

theorem log_run (h : s.SwitchedOff r old) {since : List (Action ε α)}
    (hsince : ∀ x ∈ since, x.IsSince old.length) : (s.run since).log = [] := by
  induction since generalizing s with
  | nil => rfl
  | cons x rest ih =>
    have hx := h.log_step (hsince x List.mem_cons_self)
    have hrest := ih (h.step x) fun y hy => hsince y (List.mem_cons_of_mem x hy)
    rw [Session.run, Logged.log_bind, hx, hrest]
    rfl

end SwitchedOff

variable [HasText α]

/-- The switch establishes the invariant, whatever the session has been like before. -/
theorem switchedOff_disable (s : Session ε α) :
    (s.step .disable).value.SwitchedOff s.checker.registry s.batches where
  checker := rfl
  batches := ⟨[], (List.append_nil _).symm, fun _ hb => by cases hb⟩

/-- **The switch is final and silent.** After any session has been switched off, and whatever is
done in it since, the checker stays off and keeps its registry, it accepts every registration
without an effect, knows every name, binds nothing, and its batches keep every clause without
asking anything. Nothing is traced, unless a clause is put to a batch from before. -/
theorem disable_is_final (s : Session ε α) (since : List (Action ε α)) :
    let off := (s.step .disable).value
    let now := (off.run since).value
    now.checker.enabled = false ∧
    now.checker.registry = s.checker.registry ∧
    (∀ a, now.checker.register a = pure (.ok (), now.checker)) ∧
    (∀ name test, now.checker.registerTest name test = pure (.ok (), now.checker)) ∧
    (∀ assertions, now.checker.registerAll assertions = pure (.ok (), now.checker)) ∧
    now.checker.disable = pure now.checker ∧
    (∀ name, ∃ a, now.checker.assertion name = .ok a ∧ a.name = name ∧ a.displayName = name) ∧
    (∀ name, ∃ a, now.checker.negation name = .ok a ∧ a.name = name ∧
      a.displayName = "not " ++ name) ∧
    (∀ values, now.checker.bind values = .exempt ∧ (now.checker.bind values).values = []) ∧
    (∃ later, now.batches = s.batches ++ later ∧ ∀ b ∈ later, b = .exempt ∧
      ∀ assertions : List (Assertion ε α),
        b.must assertions = pure (.ok b) ∧ b.either assertions = pure (.ok b)) ∧
    ((∀ x ∈ since, x.IsSince s.batches.length) → (off.run since).log = []) := by
  intro off now
  have hoff : off.SwitchedOff s.checker.registry s.batches := s.switchedOff_disable
  have hnow : now.SwitchedOff s.checker.registry s.batches := hoff.run since
  have henabled := hnow.enabled
  refine ⟨henabled, ?_, Checker.register_of_disabled henabled,
    fun name test => Checker.register_of_disabled henabled _,
    Checker.registerAll_of_disabled henabled, Checker.disable_of_disabled henabled,
    fun name => Checker.lookup_inert henabled name false,
    fun name => Checker.lookup_inert henabled name true, ?_, ?_, hoff.log_run⟩
  · rw [hnow.checker]
  · intro values
    rw [Checker.bind_of_disabled henabled]
    exact ⟨rfl, rfl⟩
  · obtain ⟨later, hlater, hexempt⟩ := hnow.batches
    refine ⟨later, hlater, fun b hb => ⟨hexempt b hb, fun assertions => ?_⟩⟩
    rw [hexempt b hb]
    exact ⟨rfl, rfl⟩

end Session

end RuntimeContracts
