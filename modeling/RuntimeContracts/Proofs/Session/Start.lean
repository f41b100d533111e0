import RuntimeContracts.Proofs.Registry.History
import RuntimeContracts.Proofs.Setup.Build

/-!
# Sessions from the start

A checker is made without assertions, with the default ones, or from a setup, and then used. Each
of these ways amounts to what could be done with a new checker as well, so that every session is one
that starts with a new checker.

* `Session.Start`, `Session.Start.make`: the ways to come by a checker.
* `Session.Start.session`: a checker that is made and used.
* `Session.Start.course`: all that is done with a new checker in such a session.
* `Session.Start.log_session`, `Session.Start.value_session`: it is the same session.
* `Registry.Filled`, `Session.Start.filled_session`: the registry of a session is filled by one
  insertion after another.
-/
namespace RuntimeContracts

variable {ε α : Type}

/-! ## Ways to come by a checker -/

namespace Session

/-- A way to come by a checker. -/
inductive Start (ε : Type) : Type → Type 1 where
  | empty {α : Type} : Start ε α
  | defaults : Start ε Value
  | setup {α : Type} (calls : List (Setup.Call ε α)) : Start ε α

/-- A new checker that has bound nothing. -/
def fresh : Session ε α := ⟨.new, []⟩

section Run

variable [HasText α]

theorem run_append (s : Session ε α) (earlier later : List (Action ε α)) :
    s.run (earlier ++ later) = s.run earlier >>= fun s' => s'.run later := by
  induction earlier generalizing s with
  | nil => rfl
  | cons x rest ih => simp only [List.cons_append, run, ih, bind_assoc]

theorem run_singleton (s : Session ε α) (x : Action ε α) : s.run [x] = s.step x :=
  bind_pure (s.step x)

/-- Registrations one by one, with none of them left out. -/
theorem run_map_register (c : Checker ε α) (batches : List (Batch α)) (as : List (Assertion ε α)) :
    (Session.mk c batches).run (as.map .register) =
      (fun c' => ⟨c', batches⟩) <$> c.registerEach as := by
  induction as generalizing c with
  | nil => rfl
  | cons a rest ih =>
    simp only [List.map_cons, run, step, bind_assoc, pure_bind, ih, Checker.registerEach, map_bind]

end Run

namespace Start

/-- The checker, or the error of an assertion that keeps it from being made. -/
def make {ε α : Type} : Start ε α → Traced (Except ContractError (Checker ε α))
  | .empty => pure (.ok .new)
  | .defaults => Except.ok <$> Checker.withDefaults
  | .setup calls => (Setup.new.after calls).build

/-- What is done with a new checker in its place. -/
def opening {ε α : Type} : Start ε α → List (Action ε α)
  | .empty => []
  | .defaults => defaultAssertions.map .register
  | .setup calls =>
    (if Setup.flagOf calls then [] else [.disable]) ++ [.registerAll (Setup.queueOf calls)]

/-- All that is done in a session. There is no more than the opening if no checker is made. -/
def course (start : Start ε α) (actions : List (Action ε α)) : List (Action ε α) :=
  match start.make.value with
  | .ok _ => start.opening ++ actions
  | .error _ => start.opening

variable [HasText α]

/-- A checker is made and used. -/
def session (start : Start ε α) (actions : List (Action ε α)) :
    Traced (Except ContractError (Session ε α)) := do
  match ← start.make with
  | .ok c => return .ok (← (Session.mk c []).run actions)
  | .error e => return .error e

/-- The opening does what the making does. -/
theorem run_opening (start : Start ε α) :
    start.make.log = (fresh.run start.opening).log ∧
      ∀ c, start.make.value = .ok c → (fresh.run start.opening).value = ⟨c, []⟩ := by
  cases start with
  | empty =>
    refine ⟨rfl, fun c hc => ?_⟩
    cases hc
    rfl
  | defaults =>
    have hrun := run_map_register (Checker.new : Checker ε Value) [] defaultAssertions
    rw [opening, fresh, hrun]
    refine ⟨by simp only [make, Checker.withDefaults, Logged.log_map], fun c hc => ?_⟩
    cases hc
    rfl
  | setup calls =>
    rw [make, opening, Setup.after_new, Setup.build]
    cases hflag : Setup.flagOf calls with
    | true =>
      simp only [if_true, pure_bind, List.nil_append, run_singleton, step, Logged.log_bind,
        Logged.log_pure, List.append_nil, Logged.value_bind, Logged.value_pure, fresh, true_and]
      intro c hc
      cases hanswer : (Checker.new.registerAll (Setup.queueOf calls)).value.1 with
      | ok =>
        rw [hanswer] at hc
        cases hc
        rfl
      | error e =>
        rw [hanswer] at hc
        cases hc
    | false =>
      have hall := Checker.registerAll_of_disabled
        (Checker.enabled_disable (Checker.new : Checker ε α)) (Setup.queueOf calls)
      simp only [Bool.false_eq_true, if_false, List.singleton_append, run, step, fresh,
        Logged.log_bind, Logged.value_bind, Logged.log_pure, Logged.value_pure, hall,
        List.append_nil, true_and]
      intro c hc
      cases hc
      rfl

/-- A session is one that starts with a new checker. -/
theorem log_session (start : Start ε α) (actions : List (Action ε α)) :
    (start.session actions).log = (fresh.run (start.course actions)).log := by
  obtain ⟨hlog, hvalue⟩ := start.run_opening
  rw [session, course, Logged.log_bind, hlog]
  cases hmake : start.make.value with
  | ok c =>
    rw [run_append, Logged.log_bind, Logged.log_bind, Logged.log_pure, List.append_nil,
      hvalue c hmake]
  | error e => rw [Logged.log_pure, List.append_nil]

theorem value_session {start : Start ε α} {actions : List (Action ε α)} {s : Session ε α}
    (h : (start.session actions).value = .ok s) : (fresh.run (start.course actions)).value = s := by
  obtain ⟨-, hvalue⟩ := start.run_opening
  rw [session, Logged.value_bind] at h
  rw [course]
  cases hmake : start.make.value with
  | ok c =>
    rw [hmake] at h
    cases h
    rw [run_append, Logged.value_bind, hvalue c hmake]
  | error e =>
    rw [hmake] at h
    cases h

end Start

end Session

/-! ## Registries of sessions -/

/-- The registry is what a history of insertions has left of an empty one. -/
def Registry.Filled (r : Registry ε α) : Prop := ∃ history, r = empty.offerEach history

namespace Checker

variable {c : Checker ε α}

theorem filled_register (h : c.registry.Filled) (a : Assertion ε α) :
    (c.register a).value.2.registry.Filled := by
  cases hc : c.enabled with
  | false =>
    rw [register_of_disabled hc]
    exact h
  | true =>
    obtain ⟨history, hr⟩ := h
    refine ⟨history ++ [a], ?_⟩
    rw [value_register_of_enabled hc, Registry.offerEach_append, ← hr]
    rfl

theorem filled_registerAll (h : c.registry.Filled) (as : List (Assertion ε α)) :
    (c.registerAll as).value.2.registry.Filled := by
  induction as generalizing c with
  | nil => exact h
  | cons a rest ih =>
    have hstep := filled_register h a
    rcases hvalue : (c.register a).value with ⟨answer, c'⟩
    rw [hvalue] at hstep
    cases answer with
    | ok =>
      rw [registerAll_of_ok hvalue]
      exact ih hstep
    | error e =>
      rw [registerAll_of_error hvalue]
      exact hstep

end Checker

namespace Session

variable [HasText α]

theorem filled_step {s : Session ε α} (h : s.checker.registry.Filled) (x : Action ε α) :
    (s.step x).value.checker.registry.Filled := by
  cases x with
  | register a => exact Checker.filled_register h a
  | registerTest name test => exact Checker.filled_register h (.ofTest name test)
  | registerAll assertions => exact Checker.filled_registerAll h assertions
  | disable => exact h
  | lookup name inverted => exact h
  | bind values => exact h
  | require place clause assertions =>
    rw [value_step_require]
    exact h

theorem filled_run {s : Session ε α} (h : s.checker.registry.Filled) (xs : List (Action ε α)) :
    (s.run xs).value.checker.registry.Filled := by
  induction xs generalizing s with
  | nil => exact h
  | cons x rest ih => exact ih (filled_step h x)

/-- The registry of a session is filled by one insertion after another. -/
theorem Start.filled_session {start : Start ε α} {actions : List (Action ε α)} {s : Session ε α}
    (h : (start.session actions).value = .ok s) : s.checker.registry.Filled := by
  have hfresh : (fresh : Session ε α).checker.registry.Filled := ⟨[], rfl⟩
  rw [← Start.value_session h]
  exact filled_run hfresh (start.course actions)

end Session

end RuntimeContracts
