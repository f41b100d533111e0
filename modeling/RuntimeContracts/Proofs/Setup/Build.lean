import RuntimeContracts.Checker.Defaults
import RuntimeContracts.Proofs.Session.Switch

/-!
# Checkers that are built from a setup

A setup is filled by calls in any order and built at the end. Some calls set the switch and some
queue assertions, and the two kinds do not get in each other's way: the last call about the switch
counts, wherever it stands, and the queue keeps its order. A setup that is switched on is built by
registering its queue on a new checker, one assertion after another, up to the first that is
refused. One that is switched off is always built.

* `Checker.Accepts`: assertions are registered one after another, and all of them are accepted.
* `Checker.registerAll_eq_ok_iff`, `Checker.registerAll_eq_error_iff`: a list of registrations is
  answered as the single ones are.
* `Setup.Call`, `Setup.after`: the calls, and the setup that they leave.
* `Setup.after_eq`: what the calls about the switch and those about the queue come to.
* `Setup.build_refines_registration`: the checker of a setup.
-/
namespace RuntimeContracts

/-! ## Registrations one after another -/

namespace Checker

variable {c c' : Checker ε α} {as : List (Assertion ε α)}

/-- Assertions are registered one after another, all of them are accepted, and this is the checker
afterwards. -/
inductive Accepts : Checker ε α → List (Assertion ε α) → Checker ε α → Prop where
  | nil {c : Checker ε α} : Accepts c [] c
  | cons {c middle c' : Checker ε α} {a : Assertion ε α} {rest : List (Assertion ε α)}
      (head : (c.register a).value = (.ok (), middle)) (tail : Accepts middle rest c') :
      Accepts c (a :: rest) c'

theorem enabled_register (c : Checker ε α) (a : Assertion ε α) :
    (c.register a).value.2.enabled = c.enabled := by
  cases h : c.enabled with
  | false =>
    rw [register_of_disabled h]
    exact h
  | true =>
    cases hinsert : c.registry.insert a with
    | ok registry => rw [register_of_insert_ok h hinsert]
    | error e =>
      rw [register_of_insert_error h hinsert]
      exact h

theorem Accepts.enabled_eq (h : c.Accepts as c') : c'.enabled = c.enabled := by
  induction h with
  | nil => rfl
  | @cons c middle c' a rest head tail ih =>
    have hhead := enabled_register c a
    rw [head] at hhead
    exact ih.trans hhead

theorem registerAll_of_ok {a : Assertion ε α} (h : (c.register a).value = (.ok (), c'))
    (rest : List (Assertion ε α)) :
    (c.registerAll (a :: rest)).value = (c'.registerAll rest).value := by
  rw [registerAll, Logged.value_bind, h]

theorem registerAll_of_error {a : Assertion ε α} {e : ContractError}
    (h : (c.register a).value = (.error e, c')) (rest : List (Assertion ε α)) :
    (c.registerAll (a :: rest)).value = (.error e, c') := by
  rw [registerAll, Logged.value_bind, h]
  rfl

/-- A list of registrations succeeds if all of them are accepted. -/
theorem registerAll_eq_ok_iff :
    (c.registerAll as).value = (.ok (), c') ↔ c.Accepts as c' := by
  constructor
  · intro h
    induction as generalizing c with
    | nil =>
      cases h
      exact .nil
    | cons a rest ih =>
      rcases hstep : (c.register a).value with ⟨answer, middle⟩
      cases answer with
      | ok =>
        rw [registerAll_of_ok hstep] at h
        exact .cons hstep (ih h)
      | error e =>
        rw [registerAll_of_error hstep] at h
        cases h
  · intro h
    induction h with
    | nil => rfl
    | cons head tail ih => rw [registerAll_of_ok head, ih]

/-- A list of registrations fails with the error of the first that is refused. -/
theorem registerAll_eq_error_iff {e : ContractError} :
    (c.registerAll as).value = (.error e, c') ↔
      ∃ before a after middle, as = before ++ a :: after ∧ c.Accepts before middle ∧
        (middle.register a).value = (.error e, c') := by
  constructor
  · intro h
    induction as generalizing c with
    | nil => cases h
    | cons a rest ih =>
      rcases hstep : (c.register a).value with ⟨answer, middle⟩
      cases answer with
      | ok =>
        rw [registerAll_of_ok hstep] at h
        obtain ⟨before, b, after, last, rfl, hbefore, hb⟩ := ih h
        exact ⟨a :: before, b, after, last, rfl, .cons hstep hbefore, hb⟩
      | error e' =>
        rw [registerAll_of_error hstep] at h
        cases h
        exact ⟨[], a, rest, c, rfl, .nil, hstep⟩
  · rintro ⟨before, a, after, middle, rfl, hbefore, ha⟩
    induction hbefore with
    | nil => exact registerAll_of_error ha after
    | cons head tail ih =>
      rw [List.cons_append, registerAll_of_ok head]
      exact ih ha

end Checker

namespace Setup

/-! ## Calls -/

/-- A call on a setup. The default assertions are there for values of the dynamic kind only. -/
inductive Call (ε : Type) : Type → Type 1 where
  | enabled {α : Type} (flag : Bool) : Call ε α
  | assertion {α : Type} (a : Assertion ε α) : Call ε α
  | test {α : Type} (name : String) (p : Test ε α) : Call ε α
  | defaults : Call ε Value

/-- What a call says about the switch. -/
def Call.flag? {ε α : Type} : Call ε α → Option Bool
  | .enabled flag => some flag
  | _ => none

/-- What a call adds to the queue. -/
def Call.queued {ε α : Type} : Call ε α → List (Assertion ε α)
  | .enabled _ => []
  | .assertion a => [a]
  | .test name p => [.ofTest name p]
  | .defaults => defaultAssertions

/-- The setup after a call. -/
def call {ε α : Type} : Setup ε α → Call ε α → Setup ε α
  | s, .enabled flag => s.withEnabled flag
  | s, .assertion a => s.withAssertion a
  | s, .test name p => s.withTest name p
  | s, .defaults => s.withDefaults

/-- The setup after a list of calls. -/
def after {ε α : Type} (s : Setup ε α) : List (Call ε α) → Setup ε α
  | [] => s
  | x :: rest => (s.call x).after rest

/-- The last word about the switch, which is on if nobody says anything. -/
def flagOf {ε α : Type} (calls : List (Call ε α)) : Bool :=
  (calls.filterMap Call.flag?).getLast?.getD true

/-- What is queued, in the order of the calls. -/
def queueOf {ε α : Type} (calls : List (Call ε α)) : List (Assertion ε α) :=
  calls.flatMap Call.queued

variable {ε α : Type}

theorem foldl_withAssertion (s : Setup ε α) (as : List (Assertion ε α)) :
    as.foldl withAssertion s = { s with queue := s.queue ++ as } := by
  induction as generalizing s with
  | nil => simp
  | cons a rest ih => simp [ih, withAssertion]

theorem call_eq (s : Setup ε α) (x : Call ε α) :
    s.call x = { enabled := x.flag?.getD s.enabled, queue := s.queue ++ x.queued } := by
  cases x with
  | enabled flag => simp [call, withEnabled, Call.flag?, Call.queued]
  | assertion a => rfl
  | test name p => rfl
  | defaults => exact foldl_withAssertion s defaultAssertions

/-- The two kinds of calls do not get in each other's way. -/
theorem after_eq (s : Setup ε α) (calls : List (Call ε α)) :
    s.after calls =
      { enabled := (calls.filterMap Call.flag?).getLast?.getD s.enabled
        queue := s.queue ++ calls.flatMap Call.queued } := by
  induction calls generalizing s with
  | nil => simp [after]
  | cons x rest ih =>
    rw [after, ih, call_eq, List.flatMap_cons, List.append_assoc]
    cases hx : x.flag? with
    | none => simp [hx]
    | some flag => simp [hx, List.getLast?_cons]

theorem after_new (calls : List (Call ε α)) :
    new.after calls = { enabled := flagOf calls, queue := queueOf calls } :=
  after_eq new calls

/-! ## The checker of a setup -/

theorem value_build_of_enabled {s : Setup ε α} (h : s.enabled = true) :
    s.build.value =
      (Checker.new.registerAll s.queue).value.1.map
        fun _ => (Checker.new.registerAll s.queue).value.2 := by
  simp only [build, h, if_true, pure_bind]
  rfl

/-- A setup that is switched off is built without a look at its queue. -/
theorem value_build_of_disabled {s : Setup ε α} (h : s.enabled = false) :
    s.build.value = .ok ⟨.empty, false⟩ := by
  have hall := Checker.registerAll_of_disabled
    (Checker.enabled_disable (Checker.new : Checker ε α)) s.queue
  simp only [build, h, Bool.false_eq_true, if_false, Logged.value_bind, hall]
  rfl

/-- **A setup is built as its assertions are registered.** After any calls in any order, the last
word about the switch counts, and what has been queued is registered on a new checker in the order
of the calls. The outcome is the checker that has accepted all of it, still enabled, or the error
of the first assertion that is refused. If the switch is off, the outcome is a disabled checker
without assertions, whatever has been queued. -/
theorem build_refines_registration (calls : List (Call ε α)) :
    let outcome := (new.after calls).build.value
    if flagOf calls then
      (∀ c, outcome = .ok c ↔ Checker.new.Accepts (queueOf calls) c) ∧
      (∀ c, outcome = .ok c → c.enabled = true) ∧
      (∀ e, outcome = .error e ↔
        ∃ before a after c, queueOf calls = before ++ a :: after ∧
          Checker.new.Accepts before c ∧ (c.register a).value.1 = .error e)
    else outcome = .ok ⟨.empty, false⟩ := by
  intro outcome
  cases hflag : flagOf calls with
  | false =>
    rw [if_neg Bool.false_ne_true]
    exact value_build_of_disabled (by rw [after_new, hflag])
  | true =>
    have hbuild : outcome = (Checker.new.registerAll (queueOf calls)).value.1.map
        fun _ => (Checker.new.registerAll (queueOf calls)).value.2 := by
      have hqueue : (new.after calls).queue = queueOf calls := by rw [after_new]
      rw [← hqueue]
      exact value_build_of_enabled (by rw [after_new, hflag])
    rw [if_pos rfl]
    rcases hall : (Checker.new.registerAll (queueOf calls)).value with ⟨answer, last⟩
    rw [hall] at hbuild
    have hok : ∀ c, outcome = .ok c ↔ Checker.new.Accepts (queueOf calls) c := by
      intro c
      rw [hbuild, ← Checker.registerAll_eq_ok_iff, hall]
      cases answer <;> simp [Except.map]
    refine ⟨hok, fun c hc => ((hok c).1 hc).enabled_eq, fun e => ?_⟩
    constructor
    · intro he
      cases answer with
      | ok =>
        rw [hbuild] at he
        cases he
      | error e' =>
        rw [hbuild] at he
        cases he
        obtain ⟨before, a, after, c, hqueue, hbefore, ha⟩ :=
          Checker.registerAll_eq_error_iff.1 hall
        exact ⟨before, a, after, c, hqueue, hbefore, by rw [ha]⟩
    · rintro ⟨before, a, after, c, hqueue, hbefore, ha⟩
      have herror : (Checker.new.registerAll (queueOf calls)).value =
          (.error e, (c.register a).value.2) :=
        Checker.registerAll_eq_error_iff.2
          ⟨before, a, after, c, hqueue, hbefore, Prod.ext ha rfl⟩
      rw [hall] at herror
      cases herror
      exact hbuild

end Setup

end RuntimeContracts
