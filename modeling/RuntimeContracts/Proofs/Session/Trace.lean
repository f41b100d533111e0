import RuntimeContracts.Proofs.Session.Start

/-!
# What a subscriber is told

A subscriber to the events of a checker sees a level, a message and some fields of each of them.
What it sees can be told from the outside, from what was done with the checker in which order and
how it was answered: that the checker is off, or how many assertions it holds, follows from what
was done before.

* `Session.Deed`, `Session.deedsOf`: what was done in a session, with the answers.
* `Session.Deed.told`, `Session.toldAfter`: what is to be told of it.
* `Checker.Follows`: the invariant. The switch and the size of a checker are as the deeds say.
* `Session.told_step`, `Session.told_run`: every action keeps it, and is told as its deeds are.
* `Session.SwitchedOff.isLate_deedsOf`: after the switch nothing is refused, and only older batches
  are violated.
* `Session.events_mirror_outcomes`: the events of a session.
-/
namespace RuntimeContracts

/-- An event as a subscriber sees it. -/
structure Record where
  level : Level
  message : String
  fields : List (String × FieldValue)

def Event.record (e : Event) : Record := ⟨e.level, e.message, e.fields⟩

namespace Session

/-! ## Deeds -/

/-- Something that was done with a checker, and how it was answered. -/
inductive Deed where
  /-- An assertion of this name was to be registered. -/
  | registered (name : String) (answer : Except ContractError Unit)
  | switchedOff
  | lookedUp (name : String) (inverted : Bool)
  | bound
  /-- A clause was put to the batch at this place, in the order in which batches were bound. -/
  | required (place : Nat) (answer : Except Violation Unit)

namespace Deed

def isAccepted : Deed → Bool
  | registered _ (.ok _) => true
  | _ => false

def isSwitch : Deed → Bool
  | switchedOff => true
  | _ => false

def isBinding : Deed → Bool
  | bound => true
  | _ => false

/-- What a subscriber is told of a deed that comes after others. -/
def told (earlier : List Deed) : Deed → Option Record
  | registered name (.ok _) =>
    if earlier.any isSwitch then none
    else some ⟨.debug, "registered assertion", [("assertion", .text name)]⟩
  | registered name (.error e) =>
    some ⟨.warn, "assertion registration rejected",
      [("assertion", .text name), ("error", .text e.message)]⟩
  | switchedOff =>
    if earlier.any isSwitch then none
    else some ⟨.info, "contract checking disabled",
      [("registered", .count (earlier.countP isAccepted))]⟩
  | required _ (.error v) =>
    some ⟨.debug, "contract violated",
      [("clause", .text v.clause.keyword), ("index", .count v.index), ("value", .text v.value)]⟩
  | required _ (.ok _) => none
  | lookedUp _ _ => none
  | bound => none

/-- A deed that is possible after the switch if `n` batches have been bound before: no refusal, and
no violation by a batch that was bound since. -/
def IsLate (n : Nat) : Deed → Prop
  | .registered _ (.error _) => False
  | .required place (.error _) => place < n
  | _ => True

end Deed

/-- What a subscriber is told of deeds that come after others. -/
def toldAfter (earlier : List Deed) : List Deed → List Record
  | [] => []
  | d :: rest => (d.told earlier).toList ++ toldAfter (earlier ++ [d]) rest

/-! ## What is told -/

theorem toldAfter_singleton (earlier : List Deed) (d : Deed) :
    toldAfter earlier [d] = (d.told earlier).toList :=
  List.append_nil _

theorem toldAfter_append (earlier ds ds' : List Deed) :
    toldAfter earlier (ds ++ ds') = toldAfter earlier ds ++ toldAfter (earlier ++ ds) ds' := by
  induction ds generalizing earlier with
  | nil => simp [toldAfter]
  | cons d rest ih => simp [toldAfter, ih]

/-- Whatever is told is told of one of the deeds. -/
theorem exists_of_toldAfter_eq {earlier ds : List Deed} {before after : List Record} {r : Record}
    (h : toldAfter earlier ds = before ++ r :: after) :
    ∃ front d back, ds = front ++ d :: back ∧ toldAfter earlier front = before ∧
      d.told (earlier ++ front) = some r ∧ toldAfter (earlier ++ front ++ [d]) back = after := by
  induction ds generalizing earlier before with
  | nil => simp [toldAfter] at h
  | cons d rest ih =>
    -- the record is told of a later deed
    have hlater : ∀ before', toldAfter (earlier ++ [d]) rest = before' ++ r :: after →
        (d.told earlier).toList ++ before' = before →
        ∃ front d' back, d :: rest = front ++ d' :: back ∧ toldAfter earlier front = before ∧
          d'.told (earlier ++ front) = some r ∧
          toldAfter (earlier ++ front ++ [d']) back = after := by
      intro before' hrest hbefore
      obtain ⟨front, d', back, rfl, hfront, hd', hback⟩ := ih hrest
      refine ⟨d :: front, d', back, rfl, ?_, ?_, ?_⟩
      · rw [toldAfter, hfront, hbefore]
      · rwa [List.append_assoc] at hd'
      · rwa [List.append_assoc earlier [d]] at hback
    rw [toldAfter] at h
    cases hd : d.told earlier with
    | none =>
      rw [hd] at h hlater
      exact hlater before h rfl
    | some r' =>
      rw [hd] at h hlater
      cases before with
      | nil =>
        obtain ⟨rfl, hrest⟩ := List.cons.inj h
        refine ⟨[], d, rest, rfl, rfl, ?_, ?_⟩
        · rwa [List.append_nil]
        · rwa [List.append_nil]
      | cons b before =>
        obtain ⟨rfl, hrest⟩ := List.cons.inj h
        exact hlater before hrest rfl

theorem exists_of_mem_toldAfter {earlier ds : List Deed} {r : Record}
    (h : r ∈ toldAfter earlier ds) :
    ∃ front d back, ds = front ++ d :: back ∧ d.told (earlier ++ front) = some r := by
  obtain ⟨before, after, hr⟩ := List.append_of_mem h
  obtain ⟨front, d, back, hds, -, hd, -⟩ := exists_of_toldAfter_eq hr
  exact ⟨front, d, back, hds, hd⟩

/-- Only the first switch is told at this level. -/
theorem Deed.told_of_info {earlier : List Deed} {d : Deed} {r : Record}
    (h : d.told earlier = some r) (hr : r.level = .info) :
    d = .switchedOff ∧ earlier.any Deed.isSwitch = false ∧
      r = ⟨.info, "contract checking disabled",
        [("registered", .count (earlier.countP Deed.isAccepted))]⟩ := by
  cases d with
  | registered name answer =>
    cases answer with
    | ok =>
      rw [Deed.told] at h
      split at h
      · cases h
      · cases h
        cases hr
    | error e =>
      cases h
      cases hr
  | switchedOff =>
    rw [Deed.told] at h
    split at h
    · cases h
    · rename_i hon
      cases h
      exact ⟨rfl, Bool.eq_false_iff.2 hon, rfl⟩
  | lookedUp name inverted => cases h
  | bound => cases h
  | required place answer =>
    cases answer with
    | ok => cases h
    | error v =>
      cases h
      cases hr

/-- Before the switch, as many registrations are told as are accepted. -/
theorem countP_toldAfter {earlier ds : List Deed} (h : (earlier ++ ds).any Deed.isSwitch = false) :
    (toldAfter earlier ds).countP (fun r => r.message = "registered assertion") =
      ds.countP Deed.isAccepted := by
  induction ds generalizing earlier with
  | nil => rfl
  | cons d rest ih =>
    have hrest := @ih (earlier ++ [d]) (by rwa [List.append_assoc])
    simp only [List.any_append, List.any_cons, Bool.or_eq_false_iff] at h
    have hd : (d.told earlier).toList.countP (fun r => r.message = "registered assertion") =
        [d].countP Deed.isAccepted := by
      cases d with
      | registered name answer =>
        cases answer with
        | ok =>
          rw [Deed.told, h.1]
          rfl
        | error e => rfl
      | switchedOff => cases h.2.1
      | lookedUp name inverted => rfl
      | bound => rfl
      | required place answer => cases answer <;> rfl
    rw [toldAfter, List.countP_append, hd, hrest, ← List.countP_append]
    rfl

/-- After the switch there is nothing to be told but violations. -/
theorem exists_of_mem_toldAfter_of_isLate {earlier ds : List Deed} {n : Nat} {r : Record}
    (hoff : earlier.any Deed.isSwitch = true) (hds : ∀ d ∈ ds, d.IsLate n)
    (hr : r ∈ toldAfter earlier ds) :
    ∃ place v, .required place (.error v) ∈ ds ∧ place < n ∧ r = (Event.violated v).record := by
  obtain ⟨front, d, back, rfl, hd⟩ := exists_of_mem_toldAfter hr
  have hmem : d ∈ front ++ d :: back := List.mem_append_right _ List.mem_cons_self
  have hlate := hds d hmem
  have hoff' : (earlier ++ front).any Deed.isSwitch = true := by
    rw [List.any_append, hoff, Bool.true_or]
  cases d with
  | registered name answer =>
    cases answer with
    | ok =>
      rw [Deed.told, hoff'] at hd
      cases hd
    | error e => exact hlate.elim
  | switchedOff =>
    rw [Deed.told, hoff'] at hd
    cases hd
  | lookedUp name inverted => cases hd
  | bound => cases hd
  | required place answer =>
    cases answer with
    | ok => cases hd
    | error v =>
      cases hd
      exact ⟨place, v, hmem, hlate, rfl⟩

end Session

open Session (Deed toldAfter)

/-! ## Events of a checker -/

namespace Checker

variable {ε α : Type} {c : Checker ε α} {earlier : List Deed}

/-- Assertions are registered one after another, up to the first that is refused. -/
def registrations (c : Checker ε α) : List (Assertion ε α) → List Deed
  | [] => []
  | a :: rest =>
    match (c.register a).value with
    | (.ok (), c') => .registered a.name (.ok ()) :: c'.registrations rest
    | (.error e, _) => [.registered a.name (.error e)]

theorem registrations_of_ok {c c' : Checker ε α} {a : Assertion ε α}
    (h : (c.register a).value = (.ok (), c')) (rest : List (Assertion ε α)) :
    c.registrations (a :: rest) = [.registered a.name (.ok ())] ++ c'.registrations rest := by
  rw [registrations, h]
  rfl

theorem registrations_of_error {c c' : Checker ε α} {a : Assertion ε α} {e : ContractError}
    (h : (c.register a).value = (.error e, c')) (rest : List (Assertion ε α)) :
    c.registrations (a :: rest) = [.registered a.name (.error e)] := by
  rw [registrations, h]

theorem plain_of_mem_registrations {as : List (Assertion ε α)} {d : Deed}
    (hd : d ∈ c.registrations as) : d.isSwitch = false ∧ d.isBinding = false := by
  induction as generalizing c with
  | nil => cases hd
  | cons a rest ih =>
    rcases hstep : (c.register a).value with ⟨answer, c'⟩
    cases answer with
    | ok =>
      rw [registrations_of_ok hstep] at hd
      rcases List.mem_cons.1 hd with rfl | hd
      · exact ⟨rfl, rfl⟩
      · exact ih hd
    | error e =>
      rw [registrations_of_error hstep] at hd
      rw [List.mem_singleton.1 hd]
      exact ⟨rfl, rfl⟩

/-- The switch and the size of a checker are as the deeds say. -/
structure Follows (c : Checker ε α) (deeds : List Deed) : Prop where
  enabled : c.enabled = !deeds.any Deed.isSwitch
  size : c.enabled = true → c.size = deeds.countP Deed.isAccepted

namespace Follows

theorem new : (Checker.new : Checker ε α).Follows [] where
  enabled := rfl
  size _ := rfl

theorem any_isSwitch (h : c.Follows earlier) : earlier.any Deed.isSwitch = !c.enabled := by
  rw [h.enabled, Bool.not_not]

/-- A deed that neither switches the checker off nor adds an assertion. -/
theorem append_of_none (h : c.Follows earlier) {d : Deed} (hs : d.isSwitch = false)
    (ha : d.isAccepted = false) : c.Follows (earlier ++ [d]) where
  enabled := by simp [h.enabled, hs]
  size hc := by simp [h.size hc, List.countP_append, ha]

/-- A registration is told by its answer, unless the checker is off. -/
theorem register (h : c.Follows earlier) (a : Assertion ε α) :
    (c.register a).log.map Event.record =
        toldAfter earlier [.registered a.name (c.register a).value.1] ∧
      (c.register a).value.2.Follows (earlier ++ [.registered a.name (c.register a).value.1]) := by
  cases hc : c.enabled with
  | false =>
    have hoff : earlier.any Deed.isSwitch = true := by rw [h.any_isSwitch, hc, Bool.not_false]
    rw [register_of_disabled hc, Session.toldAfter_singleton]
    refine ⟨?_, ?_, ?_⟩
    · simp only [Logged.value_pure, Deed.told, hoff, if_true]
      rfl
    · show c.enabled = _
      rw [hc, List.any_append, hoff]
      rfl
    · intro hon
      cases hc.symm.trans hon
  | true =>
    have hon : earlier.any Deed.isSwitch = false := by rw [h.any_isSwitch, hc, Bool.not_true]
    rw [Session.toldAfter_singleton]
    cases hinsert : c.registry.insert a with
    | error e =>
      rw [register_of_insert_error hc hinsert]
      exact ⟨rfl, h.append_of_none rfl rfl⟩
    | ok registry =>
      rw [register_of_insert_ok hc hinsert]
      refine ⟨?_, ?_, ?_⟩
      · simp only [Deed.told, hon]
        rfl
      · rw [List.any_append, hon]
        rfl
      · intro _
        show registry.size = _
        rw [Registry.size_of_insert hinsert, List.countP_append]
        exact congrArg (· + 1) (h.size hc)

theorem registerAll (h : c.Follows earlier) (as : List (Assertion ε α)) :
    (c.registerAll as).log.map Event.record = toldAfter earlier (c.registrations as) ∧
      (c.registerAll as).value.2.Follows (earlier ++ c.registrations as) := by
  induction as generalizing c earlier with
  | nil =>
    refine ⟨rfl, ?_⟩
    rw [registrations, List.append_nil]
    exact h
  | cons a rest ih =>
    obtain ⟨hlog, hfollows⟩ := h.register a
    rw [Checker.registerAll, Logged.log_bind, Logged.value_bind, List.map_append, hlog]
    rcases hstep : (c.register a).value with ⟨answer, c'⟩
    rw [hstep] at hfollows
    cases answer with
    | error e =>
      rw [registrations_of_error hstep]
      exact ⟨List.append_nil _, hfollows⟩
    | ok =>
      obtain ⟨hrest, hlast⟩ := ih hfollows
      rw [registrations_of_ok hstep, Session.toldAfter_append, ← hrest, ← List.append_assoc]
      exact ⟨rfl, hlast⟩

/-- The first switch is told with the number of assertions. -/
theorem disable (h : c.Follows earlier) :
    c.disable.log.map Event.record = toldAfter earlier [.switchedOff] ∧
      c.disable.value.Follows (earlier ++ [.switchedOff]) := by
  refine ⟨?_, ?_, ?_⟩
  · rw [Session.toldAfter_singleton, Deed.told, Checker.disable, h.any_isSwitch]
    cases hc : c.enabled with
    | false => rfl
    | true =>
      rw [← h.size hc]
      rfl
  · rw [List.any_append, enabled_disable]
    simp [Deed.isSwitch]
  · intro hon
    rw [enabled_disable] at hon
    cases hon

end Follows

theorem isLate_registrations (h : c.enabled = false) (n : Nat)
    (as : List (Assertion ε α)) : ∀ d ∈ c.registrations as, d.IsLate n := by
  induction as with
  | nil => exact List.forall_mem_nil _
  | cons a rest ih =>
    have hstep : (c.register a).value = (.ok (), c) := by
      rw [register_of_disabled h, Logged.value_pure]
    rw [registrations_of_ok hstep]
    exact List.forall_mem_cons.2 ⟨trivial, ih⟩

end Checker

namespace Session

/-! ## Events of a session -/

variable {ε α : Type} [HasText α]

/-- What is done with the checker in an action. -/
def deeds (s : Session ε α) : Action ε α → List Deed
  | .register a => [.registered a.name (s.checker.register a).value.1]
  | .registerTest name test => [.registered name (s.checker.registerTest name test).value.1]
  | .registerAll assertions => s.checker.registrations assertions
  | .disable => [.switchedOff]
  | .lookup name inverted => [.lookedUp name inverted]
  | .bind _ => [.bound]
  | .require place clause assertions =>
    match s.batches[place]? with
    | some b => [.required place ((b.require clause assertions).value.map fun _ => ())]
    | none => []

/-- What is done with the checker in a list of actions. -/
def deedsOf (s : Session ε α) : List (Action ε α) → List Deed
  | [] => []
  | x :: rest => s.deeds x ++ (s.step x).value.deedsOf rest

/-- An action is told as its deeds are, and the checker goes on as they say. -/
theorem told_step {s : Session ε α} {earlier : List Deed} (h : s.checker.Follows earlier)
    (x : Action ε α) :
    (s.step x).log.map Event.record = toldAfter earlier (s.deeds x) ∧
      (s.step x).value.checker.Follows (earlier ++ s.deeds x) := by
  cases x with
  | register a =>
    simp only [step, deeds, Logged.log_bind, Logged.log_pure, List.append_nil]
    exact h.register a
  | registerTest name test =>
    simp only [step, deeds, Logged.log_bind, Logged.log_pure, List.append_nil]
    exact h.register (.ofTest name test)
  | registerAll assertions =>
    simp only [step, deeds, Logged.log_bind, Logged.log_pure, List.append_nil]
    exact h.registerAll assertions
  | disable =>
    simp only [step, deeds, Logged.log_bind, Logged.log_pure, List.append_nil]
    exact h.disable
  | lookup name inverted =>
    exact ⟨rfl, h.append_of_none rfl rfl⟩
  | bind values =>
    exact ⟨rfl, h.append_of_none rfl rfl⟩
  | require place clause assertions =>
    cases hb : s.batches[place]? with
    | none =>
      rw [step_require_of_none hb, deeds, hb, List.append_nil]
      exact ⟨rfl, h⟩
    | some b =>
      rw [step_require_of_some hb, deeds, hb]
      refine ⟨?_, h.append_of_none rfl rfl⟩
      simp only [toldAfter_singleton]
      cases (b.require clause assertions).value <;> rfl

theorem told_run {s : Session ε α} {earlier : List Deed} (h : s.checker.Follows earlier)
    (xs : List (Action ε α)) :
    (s.run xs).log.map Event.record = toldAfter earlier (s.deedsOf xs) := by
  induction xs generalizing s earlier with
  | nil => rfl
  | cons x rest ih =>
    obtain ⟨hlog, hfollows⟩ := told_step h x
    rw [run, Logged.log_bind, List.map_append, hlog, ih hfollows, deedsOf,
      toldAfter_append]

/-! ## After the switch -/

namespace SwitchedOff

variable {r : Registry ε α} {old : List (Batch α)} {s : Session ε α}

theorem isLate_deeds (h : s.SwitchedOff r old) (x : Action ε α) :
    ∀ d ∈ s.deeds x, d.IsLate old.length := by
  have hoff := h.enabled
  cases x with
  | register a =>
    rw [deeds, Checker.register_of_disabled hoff]
    exact List.forall_mem_singleton.2 trivial
  | registerTest name test =>
    rw [deeds, Checker.registerTest, Checker.register_of_disabled hoff]
    exact List.forall_mem_singleton.2 trivial
  | registerAll assertions => exact Checker.isLate_registrations hoff _ assertions
  | disable => exact List.forall_mem_singleton.2 trivial
  | lookup name inverted => exact List.forall_mem_singleton.2 trivial
  | bind values => exact List.forall_mem_singleton.2 trivial
  | require place clause assertions =>
    rw [deeds]
    cases hb : s.batches[place]? with
    | none => exact List.forall_mem_nil _
    | some b =>
      refine List.forall_mem_singleton.2 ?_
      rcases Nat.lt_or_ge place old.length with hlt | hge
      · cases (b.require clause assertions).value with
        | ok => trivial
        | error v => exact hlt
      · rw [h.exempt_of_le hge hb, Batch.require_exempt]
        trivial

theorem isLate_deedsOf (h : s.SwitchedOff r old) (xs : List (Action ε α)) :
    ∀ d ∈ s.deedsOf xs, d.IsLate old.length := by
  induction xs generalizing s with
  | nil => exact List.forall_mem_nil _
  | cons x rest ih =>
    rw [deedsOf, List.forall_mem_append]
    exact ⟨h.isLate_deeds x, ih (h.step x)⟩

end SwitchedOff

/-! ## Where the switch is thrown -/

/-- Only one action throws the switch. -/
theorem eq_disable_of_mem_deeds {s : Session ε α} {x : Action ε α}
    (h : .switchedOff ∈ s.deeds x) : x = .disable := by
  cases x with
  | register a => cases List.mem_singleton.1 h
  | registerTest name test => cases List.mem_singleton.1 h
  | registerAll assertions => cases (Checker.plain_of_mem_registrations h).1
  | disable => rfl
  | lookup name inverted => cases List.mem_singleton.1 h
  | bind values => cases List.mem_singleton.1 h
  | require place clause assertions =>
    rw [deeds] at h
    cases hb : s.batches[place]? with
    | none =>
      rw [hb] at h
      cases h
    | some b =>
      rw [hb] at h
      cases List.mem_singleton.1 h

/-- The deeds around a switch are those of the actions around it. -/
theorem exists_of_deedsOf_eq {s : Session ε α} {xs : List (Action ε α)} {earlier later : List Deed}
    (h : s.deedsOf xs = earlier ++ .switchedOff :: later) :
    ∃ front back, xs = front ++ .disable :: back ∧ s.deedsOf front = earlier ∧
      ((s.run front).value.step .disable).value.deedsOf back = later := by
  induction xs generalizing s earlier with
  | nil => simp [deedsOf] at h
  | cons x rest ih =>
    rw [deedsOf] at h
    -- the switch is among the deeds of the first action, or behind them
    rcases List.append_eq_append_iff.1 h with ⟨more, rfl, hrest⟩ | ⟨more, hx, hrest⟩
    · obtain ⟨front, back, rfl, hfront, hback⟩ := ih hrest
      refine ⟨x :: front, back, rfl, ?_, hback⟩
      rw [deedsOf, hfront]
    · cases more with
      | nil =>
        rw [List.append_nil] at hx
        obtain ⟨front, back, rfl, hfront, hback⟩ := @ih _ [] hrest.symm
        refine ⟨x :: front, back, rfl, ?_, hback⟩
        rw [deedsOf, hfront, hx, List.append_nil]
      | cons d more =>
        obtain ⟨rfl, rfl⟩ := List.cons.inj hrest
        have hmem : Deed.switchedOff ∈ s.deeds x := by
          rw [hx]
          exact List.mem_append_right _ List.mem_cons_self
        obtain rfl := eq_disable_of_mem_deeds hmem
        obtain ⟨rfl, rfl⟩ : earlier = [] ∧ more = [] := by
          cases earlier with
          | nil => exact ⟨rfl, (List.cons.inj hx).2.symm⟩
          | cons d' earlier => simp [deeds] at hx
        exact ⟨[], rest, rfl, rfl, rfl⟩

theorem length_batches_step (s : Session ε α) (x : Action ε α) :
    (s.step x).value.batches.length = s.batches.length + (s.deeds x).countP Deed.isBinding := by
  cases x with
  | register a => rfl
  | registerTest name test => rfl
  | registerAll assertions =>
    have hnone : (s.checker.registrations assertions).countP Deed.isBinding = 0 :=
      List.countP_eq_zero.2 fun d hd => by simp [(Checker.plain_of_mem_registrations hd).2]
    rw [deeds, hnone]
    rfl
  | disable => rfl
  | lookup name inverted => rfl
  | bind values => exact List.length_append
  | require place clause assertions =>
    rw [value_step_require, deeds]
    cases s.batches[place]? <;> rfl

theorem length_batches_run (s : Session ε α) (xs : List (Action ε α)) :
    (s.run xs).value.batches.length = s.batches.length + (s.deedsOf xs).countP Deed.isBinding := by
  induction xs generalizing s with
  | nil => rfl
  | cons x rest ih =>
    rw [run, Logged.value_bind, ih, length_batches_step, deedsOf, List.countP_append, Nat.add_assoc]

/-! ## The events of a session -/

/-- **Events mirror what was done.** A session with a checker that is made in any way and used in
any way is told by its deeds and their answers: a registration that is accepted while the checker
is on, a registration that is refused, the first switch, and a violation, each in its own words and
in the order of the deeds, and nothing else. The switch is told once at most. It is told with the
number of registrations that have been told before it, and what is told after it are violations by
batches from before it. -/
theorem events_mirror_outcomes (start : Start ε α) (actions : List (Action ε α)) :
    let deeds := fresh.deedsOf (start.course actions)
    let records := (start.session actions).log.map Event.record
    records = toldAfter [] deeds ∧
    ∀ before r after, records = before ++ r :: after → r.level = .info →
      r = ⟨.info, "contract checking disabled",
        [("registered",
          .count (before.countP fun r' => r'.message = "registered assertion"))]⟩ ∧
      (∀ r' ∈ before ++ after, r'.level ≠ .info) ∧
      ∃ earlier later, deeds = earlier ++ .switchedOff :: later ∧
        before = toldAfter [] earlier ∧
        ∀ r' ∈ after, ∃ place v, .required place (.error v) ∈ later ∧
          place < earlier.countP Deed.isBinding ∧ r' = (Event.violated v).record := by
  intro deeds records
  have hrecords : records = toldAfter [] deeds := by
    show (start.session actions).log.map Event.record = _
    rw [start.log_session]
    exact told_run Checker.Follows.new (start.course actions)
  refine ⟨hrecords, fun before r after hsplit hr => ?_⟩
  rw [hrecords] at hsplit
  obtain ⟨earlier, d, later, hdeeds, hbefore, hd, hafter⟩ := exists_of_toldAfter_eq hsplit
  obtain ⟨rfl, hon, rfl⟩ := Deed.told_of_info hd hr
  obtain ⟨front, back, -, hfront, hback⟩ := exists_of_deedsOf_eq hdeeds
  have hlate : ∀ d ∈ later, d.IsLate (earlier.countP Deed.isBinding) := by
    have hlength : (fresh.run front).value.batches.length = earlier.countP Deed.isBinding := by
      rw [length_batches_run, hfront]
      exact Nat.zero_add _
    rw [← hback, ← hlength]
    exact (fresh.run front).value.switchedOff_disable.isLate_deedsOf back
  have hviolations : ∀ r' ∈ after, ∃ place v, .required place (.error v) ∈ later ∧
      place < earlier.countP Deed.isBinding ∧ r' = (Event.violated v).record := by
    intro r' hr'
    rw [← hafter] at hr'
    exact exists_of_mem_toldAfter_of_isLate (by simp [Deed.isSwitch]) hlate hr'
  refine ⟨?_, fun r' hr' hinfo => ?_, earlier, later, hdeeds, hbefore.symm, hviolations⟩
  · rw [← hbefore, countP_toldAfter hon]
    rfl
  · rcases List.mem_append.1 hr' with hr' | hr'
    · rw [← hbefore] at hr'
      obtain ⟨front', d', back', rfl, hd'⟩ := exists_of_mem_toldAfter hr'
      obtain ⟨rfl, -, -⟩ := Deed.told_of_info hd' hinfo
      simp [Deed.isSwitch] at hon
    · obtain ⟨place, v, -, -, rfl⟩ := hviolations r' hr'
      cases hinfo

end Session

end RuntimeContracts
