import RuntimeContracts.Checker.Basic

/-!
# Registries after a history of insertions

A registry is filled by one insertion after another, and its user may go on after a refusal. What
it holds then is settled by the history of what was offered to it: under every name that is not
blank the first assertion of that name, and beside it its inversion.

* `Registry.offer`, `Registry.offerEach`: one insertion by a user who goes on in any case, and a
  history of them.
* `Registry.offer_eq_insert`: this is `Registry.insert`, carried out step by step.
* `Registry.Remembers`: the invariant, which relates both maps of a registry to the history.
* `Registry.Remembers.offer`, `Registry.remembers_offerEach`: an insertion keeps it, so it holds
  after every history.
* `Registry.Remembers.answered`: what the next insertion is answered.
* `Checker.value_registerEach`: an enabled checker fills its registry in the same way.
* `Registry.first_offered_is_kept`: all of it together.
-/
namespace RuntimeContracts

/-! ## Inversions -/

/-- `b` is asked as `a` is, says the opposite, and is cited as its negation. -/
structure Assertion.Inverts (b a : Assertion ε α) : Prop where
  name : b.name = a.name
  displayName : b.displayName = "not " ++ a.displayName
  isInverted : b.isInverted = !a.isInverted
  answer : ∀ v, (b.test v).value = !(a.test v).value
  log : ∀ v, (b.test v).log = (a.test v).log

theorem Assertion.inverts_invert (a : Assertion ε α) : a.invert.Inverts a where
  name := a.name_invert
  displayName := a.displayName_invert
  isInverted := a.isInverted_invert
  answer := a.value_test_invert
  log := a.log_test_invert

namespace Registry

/-! ## Histories -/

variable {ε α : Type}

/-- Changes to a registry that stays with its user, even if they end in an error. -/
abbrev InPlace (ε α : Type) := ExceptT ContractError (StateM (Registry ε α))

/-- Writes an inversion, and then its assertion. -/
def store (a : Assertion ε α) : InPlace ε α Unit := do
  modify fun r => { r with inverted := r.inverted.insert a.name a.invert }
  modify fun r => { r with base := r.base.insert a.name a }

/-- The insertion step by step. The name is checked before anything is written. -/
def insertInPlace (a : Assertion ε α) : InPlace ε α Unit := do
  if Text.isBlank a.name then throw (.invalidName a.name)
  if (← get).contains a.name then throw (.duplicateName a.name)
  store a

/-- The answer to an insertion, with the registry as it is afterwards in any case. -/
def offer (r : Registry ε α) (a : Assertion ε α) : Except ContractError Unit × Registry ε α :=
  Id.run ((insertInPlace a).run.run r)

/-- The registry after assertions have been offered to it one after another. -/
def offerEach (r : Registry ε α) : List (Assertion ε α) → Registry ε α
  | [] => r
  | a :: rest => (r.offer a).2.offerEach rest

theorem offer_of_isBlank {a : Assertion ε α} (h : Text.isBlank a.name = true)
    (r : Registry ε α) : r.offer a = (.error (.invalidName a.name), r) := by
  rw [offer, insertInPlace, if_pos h]
  rfl

theorem offer_of_not_isBlank {a : Assertion ε α} (h : Text.isBlank a.name = false)
    (r : Registry ε α) :
    r.offer a =
      if r.contains a.name then (.error (.duplicateName a.name), r)
      else (.ok (), ⟨r.base.insert a.name a, r.inverted.insert a.name a.invert⟩) := by
  rw [offer, insertInPlace, h]
  show Id.run ((if r.contains a.name = true then throw (ContractError.duplicateName a.name)
    else store a : InPlace ε α Unit).run.run r) = _
  cases r.contains a.name <;> rfl

/-- The steps amount to the insertion, and to nothing at all where it is refused. -/
theorem offer_eq_insert (r : Registry ε α) (a : Assertion ε α) :
    r.offer a =
      match r.insert a with
      | .ok r' => (.ok (), r')
      | .error e => (.error e, r) := by
  unfold insert
  cases hb : Text.isBlank a.name with
  | true =>
    rw [offer_of_isBlank hb]
    rfl
  | false =>
    rw [offer_of_not_isBlank hb]
    cases r.contains a.name <;> rfl

theorem insert_eq_map_offer (r : Registry ε α) (a : Assertion ε α) :
    r.insert a = (r.offer a).1.map fun _ => (r.offer a).2 := by
  rw [offer_eq_insert]
  cases r.insert a <;> rfl

theorem offerEach_append (r : Registry ε α) (earlier later : List (Assertion ε α)) :
    r.offerEach (earlier ++ later) = (r.offerEach earlier).offerEach later := by
  induction earlier generalizing r with
  | nil => rfl
  | cons a rest ih => exact ih _

/-- The history up to an insertion, and that insertion. -/
theorem offerEach_take_succ {history : List (Assertion ε α)} {k : Nat} {a : Assertion ε α}
    (h : history[k]? = some a) (r : Registry ε α) :
    r.offerEach (history.take (k + 1)) = ((r.offerEach (history.take k)).offer a).2 := by
  rw [List.take_add_one, h, offerEach_append]
  rfl

/-! ## The invariant -/

/-- The first assertion that was offered under a name, unless the name is blank. -/
def firstOffered (history : List (Assertion ε α)) (name : String) : Option (Assertion ε α) :=
  if Text.isBlank name then none else history.find? fun a => a.name == name

/-- What was offered first under a name is not replaced by what is offered later. -/
theorem firstOffered_append_singleton (history : List (Assertion ε α)) (a : Assertion ε α)
    (name : String) :
    firstOffered (history ++ [a]) name =
      (firstOffered history name).or
        (if Text.isBlank name = false ∧ a.name = name then some a else none) := by
  unfold firstOffered
  by_cases hb : Text.isBlank name = true
  · simp [hb]
  · by_cases hn : a.name = name <;> simp [hb, hn, List.find?_append]

theorem isSome_firstOffered {history : List (Assertion ε α)} {name : String} :
    (firstOffered history name).isSome = true ↔
      Text.isBlank name = false ∧ ∃ a ∈ history, a.name = name := by
  unfold firstOffered
  by_cases hb : Text.isBlank name = true <;> simp [hb]

/-- The registry holds what a history has left: under every name the assertion that was offered
first, and in its second map the inversions of what is in the first one. -/
structure Remembers (r : Registry ε α) (history : List (Assertion ε α)) : Prop where
  get?_eq : ∀ name, r.get? name = firstOffered history name
  paired : r.inverted.entries = r.base.entries.mapValues Assertion.invert

theorem remembers_empty : Remembers (empty : Registry ε α) [] where
  get?_eq name := by simp [get?, empty, SortedMap.get?, EmptyCollection.emptyCollection,
    SortedMap.empty, Entries.get?, firstOffered]
  paired := rfl

namespace Remembers

variable {r : Registry ε α} {history : List (Assertion ε α)}

theorem contains_iff (h : r.Remembers history) {name : String} :
    r.contains name = true ↔ Text.isBlank name = false ∧ ∃ a ∈ history, a.name = name := by
  rw [← isSome_firstOffered, ← h.get?_eq]
  rfl

theorem getInverted?_eq (h : r.Remembers history) (name : String) :
    r.getInverted? name = (r.get? name).map Assertion.invert := by
  show r.inverted.entries.get? name = (r.base.entries.get? name).map Assertion.invert
  rw [h.paired, Entries.get?_mapValues]

theorem keys_inverted (h : r.Remembers history) : r.inverted.keys = r.names := by
  show r.inverted.entries.keys = r.base.entries.keys
  rw [h.paired, Entries.keys_mapValues]

/-- A refused insertion leaves the registry as it is, and what is refused adds nothing to what was
offered first. -/
theorem of_firstOffered_eq (h : r.Remembers history) {a : Assertion ε α}
    (ha : ∀ name, firstOffered (history ++ [a]) name = firstOffered history name) :
    r.Remembers (history ++ [a]) where
  get?_eq name := (h.get?_eq name).trans (ha name).symm
  paired := h.paired

/-- An insertion, accepted or refused, keeps the invariant. -/
theorem offer (h : r.Remembers history) (a : Assertion ε α) :
    (r.offer a).2.Remembers (history ++ [a]) := by
  cases hb : Text.isBlank a.name with
  | true =>
    rw [offer_of_isBlank hb]
    refine h.of_firstOffered_eq fun name => ?_
    rw [firstOffered_append_singleton, if_neg, Option.or_none]
    rintro ⟨hname, rfl⟩
    rw [hb] at hname
    cases hname
  | false =>
    rw [offer_of_not_isBlank hb]
    cases hc : r.contains a.name with
    | true =>
      refine h.of_firstOffered_eq fun name => ?_
      rw [firstOffered_append_singleton]
      by_cases hn : Text.isBlank name = false ∧ a.name = name
      · obtain ⟨first, hfirst⟩ : ∃ first, firstOffered history name = some first := by
          rw [← Option.isSome_iff_exists, ← h.get?_eq, ← hn.2]
          exact hc
        rw [hfirst, Option.some_or]
      · rw [if_neg hn, Option.or_none]
    | false =>
      refine ⟨fun name => ?_, ?_⟩
      · show (r.base.insert a.name a).get? name = _
        rw [SortedMap.get?_insert, firstOffered_append_singleton, ← h.get?_eq]
        by_cases hn : a.name = name
        · have hnone : r.get? name = none := by
            rw [← Option.not_isSome_iff_eq_none, ← hn]
            exact ne_true_of_eq_false hc
          rw [if_pos hn, hnone, Option.none_or, if_pos ⟨hn ▸ hb, hn⟩]
        · rw [if_neg hn, if_neg fun hand => hn hand.2, Option.or_none]
          rfl
      · show r.inverted.entries.insert a.name a.invert =
          (r.base.entries.insert a.name a).mapValues Assertion.invert
        rw [h.paired, Entries.insert_mapValues]

theorem offerEach (h : r.Remembers history) (later : List (Assertion ε α)) :
    (r.offerEach later).Remembers (history ++ later) := by
  induction later generalizing r history with
  | nil =>
    rw [List.append_nil]
    exact h
  | cons a rest ih =>
    have hstep := ih (h.offer a)
    rw [List.append_assoc] at hstep
    exact hstep

end Remembers

/-- A registry that starts empty holds what its history has left. -/
theorem remembers_offerEach (history : List (Assertion ε α)) :
    (empty.offerEach history).Remembers history :=
  remembers_empty.offerEach history

/-! ## Answers -/

/-- The answer to an insertion that comes after others. A blank name weighs more than a taken one,
and a name is taken as soon as it has been offered. -/
structure Answered (earlier : List (Assertion ε α)) (a : Assertion ε α)
    (answer : Except ContractError Unit) : Prop where
  invalid : answer = .error (.invalidName a.name) ↔ Text.isBlank a.name = true
  duplicate : answer = .error (.duplicateName a.name) ↔
    Text.isBlank a.name = false ∧ ∃ b ∈ earlier, b.name = a.name
  accepted : answer = .ok () ↔ Text.isBlank a.name = false ∧ ¬ ∃ b ∈ earlier, b.name = a.name

theorem Remembers.answered {r : Registry ε α} {history : List (Assertion ε α)}
    (h : r.Remembers history) (a : Assertion ε α) : Answered history a (r.offer a).1 := by
  cases hb : Text.isBlank a.name with
  | true =>
    rw [offer_of_isBlank hb]
    constructor <;> simp [hb]
  | false =>
    have hcontains : r.contains a.name = true ↔ ∃ b ∈ history, b.name = a.name := by
      rw [h.contains_iff, hb]
      exact and_iff_right rfl
    rw [offer_of_not_isBlank hb]
    cases hc : r.contains a.name with
    | true =>
      have htaken := hcontains.1 hc
      constructor <;> simp [hb, htaken]
    | false =>
      have hfree : ¬ ∃ b ∈ history, b.name = a.name := by
        rw [← hcontains, hc]
        exact Bool.false_ne_true
      constructor <;> simp [hb, hfree]

/-- An insertion that is refused changes neither map. -/
theorem offer_of_error {r : Registry ε α} {a : Assertion ε α} {e : ContractError}
    (h : (r.offer a).1 = .error e) : (r.offer a).2 = r := by
  rw [offer_eq_insert] at h ⊢
  cases hr : r.insert a with
  | error e' => rfl
  | ok r' =>
    rw [hr] at h
    cases h

end Registry

/-! ## Enabled checkers -/

namespace Checker

variable {ε α : Type}

/-- An enabled checker passes an assertion on to its registry, and answers as the registry does. -/
theorem value_register_of_enabled {c : Checker ε α} (h : c.enabled = true) (a : Assertion ε α) :
    (c.register a).value = ((c.registry.offer a).1, ⟨(c.registry.offer a).2, true⟩) := by
  obtain ⟨r, enabled⟩ := c
  cases h
  rw [Registry.offer_eq_insert, register]
  cases r.insert a <;> rfl

theorem value_registerEach (r : Registry ε α) (history : List (Assertion ε α)) :
    (registerEach ⟨r, true⟩ history).value = ⟨r.offerEach history, true⟩ := by
  induction history generalizing r with
  | nil => rfl
  | cons a rest ih =>
    rw [registerEach, Logged.value_bind, value_register_of_enabled rfl]
    exact ih (r.offer a).2

end Checker

namespace Registry

/-- **First come, first kept.** A registry that starts empty, or an enabled checker that starts
without assertions, has after any history of insertions under every name that is not blank the
first assertion that was offered under it, beside its inversion, and nothing else. Each insertion
on the way is answered by what has been offered before it, and changes nothing if it is refused. -/
theorem first_offered_is_kept (history : List (Assertion ε α)) :
    let r := empty.offerEach history
    (Checker.new.registerEach history).value = ⟨r, true⟩ ∧
    (∀ name, r.get? name =
      if Text.isBlank name then none else history.find? fun a => a.name == name) ∧
    (∀ name, r.getInverted? name = (r.get? name).map Assertion.invert) ∧
    (∀ name, r.getInverted? name = none ↔ r.get? name = none) ∧
    (∀ name a, r.get? name = some a → ∃ b, r.getInverted? name = some b ∧ b.Inverts a) ∧
    r.names.Pairwise Text.Before ∧
    (∀ name, name ∈ r.names ↔ (r.get? name).isSome = true) ∧
    r.inverted.keys = r.names ∧
    r.size = r.names.length ∧
    (r.isEmpty = true ↔ r.names = []) ∧
    (∀ name, r.contains name = true ↔ name ∈ r.names) ∧
    (∀ k a, history[k]? = some a →
      let before := empty.offerEach (history.take k)
      let after := empty.offerEach (history.take (k + 1))
      ∃ answer, before.offer a = (answer, after) ∧
        (before.insert a = answer.map fun _ => after) ∧
        ((Checker.new.registerEach (history.take k)).value.register a).value =
          (answer, ⟨after, true⟩) ∧
        Answered (history.take k) a answer ∧
        ∀ e, answer = .error e → after.base = before.base ∧ after.inverted = before.inverted) := by
  intro r
  have hr : r.Remembers history := remembers_offerEach history
  refine ⟨Checker.value_registerEach empty history, hr.get?_eq, hr.getInverted?_eq, ?_, ?_,
    r.base.pairwise_keys, fun name => SortedMap.mem_keys_iff, hr.keys_inverted,
    r.base.length_keys.symm, SortedMap.isEmpty_iff, fun name => SortedMap.mem_keys_iff.symm, ?_⟩
  · intro name
    rw [hr.getInverted?_eq, Option.map_eq_none_iff]
  · intro name a ha
    refine ⟨a.invert, ?_, a.inverts_invert⟩
    rw [hr.getInverted?_eq, ha, Option.map_some]
  · intro k a hk
    have hafter := offerEach_take_succ hk (empty : Registry ε α)
    have hbefore := remembers_offerEach (history.take k)
    refine ⟨((empty.offerEach (history.take k)).offer a).1, ?_, ?_, ?_, hbefore.answered a, ?_⟩
    · rw [hafter]
    · rw [hafter, insert_eq_map_offer]
    · rw [Checker.new, Checker.value_registerEach, Checker.value_register_of_enabled rfl, hafter]
    · intro e he
      rw [hafter, offer_of_error he]
      exact ⟨rfl, rfl⟩

end Registry

end RuntimeContracts
