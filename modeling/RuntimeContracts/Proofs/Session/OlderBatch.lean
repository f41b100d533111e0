import RuntimeContracts.Checker.Defaults
import RuntimeContracts.Proofs.Clause.Evaluation
import RuntimeContracts.Proofs.Session.Switch
import RuntimeContracts.Value.Text

/-!
# Batches from before the switch

A batch does not know its checker, so one that was bound before the switch keeps running the tests
that it is given. The inert assertions that a disabled checker hands out do not look at the value,
but they answer: an inert assertion says yes, and an inert negation says no.

* `Checker.lookupAll`: the assertions of a list of look-ups.
* `Assertion.value_test_inert`, `Assertion.log_test_inert`: what an inert assertion answers.
* `Batch.must_inert`, `Batch.either_inert`: the verdict of a clause over inert assertions.
* `Session.clause_on_older_batch`: what becomes of a batch whose checker was switched off in between.
* `Session.negation_on_older_batch`: a negation that is handed out after the switch is not kept.
-/
namespace RuntimeContracts

/-- A look-up: the name of an assertion, and whether it is the inversion that is asked for. -/
structure LookUp where
  name : String
  inverted : Bool

namespace LookUp

/-- What a disabled checker hands out. -/
def inert (q : LookUp) : Assertion ε α := .inert q.name q.inverted

/-- The name under which it is cited. -/
def citation (q : LookUp) : String := if q.inverted then "not " ++ q.name else q.name

end LookUp

/-- The assertions of look-ups, or the error of the first that fails. -/
def Checker.lookupAll (c : Checker ε α) (asked : List LookUp) :
    Except ContractError (List (Assertion ε α)) :=
  asked.mapM fun q => c.lookup q.name q.inverted

theorem Checker.lookupAll_of_disabled {c : Checker ε α} (h : c.enabled = false)
    (asked : List LookUp) : c.lookupAll asked = .ok (asked.map LookUp.inert) := by
  induction asked with
  | nil => rfl
  | cons q rest ih =>
    have hq : c.lookup q.name q.inverted = .ok q.inert := lookup_of_disabled h q.name q.inverted
    rw [lookupAll] at ih ⊢
    rw [List.mapM_cons, hq, ih]
    rfl

/-! ## Inert assertions -/

namespace Assertion

/-- An inert assertion says yes to every value, and an inert negation says no. -/
theorem value_test_inert (name : String) (inverted : Bool) (v : α) :
    ((inert name inverted : Assertion ε α).test v).value = !inverted := by
  cases inverted <;> rfl

theorem log_test_inert (name : String) (inverted : Bool) (v : α) :
    ((inert name inverted : Assertion ε α).test v).log = [] := by
  cases inverted <;> rfl

end Assertion

theorem LookUp.displayName_inert (q : LookUp) :
    (q.inert : Assertion ε α).displayName = q.citation := by
  obtain ⟨name, inverted⟩ := q
  cases inverted <;> rfl

theorem LookUp.holds_inert_iff {q : LookUp} {v : α} :
    (q.inert : Assertion ε α).Holds v ↔ q.inverted = false := by
  rw [Assertion.Holds, inert, Assertion.value_test_inert, Bool.not_eq_true']

/-! ## Clauses over inert assertions -/

namespace Batch

theorem asked_about_inert (v : α) {assertions : List (Assertion ε α)}
    (h : ∀ a ∈ assertions, (a.test v).log = []) : asked (about v assertions) = [] := by
  rw [asked, about, List.flatMap_map, List.flatMap_eq_nil_iff]
  exact h

theorem asking_inert (clause : Clause) (asked : List LookUp) (v : α) :
    asking clause (asked.map LookUp.inert : List (Assertion ε α)) v = [] := by
  have hsilent : ∀ n, ∀ a ∈ (asked.map LookUp.inert : List (Assertion ε α)).take n,
      (a.test v).log = [] := by
    intro n a ha
    obtain ⟨q, -, rfl⟩ := List.mem_map.1 (List.mem_of_mem_take ha)
    exact Assertion.log_test_inert q.name q.inverted v
  cases clause with
  | must =>
    rw [asking, log_firstUnmet]
    exact asked_about_inert v (hsilent _)
  | either =>
    rw [asking, log_anyMet]
    exact asked_about_inert v (hsilent _)

variable {ε α : Type} [HasText α]

/-- Values that keep a clause over inert assertions keep it without anything being written. -/
theorem require_inert_of_keeps (clause : Clause) {asked : List LookUp} (b : Batch α)
    (h : ∀ v ∈ b.values, Keeps clause (asked.map LookUp.inert : List (Assertion ε α)) v) :
    b.require clause (asked.map LookUp.inert : List (Assertion ε α)) = pure (.ok b) := by
  cases b with
  | exempt => exact require_exempt clause _
  | bound vs =>
    have hsilent : vs.flatMap (asking clause (asked.map LookUp.inert : List (Assertion ε α))) = [] :=
      List.flatMap_eq_nil_iff.2 fun v _ => asking_inert clause asked v
    have hrequire : (bound vs).require clause (asked.map LookUp.inert) = _ := require_of_keeps h
    rw [hsilent] at hrequire
    exact hrequire

/-- A clause over inert assertions that is not kept fails at the first value. -/
theorem require_inert_of_not_keeps {clause : Clause} {asked : List LookUp} {v : α}
    (h : ¬ Keeps clause (asked.map LookUp.inert : List (Assertion ε α)) v) (rest : List α) :
    (bound (v :: rest)).require clause (asked.map LookUp.inert : List (Assertion ε α)) =
      ⟨.error (violation clause 0 v
        (blamed clause (asked.map LookUp.inert : List (Assertion ε α)) v)), []⟩ := by
  have hrequire := require_of_not_keeps (List.forall_mem_nil _) h rest
  rw [List.nil_append, List.nil_append, List.flatMap_singleton, asking_inert] at hrequire
  exact hrequire

/-- A must clause over inert assertions fails if there is a negation among them, and cites the
first one. -/
theorem must_inert (b : Batch α) (asked : List LookUp) :
    b.must (asked.map LookUp.inert : List (Assertion ε α)) =
      match b.values, asked.find? (·.inverted) with
      | v :: _, some q =>
        ⟨.error
          { clause := .must
            index := 0
            value := HasText.text v
            cited := [q.citation] }, []⟩
      | _, _ => pure (.ok b) := by
  cases hfind : asked.find? (·.inverted) with
  | none =>
    have hkeeps : ∀ v ∈ b.values,
        Keeps .must (asked.map LookUp.inert : List (Assertion ε α)) v := by
      intro v _ a ha
      obtain ⟨q, hq, rfl⟩ := List.mem_map.1 ha
      exact LookUp.holds_inert_iff.2 (Bool.eq_false_iff.2 (List.find?_eq_none.1 hfind q hq))
    have hrequire := require_inert_of_keeps _ b hkeeps
    cases hb : b.values <;> exact hrequire
  | some q =>
    match b with
    | exempt => rfl
    | bound [] =>
      exact require_inert_of_keeps .must (bound []) (List.forall_mem_nil _)
    | bound (v :: rest) =>
      have hq : q.inverted = true := List.find?_some hfind
      have hnot : ¬ Keeps .must (asked.map LookUp.inert : List (Assertion ε α)) v := by
        intro hkeeps
        have hholds := hkeeps _ (List.mem_map_of_mem (List.mem_of_find?_eq_some hfind))
        rw [LookUp.holds_inert_iff, hq] at hholds
        cases hholds
      have hblamed : blamed .must (asked.map LookUp.inert : List (Assertion ε α)) v = [q.inert] := by
        have hask : (fun a : Assertion ε α => !(a.test v).value) ∘ LookUp.inert =
            fun p => p.inverted := by
          funext p
          rw [Function.comp, LookUp.inert, Assertion.value_test_inert, Bool.not_not]
        rw [blamed, List.find?_map, hask, hfind]
        rfl
      have hrequire := require_inert_of_not_keeps hnot rest
      rw [hblamed, violation, List.map_singleton, LookUp.displayName_inert] at hrequire
      exact hrequire

/-- An either clause over inert assertions fails if there is nothing but negations among them. -/
theorem either_inert (b : Batch α) (asked : List LookUp) :
    b.either (asked.map LookUp.inert : List (Assertion ε α)) =
      match b.values, asked.all (·.inverted) with
      | v :: _, true =>
        ⟨.error
          { clause := .either
            index := 0
            value := HasText.text v
            cited := asked.map LookUp.citation }, []⟩
      | _, _ => pure (.ok b) := by
  cases hall : asked.all (·.inverted) with
  | false =>
    obtain ⟨q, hq, hno⟩ := List.all_eq_false.1 hall
    have hkeeps : ∀ v ∈ b.values,
        Keeps .either (asked.map LookUp.inert : List (Assertion ε α)) v := fun v _ =>
      ⟨q.inert, List.mem_map_of_mem hq, LookUp.holds_inert_iff.2 (Bool.eq_false_iff.2 hno)⟩
    have hrequire := require_inert_of_keeps _ b hkeeps
    cases hb : b.values <;> exact hrequire
  | true =>
    match b with
    | exempt => rfl
    | bound [] =>
      exact require_inert_of_keeps .either (bound []) (List.forall_mem_nil _)
    | bound (v :: rest) =>
      have hnot : ¬ Keeps .either (asked.map LookUp.inert : List (Assertion ε α)) v := by
        rintro ⟨a, ha, hholds⟩
        obtain ⟨q, hq, rfl⟩ := List.mem_map.1 ha
        rw [LookUp.holds_inert_iff, List.all_eq_true.1 hall q hq] at hholds
        cases hholds
      have hcited : (asked.map LookUp.inert : List (Assertion ε α)).map (·.displayName) =
          asked.map LookUp.citation := by
        rw [List.map_map]
        exact List.map_congr_left fun q _ => q.displayName_inert
      have hrequire := require_inert_of_not_keeps hnot rest
      rw [violation, blamed, hcited] at hrequire
      exact hrequire

end Batch

/-! ## Sessions -/

namespace Session

variable {ε α : Type} [HasText α]

/-- **The switch between binding and checking.** After any session has been switched off, and
whatever is done in it since, its checker hands out an assertion for every look-up. A batch that is
not exempt, because it was bound before, is put to them without a test that looks at a value or
writes anything: a must clause passes unless there is a negation among them, and an either clause
passes unless there are negations only. A batch without values passes in any case. -/
theorem clause_on_older_batch (s : Session ε α) (since : List (Action ε α)) (b : Batch α)
    (asked : List LookUp) :
    let now := ((s.step .disable).value.run since).value
    ∃ handed, now.checker.lookupAll asked = .ok handed ∧
      (b.must handed =
        match b.values, asked.find? (·.inverted) with
        | v :: _, some q =>
          ⟨.error
            { clause := .must
              index := 0
              value := HasText.text v
              cited := [q.citation] }, []⟩
        | _, _ => pure (.ok b)) ∧
      (b.either handed =
        match b.values, asked.all (·.inverted) with
        | v :: _, true =>
          ⟨.error
            { clause := .either
              index := 0
              value := HasText.text v
              cited := asked.map LookUp.citation }, []⟩
        | _, _ => pure (.ok b)) := by
  intro now
  have hnow : now.SwitchedOff s.checker.registry s.batches := s.switchedOff_disable.run since
  exact ⟨asked.map LookUp.inert, Checker.lookupAll_of_disabled hnow.enabled asked,
    Batch.must_inert b asked, Batch.either_inert b asked⟩

/-- It is not the case that clauses over assertions that are handed out after the switch are kept
by every batch from before it. -/
theorem negation_on_older_batch :
    ¬ ∀ (before : List (Action Unit Value)) (values : List Value) (asked : List LookUp),
      asked ≠ [] →
      let s := ((Session.mk Checker.new []).run before).value
      let b := s.checker.bind values
      ∀ handed, (s.step .disable).value.checker.lookupAll asked = .ok handed →
        (b.must handed).value = .ok b ∧ (b.either handed).value = .ok b := by
  intro hkept
  have hmust := (hkept [] [.string "x"] [⟨"number", true⟩] (List.cons_ne_nil _ _)
    [.inert "number" true] rfl).1
  have hviolated := Batch.must_inert (ε := Unit) (.bound [Value.string "x"]) [⟨"number", true⟩]
  cases (congrArg Logged.value hviolated).symm.trans hmust

end Session

end RuntimeContracts
