import RuntimeContracts.Proofs.Clause.Verdict
import RuntimeContracts.Proofs.Setup.Build

/-!
# Registries that are extended

Assertions that are registered one after another, and are all accepted, extend the registry: each of
them is there afterwards beside its inversion, and under every other name there is what was there
before. None of them can have been refused, so their names were free, and nothing that was there is
replaced.

The default assertions have names that are not blank and differ from each other. So nothing but an
assertion that was there before can keep one of them out, and those in front of it are left behind
in the registry.

* `Registry.ExtendedBy`: what is left of a registry after assertions have been added to it.
* `Registry.ExtendedBy.append`: assertions are added in two steps.
* `Checker.Accepts.extendedBy`: accepted assertions extend the registry.
* `Checker.exists_accepts`: assertions that are accepted, whatever their tests are.
* `Checker.value_registerAll_of_free`, `Checker.value_registerAll_of_taken`: a list of
  registrations over what is there.
* `Checker.registerDefaults_over_registered`: the default assertions over what is there.
-/
namespace RuntimeContracts

variable {ε α : Type}

namespace Registry

/-! ## Extensions -/

/-- The second registry is what the first one is after assertions have been added to it, each beside
its inversion and under a name that was free. -/
structure ExtendedBy (r : Registry ε α) (added : List (Assertion ε α)) (r' : Registry ε α) :
    Prop where
  free : ∀ a ∈ added, r.contains a.name = false
  gained : ∀ a ∈ added, r'.get? a.name = some a ∧ r'.getInverted? a.name = some a.invert
  unchanged : ∀ name, (∀ a ∈ added, a.name ≠ name) →
    r'.get? name = r.get? name ∧ r'.getInverted? name = r.getInverted? name
  size_eq : r'.size = r.size + added.length

theorem ExtendedBy.nil (r : Registry ε α) : r.ExtendedBy [] r where
  free := List.forall_mem_nil _
  gained := List.forall_mem_nil _
  unchanged _ _ := ⟨rfl, rfl⟩
  size_eq := rfl

theorem extendedBy_of_insert {r r' : Registry ε α} {a : Assertion ε α} (h : r.insert a = .ok r') :
    r.ExtendedBy [a] r' := by
  cases hb : Text.isBlank a.name with
  | true =>
    rw [insert_of_isBlank hb] at h
    cases h
  | false =>
    cases hc : r.contains a.name with
    | true =>
      rw [insert_of_contains hb hc] at h
      cases h
    | false =>
      have hsize := size_of_insert h
      rw [insert_of_not_contains hb hc] at h
      cases h
      constructor
      · exact List.forall_mem_singleton.2 hc
      · refine List.forall_mem_singleton.2 ⟨?_, ?_⟩
        · exact (SortedMap.get?_insert _ _ _ _).trans (if_pos rfl)
        · exact (SortedMap.get?_insert _ _ _ _).trans (if_pos rfl)
      · intro name hname
        have hne : ¬ a.name = name := hname a List.mem_cons_self
        constructor
        · exact (SortedMap.get?_insert _ _ _ _).trans (if_neg hne)
        · exact (SortedMap.get?_insert _ _ _ _).trans (if_neg hne)
      · exact hsize

namespace ExtendedBy

variable {r r₁ r₂ : Registry ε α} {added more : List (Assertion ε α)}

/-- A name that was taken is none of those that are added. -/
theorem unchanged_of_contains (h : r.ExtendedBy added r₁) {name : String}
    (hname : r.contains name = true) :
    r₁.get? name = r.get? name ∧ r₁.getInverted? name = r.getInverted? name := by
  refine h.unchanged name fun a ha heq => ?_
  have hfree := h.free a ha
  rw [heq, hname] at hfree
  cases hfree

theorem contains_of_contains (h : r.ExtendedBy added r₁) {name : String}
    (hname : r.contains name = true) : r₁.contains name = true := by
  have hget := (h.unchanged_of_contains hname).1
  show (r₁.get? name).isSome = true
  rw [hget]
  exact hname

theorem contains_of_mem (h : r.ExtendedBy added r₁) {a : Assertion ε α} (ha : a ∈ added) :
    r₁.contains a.name = true := by
  show (r₁.get? a.name).isSome = true
  rw [(h.gained a ha).1]
  rfl

theorem contains_of_ne (h : r.ExtendedBy added r₁) {name : String}
    (hname : ∀ a ∈ added, a.name ≠ name) : r₁.contains name = r.contains name :=
  congrArg Option.isSome (h.unchanged name hname).1

/-- What is added in a second step is not among what was added in the first one. -/
theorem append (h₁ : r.ExtendedBy added r₁) (h₂ : r₁.ExtendedBy more r₂) :
    r.ExtendedBy (added ++ more) r₂ := by
  constructor
  · intro a ha
    rcases List.mem_append.1 ha with ha | ha
    · exact h₁.free a ha
    · have hfree := h₂.free a ha
      rw [← Bool.not_eq_true] at hfree ⊢
      exact fun hname => hfree (h₁.contains_of_contains hname)
  · intro a ha
    rcases List.mem_append.1 ha with ha | ha
    · obtain ⟨hget, hinverted⟩ := h₂.unchanged_of_contains (h₁.contains_of_mem ha)
      rw [hget, hinverted]
      exact h₁.gained a ha
    · exact h₂.gained a ha
  · intro name hname
    obtain ⟨hadded, hmore⟩ := List.forall_mem_append.1 hname
    obtain ⟨hget₁, hinverted₁⟩ := h₁.unchanged name hadded
    obtain ⟨hget₂, hinverted₂⟩ := h₂.unchanged name hmore
    exact ⟨hget₂.trans hget₁, hinverted₂.trans hinverted₁⟩
  · rw [h₂.size_eq, h₁.size_eq, List.length_append, Nat.add_assoc]

end ExtendedBy

end Registry

namespace Checker

variable {c c' : Checker ε α} {as : List (Assertion ε α)}

/-! ## Registrations over what is there -/

theorem extendedBy_of_register {a : Assertion ε α} (hon : c.enabled = true)
    (h : (c.register a).value = (.ok (), c')) : c.registry.ExtendedBy [a] c'.registry := by
  cases hinsert : c.registry.insert a with
  | ok r =>
    rw [register_of_insert_ok hon hinsert] at h
    cases h
    exact Registry.extendedBy_of_insert hinsert
  | error e =>
    rw [register_of_insert_error hon hinsert] at h
    cases h

/-- What an enabled checker accepts is added to its registry. -/
theorem Accepts.extendedBy (h : c.Accepts as c') (hon : c.enabled = true) :
    c.registry.ExtendedBy as c'.registry := by
  induction h with
  | nil => exact .nil _
  | @cons c middle c' a rest head tail ih =>
    have hmiddle : middle.enabled = true := by
      have hstep := enabled_register c a
      rwa [head, hon] at hstep
    exact (extendedBy_of_register hon head).append (ih hmiddle)

theorem exists_register {a : Assertion ε α} (hon : c.enabled = true)
    (hblank : Text.isBlank a.name = false) (hfree : c.contains a.name = false) :
    ∃ c', (c.register a).value = (.ok (), c') ∧ c'.enabled = true := by
  have hinsert := Registry.insert_of_not_contains hblank hfree
  exact ⟨_, congrArg Logged.value (register_of_insert_ok hon hinsert), rfl⟩

/-- Assertions with names of their own are accepted if all of the names are free. -/
theorem exists_accepts (hon : c.enabled = true) (hblank : ∀ a ∈ as, Text.isBlank a.name = false)
    (hdistinct : (as.map (·.name)).Nodup) (hfree : ∀ a ∈ as, c.contains a.name = false) :
    ∃ c', c.Accepts as c' := by
  induction as generalizing c with
  | nil => exact ⟨c, .nil⟩
  | cons a rest ih =>
    obtain ⟨hblank₀, hblank⟩ := List.forall_mem_cons.1 hblank
    obtain ⟨hfree₀, hfree⟩ := List.forall_mem_cons.1 hfree
    rw [List.map_cons, List.nodup_cons] at hdistinct
    obtain ⟨middle, hhead, hmiddle⟩ := exists_register hon hblank₀ hfree₀
    -- the names of the others are not the one that has just been taken
    have hrest : ∀ b ∈ rest, middle.contains b.name = false := by
      intro b hb
      rw [← hfree b hb]
      refine (extendedBy_of_register hon hhead).contains_of_ne
        (List.forall_mem_singleton.2 fun heq => hdistinct.1 ?_)
      rw [heq]
      exact List.mem_map_of_mem hb
    obtain ⟨c', tail⟩ := ih hmiddle hblank hdistinct.2 hrest
    exact ⟨c', .cons hhead tail⟩

theorem value_registerAll_of_free (hon : c.enabled = true)
    (hblank : ∀ a ∈ as, Text.isBlank a.name = false) (hdistinct : (as.map (·.name)).Nodup)
    (hfree : ∀ a ∈ as, c.contains a.name = false) :
    ∃ c', (c.registerAll as).value = (.ok (), c') ∧ c'.enabled = true ∧
      c.registry.ExtendedBy as c'.registry := by
  obtain ⟨c', haccepts⟩ := exists_accepts hon hblank hdistinct hfree
  exact ⟨c', registerAll_eq_ok_iff.2 haccepts, haccepts.enabled_eq.trans hon,
    haccepts.extendedBy hon⟩

/-- The first name that is taken ends the registrations. What stands in front of it stays in the
registry. -/
theorem value_registerAll_of_taken {before after : List (Assertion ε α)} {a : Assertion ε α}
    (hon : c.enabled = true) (hblank : ∀ b ∈ before ++ a :: after, Text.isBlank b.name = false)
    (hdistinct : ((before ++ a :: after).map (·.name)).Nodup)
    (hfree : ∀ b ∈ before, c.contains b.name = false) (htaken : c.contains a.name = true) :
    ∃ c', (c.registerAll (before ++ a :: after)).value = (.error (.duplicateName a.name), c') ∧
      c'.enabled = true ∧ c.registry.ExtendedBy before c'.registry := by
  obtain ⟨hblank, hblank'⟩ := List.forall_mem_append.1 hblank
  have hblank₀ := (List.forall_mem_cons.1 hblank').1
  rw [List.map_append] at hdistinct
  obtain ⟨c', haccepts⟩ := exists_accepts hon hblank (List.nodup_append.1 hdistinct).1 hfree
  have hextended := haccepts.extendedBy hon
  have hon' : c'.enabled = true := haccepts.enabled_eq.trans hon
  have hinsert : c'.registry.insert a = .error (.duplicateName a.name) :=
    Registry.insert_of_contains hblank₀ (hextended.contains_of_contains htaken)
  have hrefused : (c'.register a).value = (.error (.duplicateName a.name), c') :=
    congrArg Logged.value (register_of_insert_error hon' hinsert)
  exact ⟨c', registerAll_eq_error_iff.2 ⟨before, a, after, c', rfl, haccepts, hrefused⟩, hon',
    hextended⟩

/-! ## The default assertions -/

theorem isBlank_name_default (a : Assertion ε Value) (ha : a ∈ defaultAssertions) :
    Text.isBlank a.name = false := by
  have hnames : ∀ name ∈ defaultNames, Text.isBlank name = false := by decide
  refine hnames a.name ?_
  rw [← map_name_defaultAssertions (ε := ε)]
  exact List.mem_map_of_mem ha

theorem nodup_name_default :
    ((defaultAssertions : List (Assertion ε Value)).map (·.name)).Nodup := by
  rw [map_name_defaultAssertions]
  decide

/-- None of the default names is taken, or there is a first one that is. -/
theorem free_or_first_taken (c : Checker ε Value) :
    (∀ a ∈ (defaultAssertions : List (Assertion ε Value)), c.contains a.name = false) ∨
      ∃ before a after, (defaultAssertions : List (Assertion ε Value)) = before ++ a :: after ∧
        (∀ b ∈ before, c.contains b.name = false) ∧ c.contains a.name = true := by
  rcases all_or_first_not (fun a : Assertion ε Value => c.contains a.name = false)
    defaultAssertions with hfree | ⟨before, a, after, hsplit, hfree, htaken⟩
  · exact .inl hfree
  · exact .inr ⟨before, a, after, hsplit, hfree, Bool.not_eq_false _ ▸ htaken⟩

/-- **The default assertions over what is there.** An enabled checker, whatever has been registered
with it before, registers the default assertions just in case none of their names is taken, and then
its registry is extended by all of them. Otherwise it reports the first of the names, in their
order, that is taken. Its registry is then extended by the default assertions in front of that one,
and under the names behind it there is what was there before. In any case an assertion that was
there stays as it was, and so does its inversion. -/
theorem registerDefaults_over_registered {c : Checker ε Value} (hon : c.enabled = true) :
    let answer := c.registerDefaults.value.1
    let c' := c.registerDefaults.value.2
    (answer = .ok () ↔ ∀ name ∈ defaultNames, c.contains name = false) ∧
    (answer = .ok () → c.registry.ExtendedBy defaultAssertions c'.registry) ∧
    (answer ≠ .ok () →
      ∃ before a after, defaultAssertions = before ++ a :: after ∧
        (∀ b ∈ before, c.contains b.name = false) ∧ c.contains a.name = true ∧
        answer = .error (.duplicateName a.name) ∧
        c.registry.ExtendedBy before c'.registry ∧
        ∀ b ∈ after, c'.registry.get? b.name = c.registry.get? b.name ∧
          c'.registry.getInverted? b.name = c.registry.getInverted? b.name) ∧
    (∀ name a, c.registry.get? name = some a →
      c'.registry.get? name = some a ∧
        c'.registry.getInverted? name = c.registry.getInverted? name) ∧
    c'.enabled = true := by
  intro answer c'
  -- what has been added does not matter for what was there
  have hkept : ∀ added, c.registry.ExtendedBy added c'.registry →
      ∀ name a, c.registry.get? name = some a → c'.registry.get? name = some a ∧
        c'.registry.getInverted? name = c.registry.getInverted? name := by
    intro added hextended name a ha
    have hname : c.registry.contains name = true := Option.isSome_iff_exists.2 ⟨a, ha⟩
    obtain ⟨hget, hinverted⟩ := hextended.unchanged_of_contains hname
    exact ⟨hget.trans ha, hinverted⟩
  have hnames : (∀ name ∈ defaultNames, c.contains name = false) ↔
      ∀ a ∈ (defaultAssertions : List (Assertion ε Value)), c.contains a.name = false := by
    rw [← map_name_defaultAssertions (ε := ε), List.forall_mem_map]
  rw [hnames]
  rcases free_or_first_taken c with hfree | ⟨before, a, after, hsplit, hfree, htaken⟩
  · obtain ⟨last, hlast, hon', hextended⟩ :=
      value_registerAll_of_free hon isBlank_name_default nodup_name_default hfree
    obtain rfl : c' = last := congrArg Prod.snd hlast
    have hanswer : answer = .ok () := congrArg Prod.fst hlast
    exact ⟨iff_of_true hanswer hfree, fun _ => hextended, fun hne => absurd hanswer hne,
      hkept _ hextended, hon'⟩
  · have hblank := isBlank_name_default (ε := ε)
    have hdistinct := nodup_name_default (ε := ε)
    rw [hsplit] at hblank hdistinct
    obtain ⟨last, hlast, hon', hextended⟩ :=
      value_registerAll_of_taken hon hblank hdistinct hfree htaken
    rw [← hsplit] at hlast
    obtain rfl : c' = last := congrArg Prod.snd hlast
    have hanswer : answer = .error (.duplicateName a.name) := congrArg Prod.fst hlast
    have hnot : answer ≠ .ok () := by
      rw [hanswer]
      exact nofun
    refine ⟨iff_of_false hnot fun hall => ?_, fun hok => absurd hok hnot, fun _ => ?_,
      hkept _ hextended, hon'⟩
    · have hfree₀ := hall a (hsplit ▸ List.mem_append_right before List.mem_cons_self)
      rw [htaken] at hfree₀
      cases hfree₀
    · refine ⟨before, a, after, hsplit, hfree, htaken, hanswer, hextended, fun b hb => ?_⟩
      refine hextended.unchanged b.name fun d hd heq => ?_
      rw [List.map_append] at hdistinct
      refine (List.nodup_append.1 hdistinct).2.2 d.name (List.mem_map_of_mem hd) b.name ?_ heq
      exact List.mem_map_of_mem (List.mem_cons_of_mem a hb)

/-- A user's own assertion under one of the default names. -/
def ownBoolean : Assertion Unit Value :=
  (Assertion.ofTest "boolean" (.silent Value.isNumber)).withDisplayName "yes or no"

/-- The default assertions in front of the user's own one are registered, and those behind it are
not. The user's own one is still there, and so is its inversion. -/
theorem registerDefaults_over_own_boolean :
    let c : Checker Unit Value := (Checker.new.register ownBoolean).value.2
    let c' := c.registerDefaults.value.2
    c.enabled = true ∧
    c.registerDefaults.value.1 = .error (.duplicateName "boolean") ∧
    c'.names = ["boolean", "number", "string"] ∧
    c'.registry.get? "boolean" = some ownBoolean ∧
    c'.registry.getInverted? "boolean" = some ownBoolean.invert := by
  intro c c'
  have hon : c.enabled = true := rfl
  obtain ⟨-, -, -, hkept, -⟩ := registerDefaults_over_registered hon
  obtain ⟨hget, hinverted⟩ := hkept "boolean" ownBoolean rfl
  exact ⟨hon, rfl, rfl, hget, hinverted.trans rfl⟩

end Checker

end RuntimeContracts
