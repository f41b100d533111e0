import Mathlib.Data.List.Forall2
import RuntimeContracts.Proofs.Value.Parts
import RuntimeContracts.Value.Equality

/-!
# Laws of equality of values

Values that are equal are built alike, and differ in the signs of zeros only. So equality is
symmetric and transitive. A value is equal to itself unless a NaN stands somewhere in it.

* `Binary64.eq_or_isZero_of_beq`: equal numbers differ in the sign of zero only.
* `Value.Compatible`, `Value.Compatible.of_beq`: a relation of equal leaves that goes over from
  contents to containers holds of equal values.
* `Value.beq_symm`, `Value.beq_trans`: equality is symmetric and transitive.
* `Value.beq_self_iff`: the values that are equal to themselves.
-/
namespace RuntimeContracts

/-! ## Equal numbers -/

namespace Binary64

/-- Equal numbers are the same, or they are zeros. -/
theorem eq_or_isZero_of_beq {x y : Binary64} (h : (x == y) = true) :
    x = y ∨ x.isZero = true ∧ y.isZero = true := by
  obtain ⟨-, -, hrank⟩ := beq_iff.1 h
  simp only [isZero, decide_eq_true_eq]
  by_cases hsign : x.isNegative = y.isNegative
  · left
    have hmagnitude : x.magnitude = y.magnitude := by
      simp only [rank, hsign] at hrank
      split at hrank <;> omega
    rw [← ofMagnitude_magnitude x, ← ofMagnitude_magnitude y, hsign, hmagnitude]
  · right
    -- zero is the only rank that both signs have
    have hopposite : x.isNegative = !y.isNegative := Bool.eq_not.2 hsign
    rw [rank, rank, hopposite] at hrank
    cases hy : y.isNegative with
    | true =>
      simp only [hy, Bool.not_true, Bool.false_eq_true, if_false, if_true] at hrank
      omega
    | false =>
      simp only [hy, Bool.not_false, Bool.false_eq_true, if_true, if_false] at hrank
      omega

end Binary64

namespace Value

/-! ## Induction on equality -/

/-- Equal items in equal places. -/
abbrev ItemsEqual : List Value → List Value → Prop := List.Forall₂ fun v w => (v == w) = true

/-- The same keys with equal values. -/
abbrev EntriesEqual : Entries Value → Entries Value → Prop :=
  List.Forall₂ fun e f => e.1 = f.1 ∧ (e.2 == f.2) = true

theorem beqItems_iff {as bs : List Value} : beqItems as bs = true ↔ ItemsEqual as bs := by
  induction as generalizing bs with
  | nil => cases bs <;> simp [beqItems]
  | cons a as ih =>
    cases bs with
    | nil => simp [beqItems]
    | cons b bs =>
      rw [beqItems, Bool.and_eq_true, ih, ItemsEqual, List.forall₂_cons]
      rfl

theorem beqEntries_iff {es fs : Entries Value} : beqEntries es fs = true ↔ EntriesEqual es fs := by
  induction es generalizing fs with
  | nil => cases fs <;> simp [beqEntries]
  | cons e es ih =>
    cases fs with
    | nil => simp [beqEntries]
    | cons f fs =>
      rw [beqEntries, Bool.and_eq_true, Bool.and_eq_true, ih, beq_iff_eq, EntriesEqual,
        List.forall₂_cons]
      rfl

theorem array_beq_iff {as bs : List Value} : (array as == array bs) = true ↔ ItemsEqual as bs :=
  beqItems_iff

theorem object_beq_iff {es fs : Entries Value} :
    (object es == object fs) = true ↔ EntriesEqual es fs :=
  beqEntries_iff

/-- Equal leaves are in the relation, and two arrays or objects are once what they hold in the same
places is. -/
structure Compatible (R : Value → Value → Prop) : Prop where
  undefined : R undefined undefined
  null : R null null
  bool : ∀ b, R (bool b) (bool b)
  number : ∀ x y, (x == y) = true → R (number x) (number y)
  string : ∀ s, R (string s) (string s)
  array : ∀ as bs, List.Forall₂ R as bs → R (array as) (array bs)
  object : ∀ es fs : Entries Value, List.Forall₂ (fun e f => e.1 = f.1 ∧ R e.2 f.2) es fs →
    R (object es) (object fs)

/-- Such a relation holds of all equal values. -/
theorem Compatible.of_beq {R : Value → Value → Prop} (hR : Compatible R) {v w : Value}
    (h : (v == w) = true) : R v w := by
  -- values of different forms are not equal
  induction v using nestedInduction generalizing w with
  | undefined =>
    cases w with
    | undefined => exact hR.undefined
    | _ => cases h
  | null =>
    cases w with
    | null => exact hR.null
    | _ => cases h
  | bool b =>
    cases w with
    | bool c =>
      obtain rfl : b = c := eq_of_beq h
      exact hR.bool b
    | _ => cases h
  | number x =>
    cases w with
    | number y => exact hR.number x y h
    | _ => cases h
  | string s =>
    cases w with
    | string t =>
      obtain rfl : s = t := eq_of_beq h
      exact hR.string s
    | _ => cases h
  | array as ih =>
    cases w with
    | array bs =>
      have hitems := (List.forall₂_and_left as bs).2 ⟨ih, array_beq_iff.1 h⟩
      exact hR.array as bs (hitems.imp fun _ _ h => h.1 h.2)
    | _ => cases h
  | object es ih =>
    cases w with
    | object fs =>
      have hentries := (List.forall₂_and_left es fs).2 ⟨ih, object_beq_iff.1 h⟩
      exact hR.object es fs (hentries.imp fun _ _ h => ⟨h.2.1, h.1 h.2.2⟩)
    | _ => cases h

/-! ## Symmetry and transitivity -/

theorem compatible_symm : Compatible fun v w => (w == v) = true where
  undefined := rfl
  null := rfl
  bool b := beq_self_eq_true b
  number _ _ h := Binary64.beq_symm h
  string s := beq_self_eq_true s
  array _ _ h := array_beq_iff.2 h.flip
  object _ _ h :=
    have hflipped := h.imp fun _ _ h => And.intro h.1.symm h.2
    object_beq_iff.2 hflipped.flip

theorem beq_symm {v w : Value} (h : (v == w) = true) : (w == v) = true :=
  compatible_symm.of_beq h

/-- Two lists are related when a list between them is related to both. -/
theorem forall₂_comp {α β γ : Type} {R : α → β → Prop} {S : β → γ → Prop} {T : α → γ → Prop}
    (hT : ∀ a b c, R a b → S b c → T a c) {as : List α} {bs : List β} {cs : List γ}
    (hR : List.Forall₂ R as bs) (hS : List.Forall₂ S bs cs) : List.Forall₂ T as cs := by
  induction hR generalizing cs with
  | nil =>
    cases hS
    exact .nil
  | cons hab _ ih =>
    cases hS with
    | cons hbc hrest => exact .cons (hT _ _ _ hab hbc) (ih hrest)

/-- What equals the second of two values equals the first one. It is of the same form as they are,
and so it is taken apart along with them. -/
theorem compatible_trans : Compatible fun v w => ∀ u, (w == u) = true → (v == u) = true where
  undefined _ h := h
  null _ h := h
  bool _ _ h := h
  number x y hxy u h := by
    cases u with
    | number z => exact Binary64.beq_trans hxy h
    | _ => cases h
  string _ _ h := h
  array as bs has u h := by
    cases u with
    | array cs =>
      exact array_beq_iff.2
        (forall₂_comp (fun _ _ c hab hbc => hab c hbc) has (array_beq_iff.1 h))
    | _ => cases h
  object es fs hes u h := by
    cases u with
    | object gs =>
      exact object_beq_iff.2
        (forall₂_comp (fun _ _ g hef hfg => ⟨hef.1.trans hfg.1, hef.2 g.2 hfg.2⟩) hes
          (object_beq_iff.1 h))
    | _ => cases h

theorem beq_trans {u v w : Value} (huv : (u == v) = true) (hvw : (v == w) = true) :
    (u == w) = true :=
  compatible_trans.of_beq huv w hvw

/-! ## Values that are equal to themselves -/

/-- No NaN stands in the value, at any depth. -/
def NaNFree (v : Value) : Prop := ∀ x, PartOf (number x) v → x.isNaN = false

theorem naNFree_number {x : Binary64} : NaNFree (number x) ↔ x.isNaN = false := by
  constructor
  · exact fun h => h x .self
  · intro hx y hy
    cases hy with
    | self => exact hx
    | inside hmem => cases hmem

theorem naNFree_iff_content {v : Value} (h : v.isNumber = false) :
    NaNFree v ↔ ∀ w ∈ v.content, NaNFree w := by
  constructor
  · exact fun hv w hmem x hx => hv x (.inside hmem hx)
  · intro hcontent x hx
    cases hx with
    | self => cases h
    | inside hmem hpart => exact hcontent _ hmem x hpart

/-- A value is equal to itself if and only if no NaN stands in it. -/
theorem beq_self_iff {v : Value} : (v == v) = true ↔ NaNFree v := by
  induction v using nestedInduction with
  | undefined | null => exact iff_of_true rfl ((naNFree_iff_content rfl).2 nofun)
  | bool b => exact iff_of_true (beq_self_eq_true b) ((naNFree_iff_content rfl).2 nofun)
  | string s => exact iff_of_true (beq_self_eq_true s) ((naNFree_iff_content rfl).2 nofun)
  | number x =>
    have hself : (number x == number x) = !x.isNaN := Binary64.beq_self x
    rw [hself, naNFree_number, Bool.not_eq_true']
  | array items ih =>
    rw [array_beq_iff, ItemsEqual, List.forall₂_same, naNFree_iff_content rfl]
    exact forall₂_congr ih
  | object entries ih =>
    rw [object_beq_iff, EntriesEqual, List.forall₂_same, naNFree_iff_content rfl, content,
      List.forall_mem_map]
    exact forall₂_congr fun e he => (and_iff_right rfl).trans (ih e he)

end Value

end RuntimeContracts
