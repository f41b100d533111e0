import RuntimeContracts.Number.Rounding

/-!
# Decimals

A decimal is a coefficient scaled by a power of ten. It is read as the nearest number, and
among the decimals that are read as a given number, the shortest one is found.

* `Decimal.magnitude`: the magnitude of the number nearest to a decimal.
* `Decimal.shortest`: the fewest digits that read back, and of the decimals of that many
  digits the nearest one. An exact tie is decided by the caller's `Tie`.
* `Decimal.magnitude_shortest`: the shortest decimal is read as the number it was made for.
-/
namespace RuntimeContracts

/-- The nonnegative number `coefficient * 10 ^ exponent`. -/
structure Decimal where
  coefficient : Nat
  exponent : Int
deriving DecidableEq, Inhabited

/-- Which of two equally near decimals is taken. -/
inductive Tie where
  | up
  | even
deriving DecidableEq, Inhabited

namespace Decimal

open Binary64 (infiniteMagnitude unitsOf nearestMagnitude unitPlaces unitsPerOne)

/-- The magnitude of the number nearest to a decimal. Beyond the first two bounds the answer
is an infinity or zero whatever the digits are, and the power of ten is not computed. -/
def magnitude (d : Decimal) : Nat :=
  if d.coefficient = 0 then 0
  else if 400 < d.exponent then infiniteMagnitude
  else if d.exponent + d.coefficient.log2 < -400 then 0
  else
    nearestMagnitude (d.coefficient * 10 ^ d.exponent.toNat * unitsPerOne)
      (10 ^ (-d.exponent).toNat)

/-- The same number without the zeros that end the coefficient. -/
def trim (d : Decimal) : Decimal :=
  if h : d.coefficient ≠ 0 ∧ d.coefficient % 10 = 0 then
    trim ⟨d.coefficient / 10, d.exponent + 1⟩
  else d
termination_by d.coefficient
decreasing_by omega

/-- The digits of the coefficient, most significant first. -/
def digits (d : Decimal) : List Char := Nat.toDigits 10 d.coefficient

/-- The place of the decimal point, counted from the left of the digits: `0.digits` times ten
to this power is the number. -/
def point (d : Decimal) : Int := d.digits.length + d.exponent

/-! ## Shortest decimal -/

/-- The decimal point of the exact value of a positive number of `units`. The smallest number
is above `10 ^ -330`, so the cut-off fraction holds no leading digit. -/
def pointOfUnits (units : Nat) : Int :=
  (Nat.toDigits 10 (units * 10 ^ 330 / unitsPerOne)).length - 330

/-- The decimal of the given exponent that is nearest to the number among its two neighbours
that read back, if one of them does. -/
def nearestAt (tie : Tie) (magnitude : Nat) (exponent : Int) : Option Decimal :=
  let num := unitsOf magnitude * 10 ^ (-exponent).toNat
  let den := unitsPerOne * 10 ^ exponent.toNat
  let floor := num / den
  let twice := 2 * (num % den)
  let low := trim ⟨floor, exponent⟩
  let high := trim ⟨floor + 1, exponent⟩
  let upward :=
    if twice = den then
      match tie with
      | .up => true
      | .even => decide (floor % 2 = 1)
    else decide (den < twice)
  let candidates := if upward then [high, low] else [low, high]
  candidates.find? (fun d => decide (d.magnitude = magnitude))

/-- All digits of a finite number. -/
def exact (magnitude : Nat) : Decimal :=
  ⟨unitsOf magnitude * 5 ^ unitPlaces, -unitPlaces⟩

/-- The shortest decimal that is read as the finite number of this magnitude. Seventeen digits
are enough for every number, so the exact value at the end is never reached. -/
def shortest (tie : Tie) (magnitude : Nat) : Decimal :=
  if magnitude = 0 then ⟨0, 0⟩
  else
    let point := pointOfUnits (unitsOf magnitude)
    ((List.range' 1 17).findSome? fun (count : Nat) => nearestAt tie magnitude (point - count)).getD
      (exact magnitude)

/-! ## Reading back -/

/-- A decimal with places behind the point is read as the quotient it stands for. -/
theorem magnitude_neg {c k : Nat} (hc : c ≠ 0) (hk : k ≤ 400 + c.log2) :
    magnitude ⟨c, -k⟩ = nearestMagnitude (c * unitsPerOne) (10 ^ k) := by
  have h₁ : ¬ (400 : Int) < -(k : Int) := by omega
  have h₂ : ¬ -(k : Int) + c.log2 < -400 := by omega
  have h₃ : (-(k : Int)).toNat = 0 := by omega
  have h₄ : (-(-(k : Int))).toNat = k := by omega
  simp only [magnitude, if_neg hc, if_neg h₁, if_neg h₂, h₃, h₄, Nat.pow_zero, Nat.mul_one]

/-- Units are written out in full with as many places as a unit has. -/
theorem magnitude_places {u k : Nat} (hu : u ≠ 0) (hk : 5 ^ k * unitsPerOne = 10 ^ k) :
    magnitude ⟨u * 5 ^ k, -k⟩ = nearestMagnitude u 1 := by
  have hc : u * 5 ^ k ≠ 0 := Nat.mul_ne_zero hu (Nat.ne_of_gt (Nat.pow_pos (by decide)))
  have hlog : k ≤ (u * 5 ^ k).log2 := by
    rw [Nat.le_log2 hc]
    exact Nat.le_trans (Nat.pow_le_pow_left (by decide) k)
      (Nat.le_mul_of_pos_left _ (Nat.pos_of_ne_zero hu))
  have hscale := Binary64.nearestMagnitude_mul_mul_right u 1 (Nat.pow_pos (by decide) : 0 < 10 ^ k)
  rw [magnitude_neg hc (by omega), Nat.mul_assoc, hk, ← hscale, Nat.one_mul]

theorem magnitude_exact {m : Nat} (h₀ : m ≠ 0) (h : m < infiniteMagnitude) :
    (exact m).magnitude = m :=
  (magnitude_places (Binary64.unitsOf_ne_zero h₀) (by decide +kernel)).trans
    (Binary64.nearestMagnitude_unitsOf (Nat.le_of_lt h))

theorem magnitude_of_nearestAt {tie : Tie} {m : Nat} {e : Int} {d : Decimal}
    (h : nearestAt tie m e = some d) : d.magnitude = m := by
  have := List.find?_some h
  simpa using this

theorem magnitude_shortest (tie : Tie) {m : Nat} (h : m < infiniteMagnitude) :
    (shortest tie m).magnitude = m := by
  unfold shortest
  split
  · next h₀ => simp [magnitude, h₀]
  · next h₀ =>
    cases hf : (List.range' 1 17).findSome? fun (count : Nat) =>
        nearestAt tie m (pointOfUnits (unitsOf m) - count) with
    | none => simpa [hf] using magnitude_exact h₀ h
    | some d =>
      obtain ⟨count, _, hd⟩ := List.exists_of_findSome?_eq_some hf
      simpa [hf] using magnitude_of_nearestAt hd

end Decimal

end RuntimeContracts
