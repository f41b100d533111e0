/-!
# Binary64 numbers

A number is its 64 bits, one sign bit above a magnitude of 63 bits. Magnitudes are in the
order of the absolute values they stand for, so equality and order are those of the signed
magnitude, once what is not a number is set aside.

* `Binary64.beq`, `Binary64.lt`, `Binary64.le`: comparison as IEEE 754 has it. A NaN is
  equal to nothing, and the two zeros are equal.
* `Binary64.units`, `Binary64.signedUnits`: the absolute value of a finite number and the number
  itself, counted in units of `2 ^ -1074`, of which every finite number is a whole multiple.
* `Binary64.beq_symm`, `Binary64.beq_trans`, `Binary64.beq_self`: the laws of equality.
* `Binary64.unitsOf_succ`, `Binary64.unitsOf_lt_unitsOf`: the step from one number to the next, and
  that magnitudes are in the order of the absolute values.
* `Binary64.lt_iff_signedUnits_lt`, `Binary64.beq_iff_signedUnits_eq`: comparison by bits is the
  comparison of values.
-/
namespace RuntimeContracts

-- Powers of naturals are those of core, also where the powers of every monoid are in scope.
attribute [instance (high), default_instance high] instPowNat

/-- A number of the IEEE 754 format binary64, given by its bits. -/
structure Binary64 where
  bits : UInt64
deriving DecidableEq, Inhabited

namespace Binary64

/-- The magnitude of the two infinities. What lies above it is not a number. -/
def infiniteMagnitude : Nat := 0x7FF * 2 ^ 52

/-- The bits below the sign bit. -/
def magnitude (x : Binary64) : Nat := x.bits.toNat % 2 ^ 63

/-- The sign bit is set. This includes the negative zero. -/
def isNegative (x : Binary64) : Bool := decide (2 ^ 63 ≤ x.bits.toNat)

/-- The number with the given sign bit and magnitude. -/
def ofMagnitude (negative : Bool) (magnitude : Nat) : Binary64 :=
  ⟨.ofNat (magnitude % 2 ^ 63 + if negative then 2 ^ 63 else 0)⟩

/-- What is not a number. Its other forms are not told apart from this one. -/
def nan : Binary64 := ofMagnitude false (infiniteMagnitude + 2 ^ 51)

def isNaN (x : Binary64) : Bool := decide (infiniteMagnitude < x.magnitude)

def isInfinite (x : Binary64) : Bool := decide (x.magnitude = infiniteMagnitude)

def isFinite (x : Binary64) : Bool := decide (x.magnitude < infiniteMagnitude)

def isZero (x : Binary64) : Bool := decide (x.magnitude = 0)

/-- The absolute value, sign bit cleared. -/
def abs (x : Binary64) : Binary64 := ofMagnitude false x.magnitude

/-! ## Value of a finite number -/

/-- The binary places, and so the decimal ones, that a unit has behind the point. -/
def unitPlaces : Nat := 1074

/-- How many units make one. -/
def unitsPerOne : Nat := 2 ^ unitPlaces

/-- The power of two by which a significand of this magnitude is scaled. -/
def scaleOf (magnitude : Nat) : Nat := magnitude / 2 ^ 52 - 1

/-- The absolute value that a finite magnitude stands for, in units of `2 ^ -1074`. -/
def unitsOf (magnitude : Nat) : Nat :=
  (magnitude - scaleOf magnitude * 2 ^ 52) * 2 ^ scaleOf magnitude

/-- The absolute value of a finite number, in units of `2 ^ -1074`. -/
def units (x : Binary64) : Nat := unitsOf x.magnitude

/-- A natural with a sign. -/
def withSign (negative : Bool) (n : Nat) : Int := if negative then -(n : Int) else n

/-- A finite number in units of `2 ^ -1074`. An infinity counts as the power of two that comes
after the finite numbers. -/
def signedUnits (x : Binary64) : Int := withSign x.isNegative x.units

/-! ## Comparison -/

/-- The signed magnitude, which orders all that is a number. -/
def rank (x : Binary64) : Int :=
  if x.isNegative then -(x.magnitude : Int) else x.magnitude

/-- Equality of numbers. A NaN is not equal to itself. -/
def beq (x y : Binary64) : Bool :=
  !x.isNaN && !y.isNaN && decide (x.rank = y.rank)

instance : BEq Binary64 := ⟨beq⟩

/-- Strict order of numbers, false wherever a NaN takes part. -/
def lt (x y : Binary64) : Bool :=
  !x.isNaN && !y.isNaN && decide (x.rank < y.rank)

/-- Order of numbers, false wherever a NaN takes part. -/
def le (x y : Binary64) : Bool :=
  !x.isNaN && !y.isNaN && decide (x.rank ≤ y.rank)

theorem beq_def (x y : Binary64) : (x == y) = beq x y := rfl

theorem beq_iff {x y : Binary64} :
    (x == y) = true ↔ x.isNaN = false ∧ y.isNaN = false ∧ x.rank = y.rank := by
  simp [beq_def, beq, and_assoc]

theorem beq_symm {x y : Binary64} (h : (x == y) = true) : (y == x) = true := by
  rw [beq_iff] at h ⊢
  exact ⟨h.2.1, h.1, h.2.2.symm⟩

theorem beq_trans {x y z : Binary64} (hxy : (x == y) = true) (hyz : (y == z) = true) :
    (x == z) = true := by
  rw [beq_iff] at hxy hyz ⊢
  exact ⟨hxy.1, hyz.2.1, hxy.2.2.trans hyz.2.2⟩

theorem beq_self (x : Binary64) : (x == x) = !x.isNaN := by
  simp [beq_def, beq]

theorem ofMagnitude_magnitude (x : Binary64) : ofMagnitude x.isNegative x.magnitude = x := by
  cases x with
  | mk bits =>
    have hb := bits.toNat_lt
    simp only [ofMagnitude, isNegative, magnitude, mk.injEq]
    apply UInt64.toNat.inj
    simp only [UInt64.toNat_ofNat']
    by_cases h : 2 ^ 63 ≤ bits.toNat
    · simp only [h, decide_true, if_true]
      omega
    · simp only [h, decide_false, Bool.false_eq_true, if_false]
      omega

theorem magnitude_ofMagnitude {negative : Bool} {m : Nat} (h : m < 2 ^ 63) :
    (ofMagnitude negative m).magnitude = m := by
  cases negative <;> simp only [ofMagnitude, magnitude, UInt64.toNat_ofNat'] <;> simp <;> omega

theorem isNegative_ofMagnitude {negative : Bool} {m : Nat} :
    (ofMagnitude negative m).isNegative = negative := by
  cases negative <;> simp only [ofMagnitude, isNegative, UInt64.toNat_ofNat'] <;> simp <;> omega

/-! ## Order of the values -/

/-- What is scaled to the units of a magnitude. -/
def significand (magnitude : Nat) : Nat := magnitude - scaleOf magnitude * 2 ^ 52

theorem unitsOf_eq (m : Nat) : unitsOf m = significand m * 2 ^ scaleOf m := rfl

theorem scaleOf_mul_add_significand (m : Nat) : scaleOf m * 2 ^ 52 + significand m = m := by
  unfold significand scaleOf
  omega

theorem significand_lt (m : Nat) : significand m < 2 ^ 53 := by
  unfold significand scaleOf
  omega

/-- Only the smallest scale has significands that do not fill their 53 bits. -/
theorem scaleOf_eq_zero_or_le (m : Nat) : scaleOf m = 0 ∨ 2 ^ 52 ≤ significand m := by
  unfold significand scaleOf
  omega

/-- Where a scale ends, its last number is the first one of the next scale. -/
theorem unitsOf_of_scale {s n : Nat} (lo : s = 0 ∨ 2 ^ 52 ≤ n) (hi : n ≤ 2 ^ 53) :
    unitsOf (s * 2 ^ 52 + n) = n * 2 ^ s := by
  rcases Nat.lt_or_eq_of_le hi with hlt | rfl
  · have hs : scaleOf (s * 2 ^ 52 + n) = s := by
      unfold scaleOf
      omega
    rw [unitsOf, hs, Nat.add_sub_cancel_left]
  · have hs : scaleOf (s * 2 ^ 52 + 2 ^ 53) = s + 1 := by
      unfold scaleOf
      omega
    have hn : s * 2 ^ 52 + 2 ^ 53 - (s + 1) * 2 ^ 52 = 2 ^ 52 := by omega
    rw [unitsOf, hs, hn, Nat.pow_succ]
    omega

/-- The step from a number to the next one is the power of two of its scale. -/
theorem unitsOf_succ (m : Nat) : unitsOf (m + 1) = unitsOf m + 2 ^ scaleOf m := by
  have hlo : scaleOf m = 0 ∨ 2 ^ 52 ≤ significand m + 1 :=
    (scaleOf_eq_zero_or_le m).imp id Nat.le_succ_of_le
  have hnext := unitsOf_of_scale hlo (significand_lt m)
  rw [← Nat.add_assoc, scaleOf_mul_add_significand] at hnext
  rw [hnext, unitsOf_eq, Nat.succ_mul]

theorem unitsOf_lt_unitsOf {m n : Nat} (h : m < n) : unitsOf m < unitsOf n := by
  induction n with
  | zero => cases h
  | succ n ih =>
    have hstep : unitsOf n < unitsOf (n + 1) := by
      rw [unitsOf_succ]
      exact Nat.lt_add_of_pos_right (Nat.two_pow_pos _)
    rcases Nat.lt_succ_iff_lt_or_eq.1 h with hlt | rfl
    · exact Nat.lt_trans (ih hlt) hstep
    · exact hstep

theorem unitsOf_le_unitsOf {m n : Nat} (h : m ≤ n) : unitsOf m ≤ unitsOf n := by
  rcases Nat.lt_or_eq_of_le h with hlt | rfl
  · exact Nat.le_of_lt (unitsOf_lt_unitsOf hlt)
  · exact Nat.le_refl _

theorem unitsOf_lt_unitsOf_iff {m n : Nat} : unitsOf m < unitsOf n ↔ m < n :=
  ⟨fun h => Nat.not_le.1 fun hle => Nat.not_le.2 h (unitsOf_le_unitsOf hle), unitsOf_lt_unitsOf⟩

theorem unitsOf_inj {m n : Nat} : unitsOf m = unitsOf n ↔ m = n := by
  have hlt := unitsOf_lt_unitsOf_iff (m := m) (n := n)
  have hgt := unitsOf_lt_unitsOf_iff (m := n) (n := m)
  omega

theorem unitsOf_zero : unitsOf 0 = 0 := rfl

theorem unitsOf_ne_zero {m : Nat} (h : m ≠ 0) : unitsOf m ≠ 0 :=
  fun hzero => h (unitsOf_inj.1 hzero)

theorem withSign_zero (negative : Bool) : withSign negative 0 = 0 := by
  cases negative <;> rfl

/-- Both zeros have the rank zero, and no other number has. -/
theorem rank_lt_rank_iff {x y : Binary64} : x.rank < y.rank ↔ x.signedUnits < y.signedUnits := by
  have hlt := unitsOf_lt_unitsOf_iff (m := x.magnitude) (n := y.magnitude)
  have hgt := unitsOf_lt_unitsOf_iff (m := y.magnitude) (n := x.magnitude)
  have hx := unitsOf_inj (m := x.magnitude) (n := 0)
  have hy := unitsOf_inj (m := y.magnitude) (n := 0)
  rw [unitsOf_zero] at hx hy
  unfold rank signedUnits withSign units
  cases x.isNegative <;> cases y.isNegative <;>
    simp only [Bool.false_eq_true, if_true, if_false] <;> omega

theorem lt_iff_signedUnits_lt {x y : Binary64} :
    lt x y = true ↔ x.isNaN = false ∧ y.isNaN = false ∧ x.signedUnits < y.signedUnits := by
  rw [← rank_lt_rank_iff]
  simp [lt, and_assoc]

theorem beq_iff_signedUnits_eq {x y : Binary64} :
    (x == y) = true ↔ x.isNaN = false ∧ y.isNaN = false ∧ x.signedUnits = y.signedUnits := by
  have hlt := rank_lt_rank_iff (x := x) (y := y)
  have hgt := rank_lt_rank_iff (x := y) (y := x)
  have hrank : x.rank = y.rank ↔ x.signedUnits = y.signedUnits := by omega
  rw [beq_iff, hrank]

end Binary64

end RuntimeContracts
