import RuntimeContracts.Number.Decimal

/-!
# Seventeen digits are enough

The search for the shortest decimal of a number tries one digit, then two, up to seventeen. The
decimal of seventeen digits next to a number misses it by half a unit of the last place, of which
the number has `10 ^ 16` at least. Two numbers are further apart than that, since a significand
has 53 bits and `2 ^ 53 < 10 ^ 16`, so the search succeeds.

* `Binary64.unitsOf_le_gap`, `Binary64.nearestMagnitude_of_close`: how far apart two numbers are,
  and that what is close to a number is rounded to it.
* `Decimal.magnitude_mul_pow`, `Decimal.magnitude_trim`: zeros that end a coefficient do not
  matter.
* `Decimal.places_bounds`: a number counted in units of its `k`-th digit has `k` digits.
* `Decimal.length_digits_shortest`: the shortest decimal has at most seventeen digits.
-/

namespace RuntimeContracts

/-! ## Rounding what is close to a number -/

theorem gap_mul (a b k : Nat) : gap (a * k) (b * k) = gap a b * k := by
  unfold gap
  rw [Int.natCast_mul, Int.natCast_mul, ← Int.sub_mul, Int.natAbs_mul, Int.natAbs_natCast]

/-- What is closer to a number than half the way to another one is further away from that one. -/
theorem gap_lt_gap_of_close {a b c : Nat} (hspace : a ≤ 2 ^ 53 * gap a b)
    (lo : (2 ^ 54 - 1) * a < 2 ^ 54 * c) (hi : 2 ^ 54 * c < (2 ^ 54 + 1) * a) :
    gap c a < gap c b := by
  unfold gap at *
  omega

namespace Binary64

/-- A number has at most `2 ^ 53` of the steps that lead to it from the number before. -/
theorem unitsOf_succ_le (m : Nat) : unitsOf (m + 1) ≤ 2 ^ 53 * 2 ^ scaleOf m := by
  rw [unitsOf_succ, unitsOf_eq, ← Nat.succ_mul]
  exact Nat.mul_le_mul_right _ (significand_lt m)

/-- **A number differs from all others by one part in `2 ^ 53` at least.** Below a power of two the
numbers lie twice as close, and the next one is still far enough. -/
theorem unitsOf_le_gap {m n : Nat} (h : m ≠ n) :
    unitsOf m ≤ 2 ^ 53 * gap (unitsOf m) (unitsOf n) := by
  rcases Nat.lt_or_gt_of_ne h with hlt | hgt
  · have hstep : 2 ^ scaleOf m ≤ gap (unitsOf m) (unitsOf n) := by
      have hnext := unitsOf_succ m
      have hle : unitsOf (m + 1) ≤ unitsOf n := unitsOf_le_unitsOf hlt
      unfold gap
      omega
    calc unitsOf m ≤ unitsOf (m + 1) := unitsOf_le_unitsOf (Nat.le_succ m)
      _ ≤ 2 ^ 53 * 2 ^ scaleOf m := unitsOf_succ_le m
      _ ≤ 2 ^ 53 * gap (unitsOf m) (unitsOf n) := Nat.mul_le_mul_left _ hstep
  · obtain ⟨k, rfl⟩ := Nat.exists_eq_add_one_of_ne_zero (Nat.ne_of_gt (Nat.zero_lt_of_lt hgt))
    have hstep : 2 ^ scaleOf k ≤ gap (unitsOf (k + 1)) (unitsOf n) := by
      have hnext := unitsOf_succ k
      have hle : unitsOf n ≤ unitsOf k := unitsOf_le_unitsOf (Nat.le_of_lt_succ hgt)
      unfold gap
      omega
    calc unitsOf (k + 1) ≤ 2 ^ 53 * 2 ^ scaleOf k := unitsOf_succ_le k
      _ ≤ 2 ^ 53 * gap (unitsOf (k + 1)) (unitsOf n) := Nat.mul_le_mul_left _ hstep

/-- A quotient is rounded to a number that it differs from by less than one part in `2 ^ 54`. -/
theorem nearestMagnitude_of_close {m num den : Nat} (hm : m < infiniteMagnitude) (hden : 0 < den)
    (lo : (2 ^ 54 - 1) * (unitsOf m * den) < 2 ^ 54 * num)
    (hi : 2 ^ 54 * num < (2 ^ 54 + 1) * (unitsOf m * den)) : nearestMagnitude num den = m := by
  rw [nearestMagnitude_eq_iff hden]
  refine ⟨Nat.le_of_lt hm, fun m' _ hne => .inl (gap_lt_gap_of_close ?_ lo hi)⟩
  rw [gap_mul, ← Nat.mul_assoc]
  exact Nat.mul_le_mul_right den (unitsOf_le_gap (Ne.symm hne))

theorem nearestMagnitude_congr {a b c d : Nat} (hb : 0 < b) (hd : 0 < d) (h : a * d = c * b) :
    nearestMagnitude a b = nearestMagnitude c d := by
  rw [← nearestMagnitude_mul_mul_right a b hd, ← nearestMagnitude_mul_mul_right c d hb, h,
    Nat.mul_comm b d]

/-- A finite number is below `2 ^ 1024`. -/
theorem unitsOf_lt {m : Nat} (h : m < infiniteMagnitude) : unitsOf m < 2 ^ 1024 * unitsPerOne := by
  have hscale : 53 + scaleOf m ≤ 1024 + unitPlaces := by
    unfold scaleOf unitPlaces
    unfold infiniteMagnitude at h
    omega
  have hsum (a b : Nat) : 2 ^ (a + b) = 2 ^ a * 2 ^ b := Nat.pow_add 2 a b
  have hone : unitsPerOne = 2 ^ unitPlaces := rfl
  rw [hone, ← hsum 1024 unitPlaces]
  calc unitsOf m < 2 ^ 53 * 2 ^ scaleOf m :=
        Nat.mul_lt_mul_of_pos_right (significand_lt m) (Nat.two_pow_pos _)
    _ = 2 ^ (53 + scaleOf m) := (hsum 53 _).symm
    _ ≤ 2 ^ (1024 + unitPlaces) := Nat.pow_le_pow_right (by decide) hscale

end Binary64

namespace Decimal

open Binary64

/-! ## Powers of ten -/

theorem magnitude_of_le {c : Nat} {e : Int} (hc : c ≠ 0) (lo : -400 ≤ e) (hi : e ≤ 400) :
    magnitude ⟨c, e⟩ =
      nearestMagnitude (c * 10 ^ e.toNat * unitsPerOne) (10 ^ (-e).toNat) := by
  simp only [magnitude, if_neg hc, if_neg (by omega : ¬ 400 < e),
    if_neg (by omega : ¬ e + (c.log2 : Int) < -400)]

theorem magnitude_zero (e : Int) : magnitude ⟨0, e⟩ = 0 := if_pos rfl

/-- Zeros at the end of the coefficient may be moved to the exponent. -/
theorem magnitude_mul_pow {c k : Nat} {e : Int} (lo : -400 ≤ e) (hi : e + k ≤ 400) :
    magnitude ⟨c * 10 ^ k, e⟩ = magnitude ⟨c, e + k⟩ := by
  have hten (n : Nat) : 0 < 10 ^ n := Nat.pow_pos (by decide)
  by_cases hc : c = 0
  · rw [hc, Nat.zero_mul, magnitude_zero, magnitude_zero]
  · rw [magnitude_of_le (Nat.mul_ne_zero hc (Nat.ne_of_gt (hten k))) lo (by omega),
      magnitude_of_le hc (by omega) hi]
    refine nearestMagnitude_congr (hten _) (hten _) ?_
    have hexp : 10 ^ k * 10 ^ e.toNat * 10 ^ (-(e + k)).toNat =
        10 ^ (e + k).toNat * 10 ^ (-e).toNat := by
      simp only [← Nat.pow_add]
      congr 1
      omega
    generalize unitsPerOne = one
    calc c * 10 ^ k * 10 ^ e.toNat * one * 10 ^ (-(e + k)).toNat
        = c * one * (10 ^ k * 10 ^ e.toNat * 10 ^ (-(e + k)).toNat) := by ac_rfl
      _ = c * one * (10 ^ (e + k).toNat * 10 ^ (-e).toNat) := by rw [hexp]
      _ = c * 10 ^ (e + k).toNat * one * 10 ^ (-e).toNat := by ac_rfl

/-- Trimming divides the coefficient by a power of ten. -/
theorem exists_trim (d : Decimal) : ∃ k : Nat,
    d.coefficient = (trim d).coefficient * 10 ^ k ∧ (trim d).exponent = d.exponent + k := by
  fun_induction trim d with
  | case1 d h ih =>
    obtain ⟨k, hc, he⟩ := ih
    refine ⟨k + 1, ?_, by simp only [he]; omega⟩
    simp only at hc
    rw [Nat.pow_succ, ← Nat.mul_assoc, ← hc]
    omega
  | case2 d h => exact ⟨0, by simp, by simp⟩

theorem trim_mod_ten {d : Decimal} (h : d.coefficient ≠ 0) : (trim d).coefficient % 10 ≠ 0 := by
  fun_induction trim d with
  | case1 d hd ih => exact ih (by simp only; omega)
  | case2 d hd => exact fun hmod => hd ⟨h, hmod⟩

theorem coefficient_trim_le (d : Decimal) : (trim d).coefficient ≤ d.coefficient := by
  obtain ⟨k, hc, -⟩ := exists_trim d
  rw [hc]
  exact Nat.le_mul_of_pos_right _ (Nat.pow_pos (by decide))

theorem magnitude_trim {d : Decimal} {n : Nat} (h₀ : d.coefficient ≠ 0)
    (hn : d.coefficient ≤ 10 ^ n) (lo : -400 ≤ d.exponent) (hi : d.exponent + n ≤ 400) :
    (trim d).magnitude = d.magnitude := by
  obtain ⟨k, hc, he⟩ := exists_trim d
  have hk : k ≤ n := by
    refine (Nat.pow_le_pow_iff_right (by decide : 1 < 10)).1 ?_
    calc 10 ^ k ≤ (trim d).coefficient * 10 ^ k := by
          refine Nat.le_mul_of_pos_left _ (Nat.pos_of_ne_zero fun hz => h₀ ?_)
          rw [hc, hz, Nat.zero_mul]
      _ ≤ 10 ^ n := hc ▸ hn
  have hscale := magnitude_mul_pow (c := (trim d).coefficient) (k := k) lo (by omega)
  rw [← hc, ← he] at hscale
  exact hscale.symm

/-! ## The decimal point of a number -/

/-- The first of the digits of a positive number is not zero. -/
theorem pow_length_toDigits_le {n : Nat} (h : 0 < n) :
    10 ^ ((Nat.toDigits 10 n).length - 1) ≤ n := by
  rcases Nat.eq_zero_or_pos ((Nat.toDigits 10 n).length - 1) with hone | hmore
  · rw [hone]
    exact h
  · have := Nat.length_toDigits_le_iff (b := 10) (n := n) (by decide) hmore
    omega

/-- The decimal point of a positive number counts the digits of the number, shifted to the left
until a unit is above one. -/
theorem exists_pointOfUnits {u : Nat} (hu : u ≠ 0) : ∃ L : Nat, 0 < L ∧
    pointOfUnits u = L - 330 ∧ 10 ^ (L - 1) * unitsPerOne ≤ u * 10 ^ 330 ∧
      u * 10 ^ 330 < 10 ^ L * unitsPerOne := by
  have hone : 0 < unitsPerOne := Nat.two_pow_pos _
  have hpos := Nat.length_toDigits_pos (b := 10) (n := u * 10 ^ 330 / unitsPerOne)
  have hcut : 0 < u * 10 ^ 330 / unitsPerOne := by
    rw [Nat.div_pos_iff]
    refine ⟨hone, ?_⟩
    exact Nat.le_trans (by decide +kernel : unitsPerOne ≤ 10 ^ 330)
      (Nat.le_mul_of_pos_left _ (Nat.pos_of_ne_zero hu))
  refine ⟨_, hpos, pointOfUnits.eq_1 u, ?_, ?_⟩
  · exact (Nat.le_div_iff_mul_le hone).1 (pow_length_toDigits_le hcut)
  · exact (Nat.div_lt_iff_lt_mul hone).1
      ((Nat.length_toDigits_le_iff (by decide) hpos).1 (Nat.le_refl _))

/-- A number of units, counted in places of `10 ^ e`, is the quotient of this numerator by
`placesDen e`. -/
def placesNum (units : Nat) (e : Int) : Nat := units * 10 ^ (-e).toNat

/-- How many units a place of `10 ^ e` counts, both scaled alike. -/
def placesDen (e : Int) : Nat := unitsPerOne * 10 ^ e.toNat

theorem placesDen_pos (e : Int) : 0 < placesDen e :=
  Nat.mul_pos (Nat.two_pow_pos _) (Nat.pow_pos (by decide))

/-- A positive number counted in places of its `k`-th digit has `k` digits. -/
theorem places_bounds {u k : Nat} {e : Int} (hu : u ≠ 0) (hk : 0 < k)
    (he : e = pointOfUnits u - k) :
    10 ^ (k - 1) * placesDen e ≤ placesNum u e ∧ placesNum u e < 10 ^ k * placesDen e := by
  have hten (n : Nat) : 0 < 10 ^ n := Nat.pow_pos (by decide)
  obtain ⟨L, hL, hpoint, hle, hlt⟩ := exists_pointOfUnits hu
  -- only one of `e` and `-e` is a positive power, and the other factor is one
  have hup : 10 ^ L * 10 ^ (-e).toNat = 10 ^ k * 10 ^ e.toNat * 10 ^ 330 := by
    simp only [← Nat.pow_add]
    congr 1
    omega
  have hdown : 10 ^ (L - 1) * 10 ^ (-e).toNat = 10 ^ (k - 1) * 10 ^ e.toNat * 10 ^ 330 := by
    simp only [← Nat.pow_add]
    congr 1
    omega
  have hshift := hten 330
  unfold placesDen placesNum
  generalize 10 ^ 330 = shift at *
  generalize unitsPerOne = one at *
  constructor
  · refine Nat.le_of_mul_le_mul_right ?_ hshift
    calc 10 ^ (k - 1) * (one * 10 ^ e.toNat) * shift
        = one * (10 ^ (k - 1) * 10 ^ e.toNat * shift) := by ac_rfl
      _ = 10 ^ (L - 1) * one * 10 ^ (-e).toNat := by rw [← hdown]; ac_rfl
      _ ≤ u * shift * 10 ^ (-e).toNat := Nat.mul_le_mul_right _ hle
      _ = u * 10 ^ (-e).toNat * shift := by ac_rfl
  · refine Nat.lt_of_mul_lt_mul_right (a := shift) ?_
    calc u * 10 ^ (-e).toNat * shift
        = u * shift * 10 ^ (-e).toNat := by ac_rfl
      _ < 10 ^ L * one * 10 ^ (-e).toNat := Nat.mul_lt_mul_of_pos_right hlt (hten _)
      _ = one * (10 ^ k * 10 ^ e.toNat * shift) := by rw [← hup]; ac_rfl
      _ = 10 ^ k * (one * 10 ^ e.toNat) * shift := by ac_rfl

theorem pointOfUnits_bounds {u : Nat} (hu : u ≠ 0) (h : u < 2 ^ 1024 * unitsPerOne) :
    -330 < pointOfUnits u ∧ pointOfUnits u ≤ 309 := by
  obtain ⟨L, hL, hpoint, hle, -⟩ := exists_pointOfUnits hu
  have hdigits : L - 1 < 309 + 330 := by
    refine (Nat.pow_lt_pow_iff_right (by decide : 1 < 10)).1 ?_
    refine Nat.lt_of_mul_lt_mul_right (a := unitsPerOne) (Nat.lt_of_le_of_lt hle ?_)
    have hpos (n : Nat) : 0 < 10 ^ n := Nat.pow_pos (by decide)
    have hshift := hpos 330
    have hten : 2 ^ 1024 ≤ 10 ^ 309 := by decide +kernel
    have hsum (a b : Nat) : 10 ^ (a + b) = 10 ^ a * 10 ^ b := Nat.pow_add 10 a b
    rw [hsum 309 330]
    generalize 10 ^ 330 = shift at *
    generalize 10 ^ 309 = ten at *
    generalize 2 ^ 1024 = two at *
    calc u * shift < two * unitsPerOne * shift := Nat.mul_lt_mul_of_pos_right h hshift
      _ ≤ ten * unitsPerOne * shift := Nat.mul_le_mul_right _ (Nat.mul_le_mul_right _ hten)
      _ = ten * shift * unitsPerOne := Nat.mul_right_comm ..
  omega

/-! ## Seventeen digits are enough -/

/-- A decimal is read as the number that it misses by at most half a place, when the number is
above `2 ^ 53` places. -/
theorem magnitude_of_close {m c : Nat} {e : Int} (hm : m < infiniteMagnitude) (hc : c ≠ 0)
    (lo : -400 ≤ e) (hi : e ≤ 400) (hlarge : 2 ^ 53 * placesDen e < placesNum (unitsOf m) e)
    (hlo : 2 * placesNum (unitsOf m) e ≤ 2 * (c * placesDen e) + placesDen e)
    (hhi : 2 * (c * placesDen e) ≤ 2 * placesNum (unitsOf m) e + placesDen e) :
    magnitude ⟨c, e⟩ = m := by
  rw [magnitude_of_le hc lo hi, Nat.mul_assoc, Nat.mul_comm (10 ^ e.toNat)]
  refine nearestMagnitude_of_close hm (Nat.pow_pos (by decide)) ?_ ?_ <;>
    rw [← placesDen, ← placesNum] <;> omega

theorem mem_in_either_order {p : Prop} [Decidable p] {a b d : β} :
    (d ∈ if p then [b, a] else [a, b]) ↔ d = a ∨ d = b := by
  split <;> simp [Or.comm]

/-- The coefficient of the decimal of a given exponent that is next below a number. -/
def floorAt (magnitude : Nat) (exponent : Int) : Nat :=
  placesNum (unitsOf magnitude) exponent / placesDen exponent

/-- What is found is the decimal next below or above. -/
theorem eq_of_nearestAt {tie : Tie} {m : Nat} {e : Int} {d : Decimal}
    (h : nearestAt tie m e = some d) :
    d = trim ⟨floorAt m e, e⟩ ∨ d = trim ⟨floorAt m e + 1, e⟩ :=
  mem_in_either_order.1 (List.mem_of_find?_eq_some h)

/-- One of them is found if one of them reads back. -/
theorem isSome_nearestAt {tie : Tie} {m : Nat} {e : Int}
    (h : (trim ⟨floorAt m e, e⟩).magnitude = m ∨ (trim ⟨floorAt m e + 1, e⟩).magnitude = m) :
    (nearestAt tie m e).isSome := by
  refine List.find?_isSome.2 ?_
  rcases h with h | h
  · exact ⟨_, mem_in_either_order.2 (.inl rfl), decide_eq_true h⟩
  · exact ⟨_, mem_in_either_order.2 (.inr rfl), decide_eq_true h⟩

/-- Where seventeen digits are written, the nearest decimal reads back. -/
theorem isSome_nearestAt_seventeen {tie : Tie} {m : Nat} {e : Int} (h₀ : m ≠ 0)
    (hm : m < infiniteMagnitude) (he : e = pointOfUnits (unitsOf m) - (17 : Nat)) :
    (nearestAt tie m e).isSome := by
  have hu := unitsOf_ne_zero h₀
  have hpoint := pointOfUnits_bounds hu (unitsOf_lt hm)
  obtain ⟨lo, hi⟩ := places_bounds hu (by decide) he
  have hden := placesDen_pos e
  have hdiv := Nat.div_add_mod' (placesNum (unitsOf m) e) (placesDen e)
  have hrem := Nat.mod_lt (placesNum (unitsOf m) e) hden
  have hpos : 10 ^ 16 ≤ floorAt m e := (Nat.le_div_iff_mul_le hden).2 lo
  have hfloor : floorAt m e < 10 ^ 17 := (Nat.div_lt_iff_lt_mul hden).2 hi
  rw [← floorAt] at hdiv
  have htrim {c : Nat} (hc : c = floorAt m e ∨ c = floorAt m e + 1) :
      (trim ⟨c, e⟩).magnitude = magnitude ⟨c, e⟩ :=
    magnitude_trim (n := 17) (by simp only; omega) (by simp only; omega) (by simp only; omega)
      (by simp only; omega)
  refine isSome_nearestAt ?_
  -- the nearer of the two misses the number by half a place at most
  by_cases hnear : 2 * (placesNum (unitsOf m) e % placesDen e) ≤ placesDen e
  · left
    rw [htrim (.inl rfl)]
    exact magnitude_of_close hm (by omega) (by omega) (by omega) (by omega) (by omega) (by omega)
  · right
    rw [htrim (.inr rfl)]
    refine magnitude_of_close hm (by omega) (by omega) (by omega) (by omega) ?_ ?_ <;>
      rw [Nat.add_mul] <;> omega

/-- A decimal of a given number of places has at most so many digits. A carry beyond them leaves
zeros, which are trimmed. -/
theorem length_digits_of_nearestAt {tie : Tie} {m k : Nat} {e : Int} {d : Decimal} (h₀ : m ≠ 0)
    (hk : 0 < k) (he : e = pointOfUnits (unitsOf m) - k) (h : nearestAt tie m e = some d) :
    d.coefficient ≠ 0 ∧ d.digits.length ≤ k := by
  obtain ⟨lo, hi⟩ := places_bounds (unitsOf_ne_zero h₀) hk he
  have hden := placesDen_pos e
  have hpos : 0 < floorAt m e :=
    Nat.lt_of_lt_of_le (Nat.pow_pos (by decide)) ((Nat.le_div_iff_mul_le hden).2 lo)
  have hfloor : floorAt m e < 10 ^ k := (Nat.div_lt_iff_lt_mul hden).2 hi
  obtain ⟨c, hc, hle, rfl⟩ : ∃ c, c ≠ 0 ∧ c ≤ 10 ^ k ∧ d = trim ⟨c, e⟩ := by
    rcases eq_of_nearestAt h with rfl | rfl
    · exact ⟨_, by omega, by omega, rfl⟩
    · exact ⟨_, by omega, by omega, rfl⟩
  have hmod := trim_mod_ten (d := ⟨c, e⟩) hc
  have htrim := coefficient_trim_le ⟨c, e⟩
  refine ⟨fun hz => hmod (by rw [hz]), ?_⟩
  rw [digits, Nat.length_toDigits_le_iff (by decide) hk]
  refine Nat.lt_of_le_of_ne (Nat.le_trans htrim hle) fun heq => hmod ?_
  obtain ⟨j, rfl⟩ := Nat.exists_eq_add_one_of_ne_zero (Nat.ne_of_gt hk)
  rw [heq, Nat.pow_succ, Nat.mul_mod_left]

/-- **Seventeen digits are enough for every finite number**: the search for the shortest decimal
succeeds, and its exact value is never written out. -/
theorem length_digits_shortest (tie : Tie) {m : Nat} (h₀ : m ≠ 0) (hm : m < infiniteMagnitude) :
    (shortest tie m).coefficient ≠ 0 ∧ (shortest tie m).digits.length ≤ 17 := by
  have hsearch : ((List.range' 1 17).findSome? fun (count : Nat) =>
      nearestAt tie m (pointOfUnits (unitsOf m) - count)).isSome := by
    rw [List.findSome?_isSome_iff]
    exact ⟨17, by simp, isSome_nearestAt_seventeen h₀ hm rfl⟩
  obtain ⟨d, hd⟩ := Option.isSome_iff_exists.1 hsearch
  obtain ⟨count, hcount, hfound⟩ := List.exists_of_findSome?_eq_some hd
  have hrange := List.mem_range'_1.1 hcount
  have hlength := length_digits_of_nearestAt h₀ hrange.1 rfl hfound
  have hshortest : shortest tie m = d := by
    simp only [shortest, if_neg h₀, hd, Option.getD_some]
  rw [hshortest]
  exact ⟨hlength.1, by omega⟩

end Decimal

end RuntimeContracts
