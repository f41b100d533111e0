import RuntimeContracts.Number.Binary64

/-!
# Rounding to the nearest number

An exact quotient is rounded to the nearest binary64 magnitude, a tie to the even one. The
quotient counts units of `2 ^ -1074`, so no exponent is ever negative and the subnormal
numbers need no case of their own.

* `nearestMagnitude`: the rounding of a quotient of naturals, which the integers and
  binary32 numbers below share with the decimals.
* `nearestMagnitude_mul_mul_right`: the rounding depends on the quotient only.
* `IsNearest`, `nearestMagnitude_eq_iff`: the magnitude that a quotient is rounded to is nearer than
  every other one, or as near as another one and even, and no other magnitude is.
* `nearestMagnitude_unitsOf`: a finite number is its own nearest number.
* `ofInt_nearest`, `isFinite_ofInt`: an integer becomes the number nearest to it, which is finite
  for every integer of 128 bits.
* `signedUnits_ofInt`, `units_ofSingle`: integers of 53 bits and binary32 numbers become themselves.
-/
namespace RuntimeContracts

/-- The quotient rounded to the nearest natural, a half to the even neighbour. -/
def roundDiv (num den : Nat) : Nat :=
  let floor := num / den
  let twice := 2 * (num % den)
  if twice < den then floor
  else if den < twice then floor + 1
  else floor + floor % 2

namespace Binary64

/-- The magnitude nearest to `num / den` units of `2 ^ -1074`. A quotient that leaves the
finite numbers has the magnitude of an infinity. -/
def nearestMagnitude (num den : Nat) : Nat :=
  let scale := (num / den).log2 - 52
  min (scale * 2 ^ 52 + roundDiv num (den * 2 ^ scale)) infiniteMagnitude

/-- The number nearest to an integer. -/
def ofInt (n : Int) : Binary64 :=
  ofMagnitude (decide (n < 0)) (nearestMagnitude (n.natAbs * unitsPerOne) 1)

/-- A binary32 number, given by its bits, in the wider format. Nothing is rounded: the units
of the narrow format are `2 ^ 925` of the wide one. -/
def ofSingle (bits : UInt32) : Binary64 :=
  let negative := decide (2 ^ 31 ≤ bits.toNat)
  let narrow := bits.toNat % 2 ^ 31
  let top := 0xFF * 2 ^ 23
  if top < narrow then nan
  else if narrow = top then ofMagnitude negative infiniteMagnitude
  else
    let scale := narrow / 2 ^ 23 - 1
    let significand := narrow - scale * 2 ^ 23
    ofMagnitude negative (nearestMagnitude (significand * 2 ^ scale * 2 ^ 925) 1)

end Binary64

/-! ## Distances -/

/-- How far two naturals are apart. -/
def gap (a b : Nat) : Nat := ((a : Int) - b).natAbs

theorem gap_lt {a b c : Nat} (hab : a < b) (hbc : b ≤ c) : gap c b < gap c a := by
  unfold gap
  omega

/-- What lies between two naturals at one distance is nearer than they are. -/
theorem gap_between {a b c d : Nat} (hab : a < b) (hbc : b < c) (h : gap d a = gap d c) :
    gap d b < gap d a := by
  unfold gap at *
  omega

/-- Rounding to `n` at the distance `near` is right, with another choice at the distance `far`: the
other one is further away, or just as far and `n` is even. -/
def IsPreferred (near far n : Nat) : Prop := near < far ∨ near = far ∧ n % 2 = 0

theorem IsPreferred.le {near far n : Nat} (h : IsPreferred near far n) : near ≤ far :=
  h.elim Nat.le_of_lt fun htie => Nat.le_of_eq htie.1

/-! ## Quotients -/

theorem roundDiv_mul_mul_right (num den : Nat) {k : Nat} (hk : 0 < k) :
    roundDiv (num * k) (den * k) = roundDiv num den := by
  have h₁ : 2 * (num % den * k) < den * k ↔ 2 * (num % den) < den := by
    rw [← Nat.mul_assoc, Nat.mul_lt_mul_right hk]
  have h₂ : den * k < 2 * (num % den * k) ↔ den < 2 * (num % den) := by
    rw [← Nat.mul_assoc, Nat.mul_lt_mul_right hk]
  simp only [roundDiv, Nat.mul_div_mul_right _ _ hk, Nat.mul_mod_mul_right, h₁, h₂]

/-- The quotient is rounded down or up, to the nearer side, and from halfway to an even natural. -/
theorem roundDiv_cases (num den : Nat) :
    (roundDiv num den = num / den ∧ 2 * (num % den) < den) ∨
      (roundDiv num den = num / den + 1 ∧ den < 2 * (num % den)) ∨
      (roundDiv num den % 2 = 0 ∧ 2 * (num % den) = den ∧
        (roundDiv num den = num / den ∨ roundDiv num den = num / den + 1)) := by
  unfold roundDiv
  dsimp only
  split
  · omega
  · split <;> omega

/-- The multiples of the denominator next to the numerator are those of the quotient, rounded down
and up, and all others are further away. -/
theorem roundDiv_nearest (num : Nat) {den k : Nat} (hden : 0 < den) (hk : k ≠ roundDiv num den) :
    IsPreferred (gap num (roundDiv num den * den)) (gap num (k * den)) (roundDiv num den) := by
  have hnum := Nat.div_add_mod' num den
  have hrem := Nat.mod_lt num hden
  have hup : (num / den + 1) * den = num / den * den + den := Nat.succ_mul _ den
  have hside : k * den + den ≤ num / den * den ∨ k = num / den ∨ k = num / den + 1 ∨
      (num / den + 1) * den + den ≤ k * den := by
    rcases Nat.lt_or_ge k (num / den) with hlow | hlow
    · exact .inl (Nat.succ_mul k den ▸ Nat.mul_le_mul_right den hlow)
    · rcases Nat.lt_or_ge (num / den + 1) k with hhigh | hhigh
      · exact .inr (.inr (.inr (Nat.succ_mul _ den ▸ Nat.mul_le_mul_right den hhigh)))
      · omega
  unfold IsPreferred gap
  rcases roundDiv_cases num den with ⟨h, _⟩ | ⟨h, _⟩ | ⟨heven, _, h | h⟩ <;>
    rw [h] at hk ⊢ <;> rcases hside with hside | rfl | rfl | hside <;> omega

theorem gap_roundDiv_le (num : Nat) {den : Nat} (hden : 0 < den) (k : Nat) :
    gap num (roundDiv num den * den) ≤ gap num (k * den) := by
  by_cases hk : k = roundDiv num den
  · subst hk
    exact Nat.le_refl _
  · exact (roundDiv_nearest num hden hk).le

namespace Binary64

/-! ## The nearest magnitude -/

theorem nearestMagnitude_mul_mul_right (num den : Nat) {k : Nat} (hk : 0 < k) :
    nearestMagnitude (num * k) (den * k) = nearestMagnitude num den := by
  simp only [nearestMagnitude, Nat.mul_div_mul_right _ _ hk]
  rw [Nat.mul_right_comm, roundDiv_mul_mul_right _ _ hk]

/-- The units of a magnitude are a multiple of a scale or lie below it. -/
theorem unitsOf_grid (s m : Nat) :
    (∃ k, unitsOf m = k * 2 ^ s) ∨ s ≠ 0 ∧ unitsOf m < 2 ^ 52 * 2 ^ s := by
  rw [unitsOf_eq]
  rcases Nat.lt_or_ge (scaleOf m) s with h | h
  · refine .inr ⟨Nat.ne_of_gt (Nat.zero_lt_of_lt h), ?_⟩
    calc significand m * 2 ^ scaleOf m < 2 ^ 53 * 2 ^ scaleOf m :=
          Nat.mul_lt_mul_of_pos_right (significand_lt m) (Nat.two_pow_pos _)
      _ = 2 ^ 52 * 2 ^ (scaleOf m + 1) := by rw [Nat.pow_succ]; omega
      _ ≤ 2 ^ 52 * 2 ^ s := Nat.mul_le_mul_left _ (Nat.pow_le_pow_right (by decide) h)
  · refine .inl ⟨significand m * 2 ^ (scaleOf m - s), ?_⟩
    rw [Nat.mul_assoc, ← Nat.pow_add, Nat.sub_add_cancel h]

/-- The scale by which a quotient is rounded is the one that has it among its numbers. -/
theorem exists_scale (num : Nat) {den : Nat} (hden : 0 < den) : ∃ s, (num / den).log2 - 52 = s ∧
    (s = 0 ∨ 2 ^ 52 * (den * 2 ^ s) ≤ num) ∧ num < 2 ^ 53 * (den * 2 ^ s) := by
  have hscale (k s : Nat) : 2 ^ (k + s) * den = 2 ^ k * (den * 2 ^ s) := by
    rw [Nat.pow_add, Nat.mul_assoc, Nat.mul_comm den]
  refine ⟨_, rfl, ?_, ?_⟩
  · rcases Nat.eq_zero_or_pos ((num / den).log2 - 52) with hs | hs
    · exact .inl hs
    · refine .inr ?_
      have hne : num / den ≠ 0 := by
        intro h₀
        rw [h₀] at hs
        exact absurd hs (by decide)
      rw [← hscale, ← Nat.le_div_iff_mul_le hden]
      exact (Nat.le_log2 hne).1 (by omega)
  · rw [← hscale, ← Nat.div_lt_iff_lt_mul hden]
    exact Nat.lt_of_lt_of_le Nat.lt_log2_self (Nat.pow_le_pow_right (by decide) (by omega))

/-- How far the number of a magnitude is from `num / den` units, counted in parts of `1 / den`. -/
def miss (num den magnitude : Nat) : Nat := gap num (unitsOf magnitude * den)

/-- The magnitude is the one to which `num / den` units are rounded. The magnitude of the infinities
counts as the power of two that comes after the finite numbers. -/
structure IsNearest (num den m : Nat) : Prop where
  le : m ≤ infiniteMagnitude
  preferred : ∀ m' ≤ infiniteMagnitude, m' ≠ m → IsPreferred (miss num den m) (miss num den m') m

/-- What is rounded by its scale is nearest among numbers of every size. -/
theorem miss_of_scale {num den s m : Nat} (hden : 0 < den)
    (lo : s = 0 ∨ 2 ^ 52 * (den * 2 ^ s) ≤ num) (hi : num < 2 ^ 53 * (den * 2 ^ s))
    (hm : m ≠ s * 2 ^ 52 + roundDiv num (den * 2 ^ s)) :
    let nearest := s * 2 ^ 52 + roundDiv num (den * 2 ^ s)
    IsPreferred (miss num den nearest) (miss num den m) nearest := by
  intro nearest
  have hD : 0 < den * 2 ^ s := Nat.mul_pos hden (Nat.two_pow_pos s)
  have hfloor : num / (den * 2 ^ s) < 2 ^ 53 := (Nat.div_lt_iff_lt_mul hD).2 hi
  have hfull : s = 0 ∨ 2 ^ 52 ≤ num / (den * 2 ^ s) := lo.imp id (Nat.le_div_iff_mul_le hD).2
  have hcases := roundDiv_cases num (den * 2 ^ s)
  have hunits : unitsOf nearest = roundDiv num (den * 2 ^ s) * 2 ^ s :=
    unitsOf_of_scale (by omega) (by omega)
  have hmiss : miss num den nearest = gap num (roundDiv num (den * 2 ^ s) * (den * 2 ^ s)) := by
    rw [miss, hunits, Nat.mul_assoc, Nat.mul_comm (2 ^ s)]
  rw [hmiss]
  rcases unitsOf_grid s m with ⟨k, hk⟩ | ⟨hs, hbelow⟩
  · have hne : k ≠ roundDiv num (den * 2 ^ s) := by
      rintro rfl
      exact hm (unitsOf_inj.1 (hk.trans hunits.symm))
    rw [miss, hk, Nat.mul_assoc, Nat.mul_comm (2 ^ s)]
    refine (roundDiv_nearest num hD hne).imp id fun h => ⟨h.1, ?_⟩
    omega
  · -- the first number of the scale is nearer than what lies below the scale
    have hfirst := gap_roundDiv_le num hD (2 ^ 52)
    have hlt : unitsOf m * den < 2 ^ 52 * (den * 2 ^ s) := by
      rw [Nat.mul_comm den, ← Nat.mul_assoc]
      exact Nat.mul_lt_mul_of_pos_right hbelow hden
    exact .inl (Nat.lt_of_le_of_lt hfirst (gap_lt hlt (lo.resolve_left hs)))

/-- What is no nearer to a number than to a larger one is not below it. -/
theorem le_of_miss_le {num den m n : Nat} (hden : 0 < den) (hmn : m < n)
    (h : miss num den n ≤ miss num den m) : unitsOf m * den ≤ num := by
  have hunits := Nat.mul_lt_mul_of_pos_right (unitsOf_lt_unitsOf hmn) hden
  unfold miss gap at h
  omega

/-- Rounding goes on beyond the finite numbers, where only the infinities are left to take. -/
theorem isNearest_nearestMagnitude (num : Nat) {den : Nat} (hden : 0 < den) :
    IsNearest num den (nearestMagnitude num den) := by
  obtain ⟨s, hs, lo, hi⟩ := exists_scale num hden
  have hscale {m : Nat} := miss_of_scale (m := m) hden lo hi
  have hround : nearestMagnitude num den =
      min (s * 2 ^ 52 + roundDiv num (den * 2 ^ s)) infiniteMagnitude := by
    simp only [nearestMagnitude, hs]
  rw [hround]
  generalize s * 2 ^ 52 + roundDiv num (den * 2 ^ s) = nearest at hscale ⊢
  refine ⟨Nat.min_le_right _ _, fun m hm hne => ?_⟩
  rcases Nat.lt_or_ge infiniteMagnitude nearest with hlt | hle
  · rw [Nat.min_eq_right (Nat.le_of_lt hlt)] at hne ⊢
    have hpassed : unitsOf infiniteMagnitude * den ≤ num :=
      le_of_miss_le hden hlt (hscale (Nat.ne_of_lt hlt)).le
    have hunits : unitsOf m * den < unitsOf infiniteMagnitude * den :=
      Nat.mul_lt_mul_of_pos_right (unitsOf_lt_unitsOf (Nat.lt_of_le_of_ne hm hne)) hden
    exact .inl (gap_lt hunits hpassed)
  · rw [Nat.min_eq_left hle] at hne ⊢
    exact hscale hne

/-- Two magnitudes at the same distance have another one between them if both are even. -/
theorem IsNearest.unique {num den m n : Nat} (hden : 0 < den) (hm : IsNearest num den m)
    (hn : IsNearest num den n) : m = n := by
  have hnot {m n : Nat} (hm : IsNearest num den m) (hn : IsNearest num den n) : ¬ m < n := by
    intro hlt
    obtain ⟨hmiss, hmeven, hneven⟩ :
        miss num den m = miss num den n ∧ m % 2 = 0 ∧ n % 2 = 0 := by
      have hmn := hm.preferred n hn.le (Nat.ne_of_gt hlt)
      have hnm := hn.preferred m hm.le (Nat.ne_of_lt hlt)
      unfold IsPreferred at hmn hnm
      omega
    have hnext : m + 1 < n := by omega
    have hbetween : miss num den (m + 1) < miss num den m :=
      gap_between
        (Nat.mul_lt_mul_of_pos_right (unitsOf_lt_unitsOf (Nat.lt_add_one m)) hden)
        (Nat.mul_lt_mul_of_pos_right (unitsOf_lt_unitsOf hnext) hden) hmiss
    have hmid := hm.preferred (m + 1) (Nat.le_trans (Nat.le_of_lt hnext) hn.le) (Nat.succ_ne_self m)
    exact Nat.not_lt.2 hmid.le hbetween
  exact Nat.le_antisymm (Nat.not_lt.1 (hnot hn hm)) (Nat.not_lt.1 (hnot hm hn))

/-- **A quotient is rounded to the magnitude nearest to it**, and that is the only one. -/
theorem nearestMagnitude_eq_iff {num den m : Nat} (hden : 0 < den) :
    nearestMagnitude num den = m ↔ IsNearest num den m := by
  constructor
  · rintro rfl
    exact isNearest_nearestMagnitude num hden
  · exact (isNearest_nearestMagnitude num hden).unique hden

/-- A number of units that a magnitude has is not rounded. -/
theorem nearestMagnitude_unitsOf {m : Nat} (hm : m ≤ infiniteMagnitude) :
    nearestMagnitude (unitsOf m) 1 = m := by
  rw [nearestMagnitude_eq_iff Nat.one_pos]
  refine ⟨hm, fun m' _ hne => .inl ?_⟩
  have hunits : unitsOf m' ≠ unitsOf m := fun h => hne (unitsOf_inj.1 h)
  unfold miss gap
  omega

/-- What has 53 bits and a scale is the number of a magnitude. -/
theorem exists_unitsOf {k : Nat} (hk : k ≤ 2 ^ 53) (s : Nat) :
    ∃ m, unitsOf m = k * 2 ^ s ∧ m ≤ s * 2 ^ 52 + 2 ^ 53 := by
  induction s generalizing k with
  | zero => exact ⟨_, unitsOf_of_scale (s := 0) (.inl rfl) hk, by omega⟩
  | succ s ih =>
    rcases Nat.lt_or_ge k (2 ^ 52) with hlt | hge
    · obtain ⟨m, hm, hle⟩ := ih (k := k * 2) (by omega)
      have hnext : s * 2 ^ 52 ≤ (s + 1) * 2 ^ 52 := Nat.mul_le_mul_right _ (Nat.le_succ s)
      refine ⟨m, ?_, Nat.le_trans hle (Nat.add_le_add_right hnext _)⟩
      rw [hm, Nat.mul_assoc, ← Nat.pow_succ']
    · exact ⟨_, unitsOf_of_scale (.inr hge) hk, Nat.add_le_add_left hk _⟩

theorem unitsOf_nearestMagnitude {k s : Nat} (hk : k ≤ 2 ^ 53) (hs : s ≤ 2045) :
    unitsOf (nearestMagnitude (k * 2 ^ s) 1) = k * 2 ^ s := by
  obtain ⟨m, hm, hle⟩ := exists_unitsOf hk s
  have htop : m ≤ infiniteMagnitude := by
    unfold infiniteMagnitude
    omega
  rw [← hm, nearestMagnitude_unitsOf htop]

/-! ## Integers and binary32 numbers -/

theorem magnitude_ofMagnitude_nearestMagnitude (negative : Bool) (num : Nat) :
    (ofMagnitude negative (nearestMagnitude num 1)).magnitude = nearestMagnitude num 1 :=
  magnitude_ofMagnitude
    (Nat.lt_of_le_of_lt (isNearest_nearestMagnitude num Nat.one_pos).le (by decide))

theorem units_ofMagnitude_nearestMagnitude {negative : Bool} {k s : Nat} (hk : k ≤ 2 ^ 53)
    (hs : s ≤ 2045) :
    (ofMagnitude negative (nearestMagnitude (k * 2 ^ s) 1)).units = k * 2 ^ s := by
  rw [units, magnitude_ofMagnitude_nearestMagnitude, unitsOf_nearestMagnitude hk hs]

theorem natAbs_withSign_sub (negative : Bool) (a b : Nat) :
    (withSign negative a - withSign negative b).natAbs = gap a b := by
  cases negative
  · rfl
  · simp only [withSign, gap, if_true]
    omega

theorem natAbs_withSign_sub_not (negative : Bool) (a b : Nat) :
    (withSign negative a - withSign (!negative) b).natAbs = a + b := by
  cases negative <;> simp [withSign] <;> omega

theorem int_mul_eq_withSign (n : Int) (k : Nat) :
    n * k = withSign (decide (n < 0)) (n.natAbs * k) := by
  unfold withSign
  rw [Int.natCast_mul]
  by_cases h : n < 0
  · rw [decide_eq_true h, if_pos rfl, Int.ofNat_natAbs_of_nonpos (Int.le_of_lt h), Int.neg_mul,
      Int.neg_neg]
  · rw [decide_eq_false h, if_neg Bool.false_ne_true, Int.natAbs_of_nonneg (Int.not_lt.1 h)]

theorem magnitude_ofInt (n : Int) :
    (ofInt n).magnitude = nearestMagnitude (n.natAbs * unitsPerOne) 1 :=
  magnitude_ofMagnitude_nearestMagnitude _ _

theorem isNegative_ofInt (n : Int) : (ofInt n).isNegative = decide (n < 0) :=
  isNegative_ofMagnitude

theorem natAbs_sub_signedUnits {n : Int} {x : Binary64} (hsign : x.isNegative = decide (n < 0)) :
    (n * unitsPerOne - x.signedUnits).natAbs = miss (n.natAbs * unitsPerOne) 1 x.magnitude := by
  rw [int_mul_eq_withSign, signedUnits, hsign, natAbs_withSign_sub, miss, Nat.mul_one, units]

/-- Across the zero, all numbers are further away than the zero is. -/
theorem IsNearest.isPreferred_add {num m c : Nat} (h : IsNearest num 1 m) (hc : m = 0 → c ≠ 0) :
    IsPreferred (miss num 1 m) (num + c) m := by
  have hzero : miss num 1 0 = num := by simp [miss, gap, unitsOf_zero]
  by_cases hm : m = 0
  · rw [hm, hzero]
    exact .inl (Nat.lt_add_of_pos_right (Nat.pos_of_ne_zero (hc hm)))
  · have := h.preferred 0 (Nat.zero_le _) (Ne.symm hm)
    unfold IsPreferred at *
    omega

/-- **An integer becomes the number nearest to it**, at a tie the even one. -/
theorem ofInt_nearest (n : Int) {y : Binary64} (hy : y.isNaN = false)
    (hne : y.signedUnits ≠ (ofInt n).signedUnits) :
    IsPreferred (n * unitsPerOne - (ofInt n).signedUnits).natAbs
      (n * unitsPerOne - y.signedUnits).natAbs (ofInt n).magnitude := by
  have hnearest := isNearest_nearestMagnitude (n.natAbs * unitsPerOne) Nat.one_pos
  rw [← magnitude_ofInt] at hnearest
  rw [natAbs_sub_signedUnits (isNegative_ofInt n)]
  by_cases hsame : y.isNegative = decide (n < 0)
  · rw [natAbs_sub_signedUnits hsame]
    refine hnearest.preferred _ (Nat.not_lt.1 (of_decide_eq_false hy)) fun heq => hne ?_
    rw [signedUnits, signedUnits, units, units, heq, hsame, isNegative_ofInt]
  · have hother : (n * unitsPerOne - y.signedUnits).natAbs = n.natAbs * unitsPerOne + y.units := by
      rw [int_mul_eq_withSign, signedUnits, Bool.eq_not.2 hsame, natAbs_withSign_sub_not]
    rw [hother]
    refine hnearest.isPreferred_add fun hzero hunits => hne ?_
    rw [signedUnits, signedUnits, hunits, units, hzero, withSign_zero]
    exact (withSign_zero _).symm

/-- No integer of 128 bits is large enough to become an infinity. -/
theorem isFinite_ofInt {n : Int} (h : n.natAbs < 2 ^ 128) : (ofInt n).isFinite = true := by
  have hnearest := isNearest_nearestMagnitude (n.natAbs * unitsPerOne) Nat.one_pos
  rw [← magnitude_ofInt] at hnearest
  refine decide_eq_true (Nat.lt_of_le_of_ne hnearest.le fun hinf => ?_)
  rw [hinf] at hnearest
  have hlast := hnearest.preferred (infiniteMagnitude - 1) (Nat.sub_le _ _) (by decide)
  have hle : unitsOf (infiniteMagnitude - 1) * 1 ≤ n.natAbs * unitsPerOne :=
    le_of_miss_le Nat.one_pos (by decide) hlast.le
  have hlarge : 2 ^ 128 * unitsPerOne ≤ unitsOf (infiniteMagnitude - 1) * 1 := by decide +kernel
  have hlt : n.natAbs * unitsPerOne < 2 ^ 128 * unitsPerOne :=
    Nat.mul_lt_mul_of_pos_right h (Nat.two_pow_pos unitPlaces)
  exact Nat.not_le.2 hlt (Nat.le_trans hlarge hle)

/-- An integer of 53 bits becomes itself. -/
theorem signedUnits_ofInt {n : Int} (h : n.natAbs ≤ 2 ^ 53) :
    (ofInt n).signedUnits = n * unitsPerOne := by
  rw [signedUnits, isNegative_ofInt, int_mul_eq_withSign]
  exact congrArg _ (units_ofMagnitude_nearestMagnitude h (by decide))

/-- **A finite binary32 number becomes itself.** Its exponent and its fraction are those of the
narrow format, where an exponent above zero has one more bit before the fraction. -/
theorem units_ofSingle {bits : UInt32} {exponent fraction : Nat}
    (hbits : bits.toNat % 2 ^ 31 = exponent * 2 ^ 23 + fraction) (hfinite : exponent < 0xFF)
    (hfraction : fraction < 2 ^ 23) :
    (ofSingle bits).units =
      (if exponent = 0 then fraction else 2 ^ 23 + fraction) * 2 ^ (exponent - 1 + 925) := by
  have hdiv : bits.toNat % 2 ^ 31 / 2 ^ 23 = exponent := by omega
  have hsignificand : bits.toNat % 2 ^ 31 - (exponent - 1) * 2 ^ 23 =
      if exponent = 0 then fraction else 2 ^ 23 + fraction := by
    split <;> omega
  have hfits : (if exponent = 0 then fraction else 2 ^ 23 + fraction) ≤ 2 ^ 53 := by
    split <;> omega
  have hsum (a b : Nat) : 2 ^ a * 2 ^ b = 2 ^ (a + b) := (Nat.pow_add 2 a b).symm
  simp only [ofSingle]
  rw [if_neg (by omega), if_neg (by omega), hdiv, hsignificand, Nat.mul_assoc,
    hsum (exponent - 1) 925]
  exact units_ofMagnitude_nearestMagnitude hfits (by omega)

end Binary64

end RuntimeContracts
