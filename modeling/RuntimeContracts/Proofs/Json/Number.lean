import RuntimeContracts.Interchange.Json
import RuntimeContracts.Proofs.Number.Digits

/-!
# Numbers in JSON are read back

The text of a finite number is a whole part, places behind a point and an exponent. The reader
cuts it into the same parts, and they stand for a decimal that is read as the number: the shortest
decimal itself, or one with more zeros at its end. A fraction or an exponent is always there, so
that no number is taken for an integer.

* `Json.readUnsigned_numberChars`: the reader finds the parts that a text was made of.
* `Json.Parts`, `Json.exists_parts`: the parts that a decimal is written as.
* `Json.readNumber_writeNumber`: a finite number is read back bit by bit.
-/

namespace RuntimeContracts.Json

open NumberLayout (positionalText exponentText scientificText)
open Binary64 (infiniteMagnitude)

/-! ## Reading the parts of a number -/

/-- What follows a number does not go on with it. -/
def EndsNumber (rest : List Char) : Prop :=
  ∀ c, rest.head? = some c → c.isDigit = false ∧ c ≠ '.' ∧ c ≠ 'e' ∧ c ≠ 'E'

/-- A text does not go on with digits. -/
def EndsDigits (rest : List Char) : Prop := ∀ c, rest.head? = some c → c.isDigit = false

/-- A digit at least, and digits only. -/
structure AreDigits (digits : List Char) : Prop where
  ne_nil : digits ≠ []
  isDigit : ∀ c ∈ digits, c.isDigit = true

theorem readDigits_append {digits rest : List Char} (h : AreDigits digits) (hrest : EndsDigits rest) :
    readDigits (digits ++ rest) = some (digits, rest) := by
  have htake : rest.takeWhile Char.isDigit = [] := by
    cases rest with
    | nil => rfl
    | cons c cs => simp [hrest c rfl]
  have hdrop : rest.dropWhile Char.isDigit = rest := by
    cases rest with
    | nil => rfl
    | cons c cs => simp [hrest c rfl]
  simp [readDigits, List.takeWhile_append_of_pos h.isDigit, List.dropWhile_append_of_pos h.isDigit,
    htake, hdrop, h.ne_nil]

/-- A whole part has no zero in front of other digits. -/
structure IsWhole (whole : List Char) : Prop extends AreDigits whole where
  leading : whole = ['0'] ∨ whole.head? ≠ some '0'

theorem readWhole_append {whole rest : List Char} (h : IsWhole whole) (hrest : EndsDigits rest) :
    readWhole (whole ++ rest) = some (whole, rest) := by
  rcases h.leading with rfl | hhead
  · have hnone : rest.head?.any Char.isDigit = false := by
      cases rest with
      | nil => rfl
      | cons c cs => exact hrest c rfl
    simp [readWhole, hnone]
  · cases whole with
    | nil => exact absurd rfl h.ne_nil
    | cons c cs =>
      have hc : c ≠ '0' := fun heq => hhead (congrArg some heq)
      have hdigits : readWhole (c :: cs ++ rest) = readDigits (c :: cs ++ rest) := by
        rw [List.cons_append]
        unfold readWhole
        split
        · next heq => exact absurd (List.cons.inj heq).1 hc
        · rfl
      rw [hdigits, readDigits_append h.toAreDigits hrest]

theorem readFraction_append {places rest : List Char} (h : AreDigits places)
    (hrest : EndsDigits rest) :
    readFraction ('.' :: places ++ rest) = some (some places, rest) := by
  simp [readFraction, readDigits_append h hrest]

theorem areDigits_toDigits (n : Nat) : AreDigits (Nat.toDigits 10 n) :=
  ⟨Nat.toDigits_ne_nil, fun _ => Nat.isDigit_of_mem_toDigits (by decide) (by decide)⟩

theorem readExponentDigits_append (negative : Bool) (n : Nat) {rest : List Char}
    (hrest : EndsDigits rest) :
    readExponentDigits negative (Nat.toDigits 10 n ++ rest) =
      some (some (if negative then -(n : Int) else n), rest) := by
  have hdigits := readDigits_append (areDigits_toDigits n) hrest
  have hread : Nat.ofDigitChars 10 (Nat.toDigits 10 n) 0 = n := Nat.ofDigitChars_ten_toDigits
  simp only [readExponentDigits, hdigits, hread, Option.map_some]

theorem readExponent_append {exponent : Int} {rest : List Char} (hrest : EndsDigits rest) :
    readExponent (exponentText true exponent ++ rest) = some (some exponent, rest) := by
  have hread (negative : Bool) := readExponentDigits_append negative exponent.natAbs hrest
  by_cases hneg : exponent < 0
  · have habs : -(exponent.natAbs : Int) = exponent := by omega
    have hminus := hread true
    rw [if_pos rfl, habs] at hminus
    rw [exponentText, if_pos hneg]
    exact hminus
  · have habs : (exponent.natAbs : Int) = exponent := by omega
    have hplus := hread false
    rw [if_neg Bool.false_ne_true, habs] at hplus
    rw [exponentText, if_neg hneg]
    exact hplus

theorem readFraction_of_none {rest : List Char} (h : ∀ c, rest.head? = some c → c ≠ '.') :
    readFraction rest = some (none, rest) := by
  unfold readFraction
  split
  · exact absurd rfl (h '.' rfl)
  · rfl

theorem readExponent_of_none {rest : List Char}
    (h : ∀ c, rest.head? = some c → c ≠ 'e' ∧ c ≠ 'E') : readExponent rest = some (none, rest) := by
  unfold readExponent
  split
  all_goals first | rfl | exact absurd rfl (h _ rfl).1 | exact absurd rfl (h _ rfl).2

/-- The text of a number: its whole part, its places behind the point if it has any, and its
exponent if it has one. -/
def numberChars (whole : List Char) (fraction : Option (List Char)) (exponent : Option Int) :
    List Char :=
  whole ++ (fraction.elim [] ('.' :: ·) ++ exponent.elim [] (exponentText true))

theorem readUnsigned_numberChars {negative : Bool} {whole : List Char}
    {fraction : Option (List Char)} {exponent : Option Int} {rest : List Char}
    (hwhole : IsWhole whole) (hfraction : ∀ places, fraction = some places → AreDigits places)
    (hrest : EndsNumber rest) :
    readUnsigned negative (numberChars whole fraction exponent ++ rest) =
      (numberDatum? negative whole fraction exponent).map (·, rest) := by
  have hend : ∀ c, (exponent.elim [] (exponentText true) ++ rest).head? = some c →
      c.isDigit = false ∧ c ≠ '.' := by
    intro c hc
    cases exponent with
    | none => exact ⟨(hrest c hc).1, (hrest c hc).2.1⟩
    | some e =>
      obtain rfl : 'e' = c := Option.some.inj hc
      decide
  have hexponent : readExponent (exponent.elim [] (exponentText true) ++ rest) =
      some (exponent, rest) := by
    cases exponent with
    | none => exact readExponent_of_none fun c hc => (hrest c hc).2.2
    | some e => exact readExponent_append fun c hc => (hrest c hc).1
  have hread : readWhole (numberChars whole fraction exponent ++ rest) =
      some (whole, fraction.elim [] ('.' :: ·) ++ (exponent.elim [] (exponentText true) ++ rest)) := by
    rw [numberChars, List.append_assoc, List.append_assoc]
    refine readWhole_append hwhole fun c hc => ?_
    cases fraction with
    | none => exact (hend c hc).1
    | some places =>
      obtain rfl : '.' = c := Option.some.inj hc
      rfl
  have hplaces : readFraction
      (fraction.elim [] ('.' :: ·) ++ (exponent.elim [] (exponentText true) ++ rest)) =
        some (fraction, exponent.elim [] (exponentText true) ++ rest) := by
    cases fraction with
    | none => exact readFraction_of_none fun c hc => (hend c hc).2
    | some places => exact readFraction_append (hfraction places rfl) fun c hc => (hend c hc).1
  simp only [readUnsigned, hread, hplaces, hexponent, Option.bind_eq_bind, Option.bind_some]
  cases numberDatum? negative whole fraction exponent <;> rfl

/-! ## The shortest decimal, written and read -/

theorem head?_toDigits {n : Nat} (h : n ≠ 0) : (Nat.toDigits 10 n).head? ≠ some '0' := by
  induction n using Nat.strongRecOn with
  | ind n ih =>
    by_cases hn : n < 10
    · rw [Nat.toDigits_of_lt_base hn]
      intro hzero
      exact h (Nat.digitChar_eq_zero.1 (Option.some.inj hzero))
    · rw [Nat.toDigits_of_base_le (by decide) (by omega), List.head?_append]
      intro hzero
      rcases Option.or_eq_some_iff.1 hzero with hfirst | ⟨hnone, -⟩
      · exact ih (n / 10) (by omega) (by omega) hfirst
      · exact Nat.toDigits_ne_nil (List.head?_eq_none_iff.1 hnone)

theorem isDigit_zeros {k : Nat} : ∀ c ∈ List.replicate k '0', c.isDigit = true := by
  intro c hc
  rw [List.eq_of_mem_replicate hc]
  rfl

theorem areDigits_append_zeros {digits : List Char} (h : AreDigits digits) (k : Nat) :
    AreDigits (digits ++ List.replicate k '0') :=
  ⟨List.append_ne_nil_of_left_ne_nil h.ne_nil _, List.forall_mem_append.2 ⟨h.isDigit, isDigit_zeros⟩⟩

theorem areDigits_zeros_append {digits : List Char} (h : AreDigits digits) (k : Nat) :
    AreDigits (List.replicate k '0' ++ digits) :=
  ⟨List.append_ne_nil_of_right_ne_nil _ h.ne_nil, List.forall_mem_append.2 ⟨isDigit_zeros, h.isDigit⟩⟩

theorem AreDigits.sublist {digits part : List Char} (h : AreDigits digits)
    (hpart : part.Sublist digits) (hne : part ≠ []) : AreDigits part :=
  ⟨hne, fun c hc => h.isDigit c (hpart.subset hc)⟩

theorem areDigits_zero : AreDigits ['0'] := ⟨List.cons_ne_nil _ _, isDigit_zeros (k := 1)⟩

theorem isWhole_zero : IsWhole ['0'] := ⟨areDigits_zero, .inl rfl⟩

theorem isWhole_take_toDigits {n k : Nat} (hn : n ≠ 0) (hk : 0 < k) :
    IsWhole ((Nat.toDigits 10 n).take k) := by
  have hhead : ((Nat.toDigits 10 n).take k).head? = (Nat.toDigits 10 n).head? := by
    rw [List.head?_take, if_neg (by omega)]
  have hne : (Nat.toDigits 10 n).take k ≠ [] := by
    intro hnil
    rw [hnil] at hhead
    exact Nat.toDigits_ne_nil (List.head?_eq_none_iff.1 hhead.symm)
  refine ⟨(areDigits_toDigits n).sublist (List.take_sublist _ _) hne, .inr ?_⟩
  rw [hhead]
  exact head?_toDigits hn

theorem isWhole_toDigits_append_zeros {n : Nat} (hn : n ≠ 0) (k : Nat) :
    IsWhole (Nat.toDigits 10 n ++ List.replicate k '0') := by
  refine ⟨areDigits_append_zeros (areDigits_toDigits n) k, .inr ?_⟩
  rw [List.head?_append]
  intro hzero
  rcases Option.or_eq_some_iff.1 hzero with hfirst | ⟨hnone, -⟩
  · exact head?_toDigits hn hfirst
  · exact Nat.toDigits_ne_nil (List.head?_eq_none_iff.1 hnone)

/-- What a decimal is written as: a whole part, the places behind the point and an exponent. They
are read as the same number, and one of the latter two is there, so that the number is not taken
for an integer. -/
structure Parts (d : Decimal) (whole : List Char) (fraction : Option (List Char))
    (exponent : Option Int) : Prop where
  isWhole : IsWhole whole
  areDigits : ∀ places, fraction = some places → AreDigits places
  inexact : (fraction.isNone && exponent.isNone) = false
  magnitude : (decimal whole (fraction.getD []) (exponent.getD 0)).magnitude = d.magnitude

theorem parts_zero : Parts ⟨0, 0⟩ ['0'] (some ['0']) none where
  isWhole := isWhole_zero
  areDigits := by
    rintro places ⟨⟩
    exact areDigits_zero
  inexact := rfl
  magnitude := by
    rw [Decimal.magnitude_zero, decimal_of_length_le (by decide)]
    exact Decimal.magnitude_zero _

/-- Zeros in front of the digits do not count, so the places alone decide about the number. -/
theorem decimal_of_append_eq {d : Decimal} {whole places : List Char} {exponent : Int} (front : Nat)
    (hdigits : whole ++ places = List.replicate front '0' ++ d.digits)
    (hlen : front + d.digits.length ≤ significantDigits)
    (hexp : exponent - places.length = d.exponent) : decimal whole places exponent = d := by
  have hlength := congrArg List.length hdigits
  simp only [List.length_append, List.length_replicate] at hlength
  have hread : Nat.ofDigitChars 10 (whole ++ places) 0 = d.coefficient := by
    rw [hdigits, Nat.ofDigitChars_append, Nat.ofDigitChars_replicate_zero, Nat.mul_zero]
    exact Nat.ofDigitChars_ten_toDigits
  rw [decimal_of_length_le (by omega), hread, hexp]

section

variable {d : Decimal} (h₀ : d.coefficient ≠ 0) (hlen : d.digits.length ≤ 17)

include hlen

theorem parts_point_before (hlo : -4 ≤ d.point) (hhi : d.point ≤ 0) :
    Parts d ['0'] (some (List.replicate (-d.point).toNat '0' ++ d.digits)) none where
  isWhole := isWhole_zero
  areDigits := by
    rintro places ⟨⟩
    exact areDigits_zeros_append (areDigits_toDigits _) _
  inexact := rfl
  magnitude := by
    have hpoint : d.point = d.digits.length + d.exponent := rfl
    apply congrArg Decimal.magnitude
    apply decimal_of_append_eq ((-d.point).toNat + 1)
    · rfl
    · unfold significantDigits
      omega
    · simp only [Option.getD_some, List.length_append, List.length_replicate, Option.getD_none]
      omega

include h₀

theorem parts_point_among (hlo : 0 < d.point) (hhi : d.point < d.digits.length) :
    Parts d (d.digits.take d.point.toNat) (some (d.digits.drop d.point.toNat)) none where
  isWhole := isWhole_take_toDigits h₀ (by omega)
  areDigits := by
    rintro places ⟨⟩
    refine (areDigits_toDigits _).sublist (List.drop_sublist _ _) fun hnil => ?_
    have := List.drop_eq_nil_iff.1 hnil
    omega
  inexact := rfl
  magnitude := by
    have hpoint : d.point = d.digits.length + d.exponent := rfl
    apply congrArg Decimal.magnitude
    apply decimal_of_append_eq 0
    · exact List.take_append_drop _ _
    · unfold significantDigits
      omega
    · simp only [Option.getD_some, List.length_drop, Option.getD_none]
      omega

/-- Here zeros follow the digits, and one more is the place behind the point. -/
theorem parts_point_behind (hlo : d.digits.length ≤ d.point) (hhi : d.point ≤ 16) :
    Parts d (d.digits ++ List.replicate (d.point.toNat - d.digits.length) '0') (some ['0'])
      none where
  isWhole := isWhole_toDigits_append_zeros h₀ _
  areDigits := by
    rintro places ⟨⟩
    exact areDigits_zero
  inexact := rfl
  magnitude := by
    have hpoint : d.point = d.digits.length + d.exponent := rfl
    -- the zeros and the place behind the point are a power of ten that the exponent takes back
    generalize hk : d.point.toNat - d.digits.length = k
    have hread : Nat.ofDigitChars 10 (d.digits ++ List.replicate k '0' ++ ['0']) 0 =
        d.coefficient * 10 ^ (k + 1) := by
      rw [List.append_assoc, ← List.replicate_succ', Nat.ofDigitChars_append, Decimal.digits,
        Nat.ofDigitChars_ten_toDigits, Nat.ofDigitChars_replicate_zero, Nat.mul_comm]
    have hlength : (d.digits ++ List.replicate k '0').length + ['0'].length ≤ significantDigits := by
      unfold significantDigits
      simp only [List.length_append, List.length_replicate, List.length_singleton]
      omega
    have hexp : (0 - (['0'].length : Int)) + ((k + 1 : Nat) : Int) = d.exponent := by
      simp only [List.length_singleton]
      omega
    rw [Option.getD_some, Option.getD_none, decimal_of_length_le hlength, hread,
      Decimal.magnitude_mul_pow (by decide) (by omega), hexp]

/-- One digit at least stands before the point. -/
theorem parts_scientific :
    Parts d (d.digits.take 1) (if d.digits.length ≤ 1 then none else some (d.digits.drop 1))
      (some (d.point - 1)) where
  isWhole := isWhole_take_toDigits h₀ (by decide)
  areDigits := by
    intro places hplaces
    split at hplaces
    · cases hplaces
    · cases hplaces
      refine (areDigits_toDigits _).sublist (List.drop_sublist _ _) fun hnil => ?_
      have := List.drop_eq_nil_iff.1 hnil
      contradiction
  inexact := Bool.and_false _
  magnitude := by
    have hpoint : d.point = d.digits.length + d.exponent := rfl
    have hpos : 0 < d.digits.length := Nat.length_toDigits_pos
    have hplaces : (if d.digits.length ≤ 1 then none else some (d.digits.drop 1)).getD [] =
        d.digits.drop 1 := by
      split
      · exact (List.drop_eq_nil_of_le ‹_›).symm
      · rfl
    rw [hplaces, Option.getD_some]
    apply congrArg Decimal.magnitude
    apply decimal_of_append_eq 0
    · exact List.take_append_drop _ _
    · unfold significantDigits
      omega
    · rw [List.length_drop]
      omega

/-- The text of a decimal has parts that read as the same number. -/
theorem exists_parts : ∃ whole fraction exponent, Parts d whole fraction exponent ∧
    layout.decimalText d = numberChars whole fraction exponent := by
  by_cases hpositional : -4 ≤ d.point ∧ d.point ≤ 16
  · obtain ⟨hlo, hhi⟩ := hpositional
    have htext : layout.decimalText d = positionalText true d.digits d.point := by
      simp [NumberLayout.decimalText, layout, hlo, hhi]
    rw [htext, positionalText]
    split
    · next hbefore =>
      refine ⟨_, _, none, parts_point_before hlen hlo hbefore, ?_⟩
      simp [numberChars]
    · next hbefore =>
      split
      · next hamong =>
        refine ⟨_, _, none, parts_point_among h₀ hlen (by omega) hamong, ?_⟩
        simp [numberChars]
      · next hbehind =>
        refine ⟨_, _, none, parts_point_behind h₀ hlen (by omega) hhi, ?_⟩
        simp [numberChars]
  · have htext : layout.decimalText d = scientificText true d.digits d.point := by
      simp only [NumberLayout.decimalText, layout, hpositional]
      rfl
    refine ⟨_, _, _, parts_scientific h₀ hlen, ?_⟩
    rw [htext, scientificText, numberChars, List.append_assoc]
    split <;> rfl

end

/-- What is written of a finite number is its sign, if it has one, and the parts of its shortest
decimal, which are read as its magnitude. -/
theorem exists_writeNumber_eq {x : Binary64} (hx : x.isFinite = true) :
    ∃ whole fraction exponent, Parts (.shortest .even x.magnitude) whole fraction exponent ∧
      writeNumber x = if x.isNegative then '-' :: numberChars whole fraction exponent
        else numberChars whole fraction exponent := by
  have hm : x.magnitude < infiniteMagnitude := of_decide_eq_true hx
  have hwrite : writeNumber x =
      if x.isNegative then '-' :: layout.decimalText (.shortest .even x.magnitude)
      else layout.decimalText (.shortest .even x.magnitude) := by
    rw [writeNumber, if_pos hx, NumberLayout.render, String.toList_ofList]
    rfl
  rw [hwrite]
  by_cases h₀ : x.magnitude = 0
  · rw [h₀, Decimal.shortest, if_pos rfl]
    exact ⟨_, _, _, parts_zero, rfl⟩
  · obtain ⟨hc, hlen⟩ := Decimal.length_digits_shortest .even h₀ hm
    obtain ⟨whole, fraction, exponent, hparts, htext⟩ := exists_parts hc hlen
    exact ⟨whole, fraction, exponent, hparts, htext ▸ rfl⟩

theorem IsWhole.exists_cons {whole : List Char} (h : IsWhole whole) :
    ∃ c cs, whole = c :: cs ∧ c.isDigit = true := by
  cases whole with
  | nil => exact absurd rfl h.ne_nil
  | cons c cs => exact ⟨c, cs, rfl, h.isDigit c List.mem_cons_self⟩

/-- The text of a number can be told from other texts by its first character. -/
theorem exists_writeNumber_eq_cons {x : Binary64} (hx : x.isFinite = true) :
    ∃ c cs, writeNumber x = c :: cs ∧ (c = '-' ∨ c.isDigit = true) := by
  obtain ⟨whole, fraction, exponent, hparts, htext⟩ := exists_writeNumber_eq hx
  obtain ⟨c, cs, rfl, hc⟩ := hparts.isWhole.exists_cons
  rw [htext]
  cases x.isNegative with
  | true => exact ⟨'-', _, rfl, .inl rfl⟩
  | false => exact ⟨c, _, rfl, .inr hc⟩

theorem readNumber_of_isDigit {c : Char} (hc : c.isDigit = true) (cs : List Char) :
    readNumber (c :: cs) = readUnsigned false (c :: cs) := by
  unfold readNumber
  split
  · next heq =>
    obtain rfl := (List.cons.inj heq).1
    exact absurd hc (by decide)
  · rfl

/-- **A finite number is read back bit by bit.** -/
theorem readNumber_writeNumber {x : Binary64} (hx : x.isFinite = true) {rest : List Char}
    (hrest : EndsNumber rest) : readNumber (writeNumber x ++ rest) = some (.number x, rest) := by
  have hm : x.magnitude < infiniteMagnitude := of_decide_eq_true hx
  obtain ⟨whole, fraction, exponent, hparts, htext⟩ := exists_writeNumber_eq hx
  have hmagnitude := hparts.magnitude.trans (Decimal.magnitude_shortest .even hm)
  have hdatum : numberDatum? x.isNegative whole fraction exponent = some (.number x) := by
    simp only [numberDatum?, hparts.inexact, Bool.false_and, hmagnitude, hm, if_true,
      Binary64.ofMagnitude_magnitude]
    rfl
  have hread : readUnsigned x.isNegative (numberChars whole fraction exponent ++ rest) =
      some (.number x, rest) := by
    rw [readUnsigned_numberChars hparts.isWhole hparts.areDigits hrest, hdatum]
    rfl
  rw [htext]
  cases hneg : x.isNegative with
  | true =>
    rw [hneg] at hread
    exact hread
  | false =>
    obtain ⟨c, cs, rfl, hc⟩ := hparts.isWhole.exists_cons
    rw [hneg] at hread
    exact (readNumber_of_isDigit hc _).trans hread

end RuntimeContracts.Json
