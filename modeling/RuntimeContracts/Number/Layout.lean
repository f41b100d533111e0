import RuntimeContracts.Number.Decimal

/-!
# Layout of numbers

A layout says how the shortest digits of a finite number are written: where the decimal point
may stand before an exponent takes over, and how the exponent and a missing fraction look. The
formats that write numbers each hold one layout, and the rest is shared.

* `NumberLayout.render`: the text of a finite number.
-/
namespace RuntimeContracts

/-- How a format writes finite numbers. -/
structure NumberLayout where
  /-- The choice between two shortest decimals at the same distance. -/
  tie : Tie
  /-- The places of the decimal point, least and greatest, for which no exponent is written.
  There is never one if this is `none`. -/
  positional : Option (Int × Int)
  /-- A number without a fraction ends in `.0` when it is written without an exponent. -/
  keepsFraction : Bool
  /-- A positive exponent is written with its sign. -/
  signsExponent : Bool
deriving DecidableEq, Inhabited

namespace NumberLayout

/-- Digits with the decimal point at the given place, zeros filling the gap between them. -/
def positionalText (keepsFraction : Bool) (digits : List Char) (point : Int) : List Char :=
  if point ≤ 0 then
    '0' :: '.' :: (List.replicate (-point).toNat '0' ++ digits)
  else if point < digits.length then
    digits.take point.toNat ++ '.' :: digits.drop point.toNat
  else
    digits ++ List.replicate (point.toNat - digits.length) '0' ++
      if keepsFraction then ['.', '0'] else []

/-- The power of ten behind the digits, with its sign. -/
def exponentText (signsExponent : Bool) (exponent : Int) : List Char :=
  let sign := if exponent < 0 then ['-'] else if signsExponent then ['+'] else []
  'e' :: (sign ++ Nat.toDigits 10 exponent.natAbs)

/-- One digit, the others as a fraction, and the exponent. -/
def scientificText (signsExponent : Bool) (digits : List Char) (point : Int) : List Char :=
  digits.take 1 ++ (if digits.length ≤ 1 then [] else '.' :: digits.drop 1) ++
    exponentText signsExponent (point - 1)

/-- The text of a nonnegative decimal. -/
def decimalText (layout : NumberLayout) (d : Decimal) : List Char :=
  let isPositional := match layout.positional with
    | none => true
    | some (least, greatest) => decide (least ≤ d.point ∧ d.point ≤ greatest)
  if isPositional then positionalText layout.keepsFraction d.digits d.point
  else scientificText layout.signsExponent d.digits d.point

/-- The text of a finite number. Both zeros keep their sign. -/
def render (layout : NumberLayout) (x : Binary64) : String :=
  let text := layout.decimalText (Decimal.shortest layout.tie x.magnitude)
  String.ofList (if x.isNegative then '-' :: text else text)

end NumberLayout

end RuntimeContracts
