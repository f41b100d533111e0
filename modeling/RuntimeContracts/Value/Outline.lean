import RuntimeContracts.Number.Layout
import RuntimeContracts.Text.Outline
import RuntimeContracts.Value.Basic

/-!
# Outlines of values

The outline of a value names its kind and shows all that is inside, objects included.

* `Value.toOutline`: the outline of a value.
-/
namespace RuntimeContracts.Value

/-- A number in an outline keeps its fraction, and very large and very small ones have an
exponent. -/
def outlineLayout : NumberLayout :=
  { tie := .up, positional := some (-3, 16), keepsFraction := true, signsExponent := false }

/-- The number as an outline shows it. Zeros keep their sign. -/
def numberOutlineText (x : Binary64) : String :=
  if x.isNaN then "NaN"
  else if x.isInfinite then if x.isNegative then "-inf" else "inf"
  else outlineLayout.render x

mutual

/-- The kind of the value and what it holds. -/
def toOutline : Value → Outline
  | undefined => .unit "Undefined"
  | null => .unit "Null"
  | bool b => .tuple "Bool" [.ofBool b]
  | number x => .tuple "Number" [.atom (numberOutlineText x)]
  | string s => .tuple "String" [.ofText s]
  | array items => .tuple "Array" [.list (itemOutlines items)]
  | object entries => .tuple "Object" [.table (entryOutlines entries)]

def itemOutlines : List Value → List Outline
  | [] => []
  | v :: rest => toOutline v :: itemOutlines rest

def entryOutlines : List (String × Value) → List (String × Outline)
  | [] => []
  | (key, v) :: rest => (key, toOutline v) :: entryOutlines rest

end

instance : HasOutline Value := ⟨toOutline⟩

end RuntimeContracts.Value
