import RuntimeContracts.Number.Layout
import RuntimeContracts.Text.HasText
import RuntimeContracts.Value.Basic

/-!
# Text of values

The text of a value is what a message shows. It names scalars plainly, joins the items of an
array by commas and does not look into objects.

* `Value.text`: the text of a value.
-/
namespace RuntimeContracts.Value

/-- A number in a text has all its places and no exponent. -/
def textLayout : NumberLayout :=
  { tie := .up, positional := none, keepsFraction := false, signsExponent := false }

/-- The text of a number. Neither zero has a sign. -/
def numberText (x : Binary64) : String :=
  if x.isNaN then "NaN"
  else if x.isInfinite then if x.isNegative then "-Infinity" else "Infinity"
  else if x.isZero then "0"
  else textLayout.render x

mutual

/-- The text of a value. Inside an array, null and undefined leave an empty place. -/
def text : Value → String
  | undefined => "undefined"
  | null => "null"
  | bool b => if b then "true" else "false"
  | number x => numberText x
  | string s => s
  | array items => String.intercalate "," (itemTexts items)
  | object _ => "[object Object]"

def itemTexts : List Value → List String
  | [] => []
  | v :: rest => (if v.isPresent then text v else "") :: itemTexts rest

end

instance : HasText Value := ⟨text⟩

end RuntimeContracts.Value
