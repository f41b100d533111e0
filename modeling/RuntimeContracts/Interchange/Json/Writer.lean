import RuntimeContracts.Number.Layout
import RuntimeContracts.Value.Basic

/-!
# Writing JSON

A value is written without white space. JSON has no form for undefined and for numbers that are
not finite, so null stands for them.

* `Json.write`: the JSON text of a value.
-/
namespace RuntimeContracts.Json

/-- Numbers in JSON keep their fraction and sign their exponents. -/
def layout : NumberLayout :=
  { tie := .even, positional := some (-4, 16), keepsFraction := true, signsExponent := true }

/-- The form of a character inside a string. Only quotes, backslashes and controls are escaped. -/
def escaped (c : Char) : List Char :=
  if c = '"' then ['\\', '"']
  else if c = '\\' then ['\\', '\\']
  else if c = '\x08' then ['\\', 'b']
  else if c = '\x0c' then ['\\', 'f']
  else if c = '\n' then ['\\', 'n']
  else if c = '\r' then ['\\', 'r']
  else if c = '\t' then ['\\', 't']
  else if c.toNat < 0x20 then
    ['\\', 'u', '0', '0', Nat.digitChar (c.toNat / 16), Nat.digitChar (c.toNat % 16)]
  else [c]

def writeString (s : String) : List Char := '"' :: (s.toList.flatMap escaped ++ ['"'])

def writeNumber (x : Binary64) : List Char :=
  if x.isFinite then (layout.render x).toList else ['n', 'u', 'l', 'l']

mutual

/-- The characters of the JSON text of a value. -/
def chars : Value → List Char
  | .undefined | .null => ['n', 'u', 'l', 'l']
  | .bool b => if b then ['t', 'r', 'u', 'e'] else ['f', 'a', 'l', 's', 'e']
  | .number x => writeNumber x
  | .string s => writeString s
  | .array items => '[' :: (itemChars items ++ [']'])
  | .object entries => '\x7b' :: (entryChars entries ++ ['\x7d'])

def itemChars : List Value → List Char
  | [] => []
  | [v] => chars v
  | v :: rest => chars v ++ ',' :: itemChars rest

def entryChars : List (String × Value) → List Char
  | [] => []
  | [(k, v)] => writeString k ++ ':' :: chars v
  | (k, v) :: rest => writeString k ++ ':' :: (chars v ++ ',' :: entryChars rest)

end

/-- The JSON text of a value. -/
def write (v : Value) : String := String.ofList (chars v)

end RuntimeContracts.Json
