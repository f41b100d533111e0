import RuntimeContracts.Interchange.Datum
import RuntimeContracts.Number.Decimal

/-!
# Reading JSON

The reader takes exactly the texts of RFC 8259, with two limits: arrays and objects are nested at
most `nestingLimit` deep, and a number that is too large for the finite ones is refused. Escapes
of surrogates have to come in pairs.

* `Json.read?`: the data that a JSON text stands for.
* `Json.decimal_of_length_le`: a number of at most `significantDigits` digits is read exactly.
-/
namespace RuntimeContracts.Json

/-- Reads something from the beginning of a text and returns it with the rest. -/
abbrev Reader (β : Type) := List Char → Option (β × List Char)

/-- The number of arrays and objects that may stand inside each other. -/
def nestingLimit : Nat := 127

def isSpace (c : Char) : Bool := c = ' ' || c = '\t' || c = '\n' || c = '\r'

def skipSpace (cs : List Char) : List Char := cs.dropWhile isSpace

/-! ## Strings -/

def hexDigit? (c : Char) : Option Nat :=
  if '0' ≤ c ∧ c ≤ '9' then some (c.toNat - '0'.toNat)
  else if 'a' ≤ c ∧ c ≤ 'f' then some (c.toNat - 'a'.toNat + 10)
  else if 'A' ≤ c ∧ c ≤ 'F' then some (c.toNat - 'A'.toNat + 10)
  else none

/-- The number of four hexadecimal digits. -/
def hex4? (a b c d : Char) : Option Nat := do
  let a ← hexDigit? a
  let b ← hexDigit? b
  let c ← hexDigit? c
  let d ← hexDigit? d
  return ((a * 16 + b) * 16 + c) * 16 + d

/-- The character of an escape of one letter. -/
def shortEscape? : Char → Option Char
  | '"' => some '"'
  | '\\' => some '\\'
  | '/' => some '/'
  | 'b' => some '\x08'
  | 'f' => some '\x0c'
  | 'n' => some '\n'
  | 'r' => some '\r'
  | 't' => some '\t'
  | _ => none

def isHighSurrogate (u : Nat) : Bool := decide (0xD800 ≤ u ∧ u < 0xDC00)

def isLowSurrogate (u : Nat) : Bool := decide (0xDC00 ≤ u ∧ u < 0xE000)

/-- The character of a surrogate pair. -/
def pairChar (high low : Nat) : Char :=
  Char.ofNat (0x10000 + (high - 0xD800) * 0x400 + (low - 0xDC00))

/-- The rest of a string behind its opening quote. -/
def readString : Reader (List Char)
  | [] => none
  | '"' :: rest => some ([], rest)
  | '\\' :: 'u' :: a :: b :: c :: d :: rest =>
    match hex4? a b c d with
    | none => none
    | some unit =>
      if isHighSurrogate unit then
        match rest with
        | '\\' :: 'u' :: a' :: b' :: c' :: d' :: rest' =>
          match hex4? a' b' c' d' with
          | none => none
          | some unit' =>
            if isLowSurrogate unit' then
              (readString rest').map fun (cs, r) => (pairChar unit unit' :: cs, r)
            else none
        | _ => none
      else if isLowSurrogate unit then none
      else (readString rest).map fun (cs, r) => (Char.ofNat unit :: cs, r)
  | '\\' :: c :: rest =>
    match shortEscape? c with
    | none => none
    | some c' => (readString rest).map fun (cs, r) => (c' :: cs, r)
  | c :: rest =>
    if c.toNat < 0x20 ∨ c = '\\' then none
    else (readString rest).map fun (cs, r) => (c :: cs, r)

/-! ## Numbers -/

/-- One digit at least. -/
def readDigits : Reader (List Char) := fun cs =>
  let digits := cs.takeWhile Char.isDigit
  if digits.isEmpty then none else some (digits, cs.dropWhile Char.isDigit)

/-- Digits without a zero in front of others. -/
def readWhole : Reader (List Char)
  | '0' :: rest => if (rest.head?.any Char.isDigit) then none else some (['0'], rest)
  | cs => readDigits cs

/-- The digits behind a point, if there is one. -/
def readFraction : Reader (Option (List Char))
  | '.' :: rest => (readDigits rest).map fun (digits, r) => (some digits, r)
  | cs => some (none, cs)

def readExponentDigits (negative : Bool) : Reader (Option Int) := fun cs =>
  (readDigits cs).map fun (digits, r) =>
    let n : Int := Nat.ofDigitChars 10 digits 0
    (some (if negative then -n else n), r)

/-- The power of ten behind an `e`, if there is one. -/
def readExponent : Reader (Option Int)
  | 'e' :: '-' :: rest | 'E' :: '-' :: rest => readExponentDigits true rest
  | 'e' :: '+' :: rest | 'E' :: '+' :: rest => readExponentDigits false rest
  | 'e' :: rest | 'E' :: rest => readExponentDigits false rest
  | cs => some (none, cs)

/-- The number of digits by which a number is read, the zeros in front of them not counted. A
decimal in the middle of two neighbouring numbers has no more digits than these. -/
def significantDigits : Nat := 768

def isZero (c : Char) : Bool := c = '0'

/-- The digits that count: those from the first one that is not zero on, without the zeros that
end the places behind the point. -/
def countedDigits (whole places : List Char) : List Char :=
  (whole ++ (places.reverse.dropWhile isZero).reverse).dropWhile isZero

/-- The decimal of the digits before and behind a point, times a power of ten. Of the digits
after the significant ones only their presence is noted, by a one in the next place: whatever
they are, the zeros that end a whole part included, they lift the number above the decimal of
the digits before them. -/
def decimal (whole places : List Char) (exponent : Int) : Decimal :=
  let digits := countedDigits whole places
  if digits.length ≤ significantDigits then
    ⟨Nat.ofDigitChars 10 (whole ++ places) 0, exponent - places.length⟩
  else
    let counted : Int := (places.reverse.dropWhile isZero).length
    ⟨Nat.ofDigitChars 10 (digits.take significantDigits) 0 * 10 + 1,
      exponent - counted + (digits.length - significantDigits - 1 : Nat)⟩

theorem decimal_of_length_le {whole places : List Char} {exponent : Int}
    (h : whole.length + places.length ≤ significantDigits) :
    decimal whole places exponent =
      ⟨Nat.ofDigitChars 10 (whole ++ places) 0, exponent - places.length⟩ := by
  have h₁ := (places.reverse.dropWhile_sublist isZero).length_le
  have h₂ := ((whole ++ (places.reverse.dropWhile isZero).reverse).dropWhile_sublist
    isZero).length_le
  simp only [List.length_append, List.length_reverse] at h₁ h₂
  exact if_pos (by unfold countedDigits; omega)

/-- The datum of a number: an integer if it is written as one and fits into 64 bits, signed or
not, and else the nearest number. A negative zero is not an integer. -/
def numberDatum? (negative : Bool) (whole : List Char) (fraction : Option (List Char))
    (exponent : Option Int) : Option Datum :=
  let d := decimal whole (fraction.getD []) (exponent.getD 0)
  let isWhole := fraction.isNone && exponent.isNone
  if isWhole && !negative && d.coefficient < 2 ^ 64 then some (.integer d.coefficient)
  else if isWhole && negative && d.coefficient ≠ 0 && d.coefficient ≤ 2 ^ 63 then
    some (.integer (-d.coefficient))
  else if d.magnitude < Binary64.infiniteMagnitude then
    some (.number (.ofMagnitude negative d.magnitude))
  else none

def readUnsigned (negative : Bool) : Reader Datum := fun cs => do
  let (whole, cs) ← readWhole cs
  let (fraction, cs) ← readFraction cs
  let (exponent, cs) ← readExponent cs
  let d ← numberDatum? negative whole fraction exponent
  return (d, cs)

def readNumber : Reader Datum
  | '-' :: rest => readUnsigned true rest
  | cs => readUnsigned false cs

/-! ## Arrays and objects -/

/-- Items with commas between them, up to a closing bracket. The fuel bounds their number. -/
def readItems (item : Reader β) (closing : Char) : Nat → Reader (List β)
  | 0, _ => none
  | fuel + 1, cs =>
    match item cs with
    | none => none
    | some (d, rest) =>
      match skipSpace rest with
      | c :: rest =>
        if c = ',' then (readItems item closing fuel rest).map fun (ds, r) => (d :: ds, r)
        else if c = closing then some ([d], rest)
        else none
      | [] => none

/-- Items up to a closing bracket, which may stand at once. Every item takes a character, so the
length of the text is fuel enough. -/
def readSequence (item : Reader β) (closing : Char) : Reader (List β) := fun cs =>
  match skipSpace cs with
  | [] => none
  | c :: rest =>
    if c = closing then some ([], rest) else readItems item closing cs.length (c :: rest)

/-- A string, a colon and what `value` reads. -/
def readMember (value : Reader Datum) : Reader (Datum × Datum) := fun cs =>
  match skipSpace cs with
  | '"' :: rest =>
    match readString rest with
    | none => none
    | some (key, rest) =>
      match skipSpace rest with
      | ':' :: rest => (value rest).map fun (d, r) => ((.text (String.ofList key), d), r)
      | _ => none
  | _ => none

/-- A value, white space before it included, nested at most `depth` deep. -/
def readValue (depth : Nat) : Reader Datum := fun cs =>
  match skipSpace cs with
  | 'n' :: 'u' :: 'l' :: 'l' :: rest => some (.unit, rest)
  | 't' :: 'r' :: 'u' :: 'e' :: rest => some (.bool true, rest)
  | 'f' :: 'a' :: 'l' :: 's' :: 'e' :: rest => some (.bool false, rest)
  | '"' :: rest => (readString rest).map fun (s, r) => (.text (String.ofList s), r)
  | '[' :: rest =>
    match depth with
    | 0 => none
    | depth + 1 => (readSequence (readValue depth) ']' rest).map fun (ds, r) => (.list ds, r)
  | '\x7b' :: rest =>
    match depth with
    | 0 => none
    | depth + 1 =>
      (readSequence (readMember (readValue depth)) '\x7d' rest).map fun (es, r) => (.map es, r)
  | cs => readNumber cs

/-- The data that a JSON text stands for. -/
def read? (text : String) : Option Datum :=
  match readValue nestingLimit text.toList with
  | some (d, rest) => if (skipSpace rest).isEmpty then some d else none
  | none => none

end RuntimeContracts.Json
