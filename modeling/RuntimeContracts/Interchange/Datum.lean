import RuntimeContracts.Number.Layout
import RuntimeContracts.Text.Quoted

/-!
# Data in exchange

Formats exchange data in a common shape that is richer than the values of contracts: it tells
integers from other numbers, single characters from texts and a present option from its content.

* `Datum`: a piece of data as a format hands it over.
* `Datum.description`: how an error speaks of it.
-/
namespace RuntimeContracts

/-- A piece of data that a format hands over. -/
inductive Datum where
  | unit
  /-- An option without content. -/
  | absent
  /-- An option with content. -/
  | present (content : Datum)
  | bool (b : Bool)
  /-- An integer of at most 64 bits. -/
  | integer (n : Int)
  /-- An integer of 128 bits. -/
  | wideInteger (signed : Bool) (n : Int)
  | number (x : Binary64)
  | char (c : Char)
  | text (s : String)
  | bytes (data : ByteArray)
  /-- A structure around one piece of data. -/
  | wrapped (content : Datum)
  /-- One of several named alternatives. -/
  | variant (name : String)
  | list (items : List Datum)
  | map (entries : List (Datum × Datum))
deriving Inhabited

namespace Datum

/-- A number in a description has all its places and keeps its fraction. -/
def descriptionLayout : NumberLayout :=
  { tie := .up, positional := none, keepsFraction := true, signsExponent := false }

def numberDescription (x : Binary64) : String :=
  if x.isNaN then "NaN"
  else if x.isInfinite then if x.isNegative then "-inf" else "inf"
  else descriptionLayout.render x

/-- How an error speaks of a piece of data. Only small scalars are spelled out. -/
def description : Datum → String
  | unit => "unit value"
  | absent | present _ => "Option value"
  | bool b => "boolean `" ++ (if b then "true" else "false") ++ "`"
  | integer n => "integer `" ++ toString n ++ "`"
  | wideInteger signed n =>
    "integer `" ++ toString n ++ "` as " ++ if signed then "i128" else "u128"
  | number x => "floating point `" ++ numberDescription x ++ "`"
  | char c => "character `" ++ String.singleton c ++ "`"
  | text s => "string " ++ Text.quoted s
  | bytes _ => "byte array"
  | wrapped _ => "newtype struct"
  | variant _ => "enum"
  | list _ => "sequence"
  | map _ => "map"

end Datum

end RuntimeContracts
