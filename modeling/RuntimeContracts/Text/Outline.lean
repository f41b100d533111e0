import RuntimeContracts.Text.Quoted

/-!
# Outlines

An outline shows how a value is built: its constructors, field names and items. It has two
renderings of the same content.

* `Outline.compact`: everything on one line.
* `Outline.expanded`: one item to a line, four spaces to a level, a comma after every item.
-/
namespace RuntimeContracts

/-- The structure of a value, for a reader who debugs. -/
inductive Outline where
  /-- A text shown as it is: a number, a quoted text, a constructor without fields. -/
  | atom (text : String)
  /-- A constructor with named fields. More fields than the listed ones exist if `more`. -/
  | record (name : String) (fields : List (String × Outline)) (more : Bool)
  /-- A constructor with unnamed fields. -/
  | tuple (name : String) (items : List Outline)
  | list (items : List Outline)
  | table (entries : List (String × Outline))
deriving Inhabited

/-- Types whose values have an outline. -/
class HasOutline (α : Type u) where
  outline : α → Outline

export HasOutline (outline)

namespace Outline

/-- A constructor without fields. -/
def unit (name : String) : Outline := .atom name

def ofBool (b : Bool) : Outline := .atom (if b then "true" else "false")

def ofNat (n : Nat) : Outline := .atom (Nat.repr n)

/-- A text between quotes. -/
def ofText (text : String) : Outline := .atom (Text.quoted text)

/-! ## On one line -/

mutual

/-- The outline on one line. -/
def compact : Outline → String
  | .atom text => text
  | .record name fields more =>
    let texts := compactFields fields ++ if more then [".."] else []
    name ++ " \x7b " ++ String.intercalate ", " texts ++ " \x7d"
  | .tuple name items => name ++ "(" ++ String.intercalate ", " (compactItems items) ++ ")"
  | .list items => "[" ++ String.intercalate ", " (compactItems items) ++ "]"
  | .table entries => "\x7b" ++ String.intercalate ", " (compactEntries entries) ++ "\x7d"

def compactItems : List Outline → List String
  | [] => []
  | item :: items => compact item :: compactItems items

def compactFields : List (String × Outline) → List String
  | [] => []
  | (name, field) :: fields => (name ++ ": " ++ compact field) :: compactFields fields

/-- The keys of a table are texts, so they are quoted. -/
def compactEntries : List (String × Outline) → List String
  | [] => []
  | (key, item) :: entries =>
    (Text.quoted key ++ ": " ++ compact item) :: compactEntries entries

end

/-! ## One item to a line -/

/-- The start of a line inside `depth` levels. -/
def margin (depth : Nat) : String := String.ofList (List.replicate (4 * depth) ' ')

/-- Items on lines of their own, each with a comma, between two brackets. -/
def block (depth : Nat) (opening closing : String) (items : List String) : String :=
  opening ++ "\n" ++ String.join (items.map fun item => margin (depth + 1) ++ item ++ "\n") ++
    margin depth ++ closing

/-- A block, or the bare brackets when there is nothing to put between them. -/
def blockOrEmpty (depth : Nat) (opening closing : String) (items : List String) : String :=
  if items.isEmpty then opening ++ closing else block depth opening closing items

mutual

/-- The outline on several lines, when its first line stands inside `depth` levels. -/
def expandedAt (depth : Nat) : Outline → String
  | .atom text => text
  | .record name fields more =>
    block depth (name ++ " \x7b") "\x7d"
      (expandedFields (depth + 1) fields ++ if more then [".."] else [])
  | .tuple name items => block depth (name ++ "(") ")" (expandedItems (depth + 1) items)
  | .list items => blockOrEmpty depth "[" "]" (expandedItems (depth + 1) items)
  | .table entries => blockOrEmpty depth "\x7b" "\x7d" (expandedEntries (depth + 1) entries)

def expandedItems (depth : Nat) : List Outline → List String
  | [] => []
  | item :: items => (expandedAt depth item ++ ",") :: expandedItems depth items

def expandedFields (depth : Nat) : List (String × Outline) → List String
  | [] => []
  | (name, field) :: fields =>
    (name ++ ": " ++ expandedAt depth field ++ ",") :: expandedFields depth fields

def expandedEntries (depth : Nat) : List (String × Outline) → List String
  | [] => []
  | (key, item) :: entries =>
    (Text.quoted key ++ ": " ++ expandedAt depth item ++ ",") :: expandedEntries depth entries

end

/-- The outline on several lines. -/
def expanded (o : Outline) : String := expandedAt 0 o

end Outline

end RuntimeContracts
