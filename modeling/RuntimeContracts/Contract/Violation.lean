import RuntimeContracts.Text.Blank
import RuntimeContracts.Text.Outline

/-!
# Violations

A violation reports a clause that a value did not keep: which clause it was, which value of the
batch failed and which assertions were asked of it.

* `Violation.citation`: how the assertions are listed.
* `Violation.message`: the report as a text.
-/
namespace RuntimeContracts

/-- The two ways to put assertions to a batch of values. -/
inductive Clause where
  /-- Every assertion has to hold for every value. -/
  | must
  /-- One of the assertions at least has to hold for every value. -/
  | either
deriving DecidableEq, Inhabited

/-- The word for a clause in messages. -/
def Clause.keyword : Clause → String
  | must => "must"
  | either => "either"

instance : HasOutline Clause where
  outline
    | .must => .unit "Must"
    | .either => .unit "Either"

/-- The report of a clause that was not kept. -/
structure Violation where
  clause : Clause
  /-- The place of the value in its batch, counted from zero. -/
  index : Nat
  /-- The text of the value. -/
  value : String
  /-- The display names of the assertions that the value failed. -/
  cited : List String
deriving DecidableEq, Inhabited

namespace Violation

/-- One line for each name, behind a tab and between quotes. -/
def citationLines (names : List String) : String :=
  String.join (names.map fun name => "\t\"" ++ name ++ "\"\n")

/-- The list of the assertions: none, a single one on the same line, or one to a line. -/
def citation (v : Violation) : String :=
  match v.cited with
  | [] => "no assertions"
  | [name] => "assertion \"" ++ name ++ "\""
  | names => Text.trimEnd ("assertions\n" ++ citationLines names)

/-- The report as a text. -/
def message (v : Violation) : String :=
  v.clause.keyword ++ "-clause failed to ensure state of variable with index " ++
    Nat.repr v.index ++ " [value: " ++ v.value ++ "] for " ++ v.citation

instance : HasOutline Violation where
  outline v := .record "AssertionFailure"
    [("clause", outline v.clause), ("index", .ofNat v.index), ("value", .ofText v.value),
      ("assertions", .list (v.cited.map .ofText))] false

end Violation

end RuntimeContracts
