import RuntimeContracts.Contract.Violation

/-!
# Errors

What can go wrong is a mistake in the use of names, or a violation.

* `ContractError.message`: the text of an error.
-/
namespace RuntimeContracts

/-- Why an operation was refused or a clause failed. -/
inductive ContractError where
  /-- The name is registered already. -/
  | duplicateName (name : String)
  /-- The name is blank. -/
  | invalidName (name : String)
  /-- Nothing is registered under the name. -/
  | unknownAssertion (name : String)
  /-- A clause was not kept. -/
  | violated (violation : Violation)
deriving DecidableEq, Inhabited

namespace ContractError

def violation? : ContractError → Option Violation
  | violated v => some v
  | _ => none

def isViolation (e : ContractError) : Bool := e.violation?.isSome

/-- The error comes from the use of names, not from a value. -/
def isConfiguration (e : ContractError) : Bool := !e.isViolation

def message : ContractError → String
  | duplicateName name =>
    "cannot register assertion \"" ++ name ++
      "\" since an assertion with the same name already exists"
  | invalidName name => "cannot register assertion with invalid name " ++ Text.quoted name
  | unknownAssertion name => "no assertion registered under \"" ++ name ++ "\""
  | violated v => v.message

instance : HasOutline ContractError where
  outline
    | duplicateName name => .record "DuplicateName" [("name", .ofText name)] false
    | invalidName name => .record "InvalidName" [("name", .ofText name)] false
    | unknownAssertion name => .record "UnknownAssertion" [("name", .ofText name)] false
    | violated v => .tuple "Assertion" [outline v]

end ContractError

end RuntimeContracts
