import RuntimeContracts.Contract.Error

/-!
# Expectations

Those who test guarded code say what they expect of a clause: that it is kept, or that it is
violated, at a certain value perhaps. Where it turns out otherwise, the message says what
happened instead.

* `expectKept`, `expectViolated`: the two expectations.
* `Unmet.message`: what is said about an expectation that was not met.
-/
namespace RuntimeContracts

/-- How an expectation failed. -/
inductive Unmet where
  /-- The clause should have been kept. -/
  | notKept (error : ContractError)
  /-- The clause should have been violated, but there was an error of another kind. -/
  | notViolated (error : ContractError)
  /-- The clause should have been violated, but was kept. -/
  | kept
  /-- Another value than the expected one failed. -/
  | wrongIndex (violation : Violation) (expected : Nat)
deriving DecidableEq

def Unmet.message : Unmet → String
  | notKept error => "Expected clause to pass, got: " ++ error.message
  | notViolated error => "Expected contract violation, got: " ++ error.message
  | kept => "Expected contract violation, clause passed"
  | wrongIndex violation expected =>
    "assertion `left == right` failed: violation reported at the wrong index: " ++
      violation.message ++ "\n  left: " ++ Nat.repr violation.index ++
      "\n right: " ++ Nat.repr expected

/-- The outcome is no error. -/
def expectKept : Except ContractError β → Except Unmet Unit
  | .ok _ => .ok ()
  | .error e => .error (.notKept e)

/-- The outcome is a violation, by the value at `index` if one is given. -/
def expectViolated (index : Option Nat) : Except ContractError β → Except Unmet Unit
  | .error (.violated v) =>
    match index with
    | none => .ok ()
    | some expected => if v.index = expected then .ok () else .error (.wrongIndex v expected)
  | .error e => .error (.notViolated e)
  | .ok _ => .error .kept

end RuntimeContracts
