import RuntimeContracts.Value.Basic

/-!
# Equality of values

Two values are equal when they are built alike from equal leaves. Numbers are compared as
numbers, so a value that holds a NaN anywhere is not equal to itself.

* `Value.beq`: equality of values.
-/
namespace RuntimeContracts.Value

mutual

/-- Equality of values, on numbers as `Binary64.beq` has it. -/
def beq : Value → Value → Bool
  | undefined, undefined => true
  | null, null => true
  | bool a, bool b => a == b
  | number x, number y => Binary64.beq x y
  | string s, string t => s == t
  | array as, array bs => beqItems as bs
  | object as, object bs => beqEntries as bs
  | _, _ => false

def beqItems : List Value → List Value → Bool
  | [], [] => true
  | a :: as, b :: bs => beq a b && beqItems as bs
  | _, _ => false

def beqEntries : List (String × Value) → List (String × Value) → Bool
  | [], [] => true
  | (k, a) :: as, (l, b) :: bs => k == l && beq a b && beqEntries as bs
  | _, _ => false

end

instance : BEq Value := ⟨beq⟩

end RuntimeContracts.Value
