import RuntimeContracts.Number.Binary64
import RuntimeContracts.SortedMap

/-!
# Values

Contracts speak about values whose kind is known at run time only. A value is of one of seven
kinds, and arrays and objects hold values again.

* `Value.kind`: the kind of a value.
* `Value.isPresent`: neither null nor undefined.
* `Value.ofPairs`: an object of pairs, the last pair of a key winning.
* `Value.IsOrdered`: every object inside has its keys in ascending order. The functions that make
  objects keep to this, as `Value.isOrdered_ofPairs` says of pairs in any order.
-/
namespace RuntimeContracts

/-- The kinds of values. -/
inductive Kind where
  | undefined
  | null
  | boolean
  | number
  | string
  | array
  | object
deriving DecidableEq, Inhabited

/-- The name of a kind. -/
def Kind.name : Kind → String
  | undefined => "undefined"
  | null => "null"
  | boolean => "boolean"
  | number => "number"
  | string => "string"
  | array => "array"
  | object => "object"

/-- A value of a kind known at run time. -/
inductive Value where
  /-- Nothing was given. -/
  | undefined
  /-- The absence of a value was given. -/
  | null
  | bool (b : Bool)
  | number (x : Binary64)
  | string (s : String)
  | array (items : List Value)
  /-- The keys of an object ascend. -/
  | object (entries : List (String × Value))

namespace Value

instance : Inhabited Value := ⟨undefined⟩

def kind : Value → Kind
  | undefined => .undefined
  | null => .null
  | bool _ => .boolean
  | number _ => .number
  | string _ => .string
  | array _ => .array
  | object _ => .object

def isUndefined (v : Value) : Bool := v.kind = .undefined

def isNull (v : Value) : Bool := v.kind = .null

def isBoolean (v : Value) : Bool := v.kind = .boolean

/-- This includes what is not a number but of the kind of numbers. -/
def isNumber (v : Value) : Bool := v.kind = .number

def isString (v : Value) : Bool := v.kind = .string

def isArray (v : Value) : Bool := v.kind = .array

def isObject (v : Value) : Bool := v.kind = .object

/-- Neither null nor undefined. -/
def isPresent (v : Value) : Bool := !v.isUndefined && !v.isNull

def bool? : Value → Option Bool
  | bool b => some b
  | _ => none

def number? : Value → Option Binary64
  | number x => some x
  | _ => none

def string? : Value → Option String
  | string s => some s
  | _ => none

def items? : Value → Option (List Value)
  | array items => some items
  | _ => none

def entries? : Value → Option (Entries Value)
  | object entries => some entries
  | _ => none

/-- An object of pairs in any order. Of the pairs with one key the last is kept. -/
def ofPairs (pairs : List (String × Value)) : Value := object (Entries.ofPairs pairs)

/-! ## Order of keys -/

mutual

/-- Every object inside the value has its keys in ascending order. -/
def IsOrdered : Value → Prop
  | array items => AllOrdered items
  | object entries => Entries.Ascending entries ∧ EntriesOrdered entries
  | _ => True

def AllOrdered : List Value → Prop
  | [] => True
  | v :: rest => IsOrdered v ∧ AllOrdered rest

def EntriesOrdered : List (String × Value) → Prop
  | [] => True
  | (_, v) :: rest => IsOrdered v ∧ EntriesOrdered rest

end

theorem allOrdered_iff {items : List Value} : AllOrdered items ↔ ∀ v ∈ items, v.IsOrdered := by
  induction items with
  | nil => simp [AllOrdered]
  | cons v rest ih => simp [AllOrdered, ih]

theorem entriesOrdered_iff {entries : Entries Value} :
    EntriesOrdered entries ↔ ∀ e ∈ entries, e.2.IsOrdered := by
  induction entries with
  | nil => simp [EntriesOrdered]
  | cons e rest ih =>
    obtain ⟨k, v⟩ := e
    simp [EntriesOrdered, ih]

/-- An object of pairs in any order has its keys in order. -/
theorem isOrdered_ofPairs {pairs : List (String × Value)} (h : ∀ p ∈ pairs, p.2.IsOrdered) :
    (ofPairs pairs).IsOrdered :=
  ⟨Entries.ascending_ofPairs pairs,
    entriesOrdered_iff.2 fun e he => h e (Entries.mem_of_mem_ofPairs he)⟩

end Value

end RuntimeContracts
