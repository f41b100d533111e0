import RuntimeContracts.Interchange.Datum
import RuntimeContracts.Number.Rounding
import RuntimeContracts.Value.Basic

/-!
# Reading values from data

Most data has a value. Integers of 128 bits, bytes, wrapped data and variants have none, and a
key of a map has to be a text. Reading goes through the data in order, a key before its value,
and stops at the first piece that it cannot take.

* `Datum.toValue`: the value of a piece of data, or the first mismatch in it.
* `Datum.isOrdered_toValue`: every value that is read has the keys of its objects in order.
-/
namespace RuntimeContracts

/-- What reading looks for at some place. -/
inductive Wanted where
  | anyValue
  | key
deriving DecidableEq

def Wanted.description : Wanted → String
  | anyValue => "any value"
  | key => "a string"

/-- A piece of data that cannot stand where it stands. -/
inductive Mismatch where
  /-- The kind of data is a wrong one. -/
  | wrongType (found : Datum) (wanted : Wanted)
  /-- The kind of data would do, but not this piece of it: bytes that are no text. -/
  | wrongValue (found : Datum) (wanted : Wanted)

def Mismatch.message : Mismatch → String
  | wrongType found wanted =>
    "invalid type: " ++ found.description ++ ", expected " ++ wanted.description
  | wrongValue found wanted =>
    "invalid value: " ++ found.description ++ ", expected " ++ wanted.description

namespace Datum

/-- The key that a piece of data stands for. Bytes do when they are the bytes of a text. -/
def toKey (d : Datum) : Except Mismatch String :=
  match d with
  | char c => .ok (String.singleton c)
  | text s => .ok s
  | bytes data =>
    match String.fromUTF8? data with
    | some s => .ok s
    | none => .error (.wrongValue d .key)
  | _ => .error (.wrongType d .key)

mutual

/-- The value of a piece of data. -/
def toValue : Datum → Except Mismatch Value
  | unit | absent => .ok .null
  | present content => toValue content
  | bool b => .ok (.bool b)
  | integer n => .ok (.number (.ofInt n))
  | number x => .ok (.number x)
  | char c => .ok (.string (String.singleton c))
  | text s => .ok (.string s)
  | list items => do
    let values ← itemValues items
    return .array values
  | map entries => do
    let pairs ← entryPairs entries
    return .ofPairs pairs
  | wideInteger signed n => .error (.wrongType (wideInteger signed n) .anyValue)
  | bytes data => .error (.wrongType (bytes data) .anyValue)
  | wrapped content => .error (.wrongType (wrapped content) .anyValue)
  | variant name => .error (.wrongType (variant name) .anyValue)

def itemValues : List Datum → Except Mismatch (List Value)
  | [] => .ok []
  | d :: rest => do
    let v ← toValue d
    let values ← itemValues rest
    return v :: values

def entryPairs : List (Datum × Datum) → Except Mismatch (List (String × Value))
  | [] => .ok []
  | (k, d) :: rest => do
    let key ← toKey k
    let v ← toValue d
    let pairs ← entryPairs rest
    return (key, v) :: pairs

end

/-! ## Order of keys -/

/-- Reading that succeeds has succeeded step by step. -/
theorem exists_of_bind_eq_ok {x : Except Mismatch β} {f : β → Except Mismatch γ} {c : γ}
    (h : (x >>= f) = .ok c) : ∃ b, x = .ok b ∧ f b = .ok c := by
  cases x with
  | error m => cases h
  | ok b => exact ⟨b, rfl, h⟩

theorem exists_of_toValue_list {items : List Datum} {v : Value} (h : toValue (list items) = .ok v) :
    ∃ values, itemValues items = .ok values ∧ v = .array values := by
  rw [toValue] at h
  obtain ⟨values, hvalues, hv⟩ := exists_of_bind_eq_ok h
  exact ⟨values, hvalues, (Except.ok.inj hv).symm⟩

theorem exists_of_toValue_map {entries : List (Datum × Datum)} {v : Value}
    (h : toValue (map entries) = .ok v) :
    ∃ pairs, entryPairs entries = .ok pairs ∧ v = .ofPairs pairs := by
  rw [toValue] at h
  obtain ⟨pairs, hpairs, hv⟩ := exists_of_bind_eq_ok h
  exact ⟨pairs, hpairs, (Except.ok.inj hv).symm⟩

/-- What holds of every value that an item may be read as holds of the values of all items. -/
theorem forall_itemValues {p : Value → Prop} {items : List Datum} {values : List Value}
    (h : itemValues items = .ok values) (hp : ∀ d ∈ items, ∀ v, d.toValue = .ok v → p v) :
    ∀ v ∈ values, p v := by
  induction items generalizing values with
  | nil =>
    obtain rfl := Except.ok.inj h
    exact List.forall_mem_nil _
  | cons d rest ih =>
    obtain ⟨hd, hrest⟩ := List.forall_mem_cons.1 hp
    rw [itemValues] at h
    obtain ⟨v, hv, h⟩ := exists_of_bind_eq_ok h
    obtain ⟨tail, htail, h⟩ := exists_of_bind_eq_ok h
    obtain rfl := Except.ok.inj h
    exact List.forall_mem_cons.2 ⟨hd v hv, ih htail hrest⟩

theorem forall_entryPairs {p : Value → Prop} {entries : List (Datum × Datum)}
    {pairs : List (String × Value)} (h : entryPairs entries = .ok pairs)
    (hp : ∀ e ∈ entries, ∀ v, e.2.toValue = .ok v → p v) : ∀ pair ∈ pairs, p pair.2 := by
  induction entries generalizing pairs with
  | nil =>
    obtain rfl := Except.ok.inj h
    exact List.forall_mem_nil _
  | cons e rest ih =>
    obtain ⟨k, d⟩ := e
    obtain ⟨hd, hrest⟩ := List.forall_mem_cons.1 hp
    rw [entryPairs] at h
    obtain ⟨key, -, h⟩ := exists_of_bind_eq_ok h
    obtain ⟨v, hv, h⟩ := exists_of_bind_eq_ok h
    obtain ⟨tail, htail, h⟩ := exists_of_bind_eq_ok h
    obtain rfl := Except.ok.inj h
    exact List.forall_mem_cons.2 ⟨hd v hv, ih htail hrest⟩

/-- **Every value that is read has its keys in order**, in whatever order the data have them. -/
theorem isOrdered_toValue {d : Datum} {v : Value} (h : d.toValue = .ok v) : v.IsOrdered := by
  cases d with
  | unit | absent | bool | integer | number | char | text =>
    obtain rfl := Except.ok.inj h
    trivial
  | wideInteger | bytes | wrapped | variant => cases h
  | present content =>
    rw [toValue] at h
    exact isOrdered_toValue h
  | list items =>
    obtain ⟨values, hvalues, rfl⟩ := exists_of_toValue_list h
    exact Value.allOrdered_iff.2 (forall_itemValues hvalues fun d hd v hv => isOrdered_toValue hv)
  | map entries =>
    obtain ⟨pairs, hpairs, rfl⟩ := exists_of_toValue_map h
    exact Value.isOrdered_ofPairs (forall_entryPairs hpairs fun e he v hv => isOrdered_toValue hv)
termination_by d
decreasing_by
  · decreasing_tactic
  · decreasing_tactic
  · subst_vars
    have hentry := List.sizeOf_lt_of_mem he
    rw [Prod.mk.sizeOf_spec] at hentry
    rw [Datum.map.sizeOf_spec]
    omega

end Datum

end RuntimeContracts
