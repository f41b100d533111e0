import RuntimeContracts.Number.Rounding
import RuntimeContracts.Value.Basic

/-!
# Making values

Plain data becomes a value in one way each. Integers of every width become the nearest number,
an absent option becomes null, and only the empty type of one element becomes undefined.

* `ToValue`: the types whose elements become values.
* `isOrdered_toValue_list`, `isOrdered_toValue_map`: keys stay in the order that maps have them in.
-/
namespace RuntimeContracts

/-- Types whose elements become values. -/
class ToValue (α : Type u) where
  toValue : α → Value

export ToValue (toValue)

instance : ToValue Value := ⟨id⟩

instance : ToValue Unit := ⟨fun _ => .undefined⟩

instance : ToValue Bool := ⟨.bool⟩

instance : ToValue Binary64 := ⟨.number⟩

instance : ToValue Int := ⟨fun n => .number (.ofInt n)⟩

instance : ToValue String := ⟨.string⟩

instance : ToValue Char := ⟨fun c => .string (String.singleton c)⟩

instance [ToValue α] : ToValue (Option α) := ⟨fun | some a => toValue a | none => .null⟩

instance [ToValue α] : ToValue (List α) := ⟨fun items => .array (items.map toValue)⟩

instance [ToValue α] : ToValue (SortedMap α) :=
  ⟨fun map => .object (map.entries.map fun e => (e.1, toValue e.2))⟩

theorem isOrdered_toValue_list [ToValue α] {items : List α}
    (h : ∀ a ∈ items, (toValue a).IsOrdered) : (toValue items).IsOrdered :=
  Value.allOrdered_iff.2 (List.forall_mem_map.2 h)

theorem isOrdered_toValue_map [ToValue α] {map : SortedMap α}
    (h : ∀ e ∈ map.entries, (toValue e.2).IsOrdered) : (toValue map).IsOrdered :=
  ⟨List.pairwise_map.2 map.ascending, Value.entriesOrdered_iff.2 (List.forall_mem_map.2 h)⟩

end RuntimeContracts
