import Mathlib.Logic.Relation
import RuntimeContracts.Proofs.Value.Parts
import RuntimeContracts.Value.Text

/-!
# The text of nested arrays

The text of an array has one comma between every two neighbouring leaves, however the leaves are
nested, so that nesting does not show in it.

* `Value.leaves`: the texts that the text of an array is joined of.
* `Value.itemText_eq`: the text that an item gives is its leaves joined by commas.
* `Value.Unnests`: a nested array gives way to its items, or to null when it has none.
* `Value.Unnests.leaves_eq`: this keeps the leaves.
* `Value.text_array_flattened`: the text of an array is its leaves joined by commas, and the same
  after any number of nested arrays have given way.
-/

namespace RuntimeContracts.Value

/-! ## Leaves -/

mutual

/-- The texts of what is in the value and not an array, in order. What is absent and an array
without items have one empty text. -/
def leaves : Value → List String
  | undefined | null => [""]
  | array items => if items.isEmpty then [""] else itemLeaves items
  | bool b => [(bool b).text]
  | number x => [(number x).text]
  | string s => [(string s).text]
  | object entries => [(object entries).text]

def itemLeaves : List Value → List String
  | [] => []
  | v :: rest => leaves v ++ itemLeaves rest

end

theorem itemLeaves_eq (items : List Value) : itemLeaves items = items.flatMap leaves := by
  induction items with
  | nil => rfl
  | cons v rest ih => rw [itemLeaves, ih, List.flatMap_cons]

theorem leaves_array {items : List Value} (h : items ≠ []) :
    (array items).leaves = items.flatMap leaves := by
  rw [leaves, if_neg (by simpa using h), itemLeaves_eq]

theorem leaves_ne_nil (v : Value) : v.leaves ≠ [] := by
  induction v using nestedInduction with
  | undefined | null | bool | number | string | object => exact List.cons_ne_nil _ _
  | array items ih =>
    cases items with
    | nil => exact List.cons_ne_nil _ _
    | cons v rest =>
      rw [leaves_array (List.cons_ne_nil v rest), List.flatMap_cons]
      exact List.append_ne_nil_of_left_ne_nil (ih v List.mem_cons_self) _

/-! ## The text of an item -/

/-- The text that the value gives as an item of an array. -/
def itemText (v : Value) : String := if v.isPresent then v.text else ""

theorem itemTexts_eq (items : List Value) : itemTexts items = items.map itemText := by
  induction items with
  | nil => rfl
  | cons v rest ih => rw [itemTexts, ih, List.map_cons, itemText]

/-- Joining lists one by one and then the results is the same as joining all of them at once. It
takes that none of the lists is empty, as a list of no texts has no place between two separators. -/
theorem intercalate_flatMap {α : Type} (separator : String) (f : α → List String) {xs : List α}
    (h : ∀ x ∈ xs, f x ≠ []) :
    separator.intercalate (xs.flatMap f) =
      separator.intercalate (xs.map fun x => separator.intercalate (f x)) := by
  induction xs with
  | nil => rfl
  | cons x rest ih =>
    obtain ⟨hx, hrest⟩ := List.forall_mem_cons.1 h
    cases rest with
    | nil => simp
    | cons y rest =>
      have hne : (y :: rest).flatMap f ≠ [] := by
        rw [List.flatMap_cons]
        exact List.append_ne_nil_of_left_ne_nil (hrest y List.mem_cons_self) _
      rw [List.flatMap_cons, String.intercalate_append_of_ne_nil hx hne, ih hrest]
      exact String.intercalate_cons_cons.symm

/-- What is absent has an empty text among the items only, which is where its leaf is the text. -/
theorem itemText_eq (v : Value) : v.itemText = String.intercalate "," v.leaves := by
  induction v using nestedInduction with
  | undefined | null | bool | number | string | object =>
    exact String.intercalate_singleton.symm
  | array items ih =>
    have htext : (array items).itemText = String.intercalate "," (items.map itemText) := by
      rw [← itemTexts_eq]
      rfl
    -- Without items there is nothing to join, and one empty leaf.
    cases items with
    | nil => exact String.intercalate_singleton.symm
    | cons v rest =>
      rw [htext, leaves_array (List.cons_ne_nil v rest),
        intercalate_flatMap "," leaves fun w _ => leaves_ne_nil w]
      exact congrArg _ (List.map_congr_left ih)

theorem text_array_eq (items : List Value) :
    (array items).text = String.intercalate "," (array items).leaves :=
  itemText_eq (array items)

/-! ## Nested arrays that give way -/

/-- Somewhere in a value, at any depth, a nested array that has items gives way to them, or one
that has none gives way to null. -/
inductive Unnests : Value → Value → Prop
  | splice (before items after : List Value) (h : items ≠ []) :
    Unnests (array (before ++ array items :: after)) (array (before ++ items ++ after))
  | empty : Unnests (array []) null
  | item (before : List Value) {v w : Value} (after : List Value) (h : Unnests v w) :
    Unnests (array (before ++ v :: after)) (array (before ++ w :: after))
  | entry (before : Entries Value) (key : String) {v w : Value} (after : Entries Value)
    (h : Unnests v w) :
    Unnests (object (before ++ (key, v) :: after)) (object (before ++ (key, w) :: after))

/-- Nothing of an object but that it is one is in its text, so what gives way inside it does not
matter. -/
theorem Unnests.leaves_eq {v w : Value} (h : Unnests v w) : w.leaves = v.leaves := by
  induction h with
  | splice before items after h =>
    have hspliced : before ++ items ++ after ≠ [] := by simp [h]
    rw [leaves_array hspliced, leaves_array (by simp)]
    simp only [List.flatMap_append, List.flatMap_cons, leaves_array h, List.append_assoc]
  | empty => rfl
  | item before after _ ih =>
    rw [leaves_array (by simp), leaves_array (by simp)]
    simp only [List.flatMap_append, List.flatMap_cons, ih]
  | entry => rfl

theorem leaves_eq_of_reflTransGen {v w : Value} (h : Relation.ReflTransGen Unnests v w) :
    w.leaves = v.leaves := by
  induction h with
  | refl => rfl
  | tail _ hstep ih => exact hstep.leaves_eq.trans ih

/-- **The text of an array is the texts of its leaves with one comma between every two of them.** So
it stays the same when nested arrays give way to their items, or to null when they have none. -/
theorem text_array_flattened (items : List Value) :
    (array items).text = String.intercalate "," (array items).leaves ∧
      ∀ items', Relation.ReflTransGen Unnests (array items) (array items') →
        (array items').text = (array items).text := by
  refine ⟨text_array_eq items, fun items' h => ?_⟩
  rw [text_array_eq items, text_array_eq items', leaves_eq_of_reflTransGen h]

example :
    (array [array [array [], null], string "a", array [undefined, bool true]]).text = ",,a,,true" :=
  rfl

end RuntimeContracts.Value
