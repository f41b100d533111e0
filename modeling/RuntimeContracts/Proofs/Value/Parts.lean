import RuntimeContracts.Value.Basic

/-!
# Parts of values

Arrays and objects hold values, and so a value has parts at every depth. What is to be shown of all
values is shown of the leaves, and of arrays and objects when it holds of what they hold.

* `Value.nestedInduction`: induction on the parts of a value.
* `Value.content`, `Value.PartOf`: what a value holds itself, and what stands in it at any depth.
-/
namespace RuntimeContracts.Value

/-- What holds of the leaves, and of a container once it holds of its content, holds of every
value. -/
@[elab_as_elim]
theorem nestedInduction {P : Value → Prop} (undefined : P undefined) (null : P null)
    (bool : ∀ b, P (bool b)) (number : ∀ x, P (number x)) (string : ∀ s, P (string s))
    (array : ∀ items, (∀ v ∈ items, P v) → P (array items))
    (object : ∀ entries : Entries Value, (∀ e ∈ entries, P e.2) → P (object entries))
    (v : Value) : P v :=
  @Value.rec P (fun items => ∀ v ∈ items, P v) (fun entries => ∀ e ∈ entries, P e.2)
    (fun e => P e.2) undefined null bool number string array object (List.forall_mem_nil _)
    (fun _ _ hv hrest => List.forall_mem_cons.2 ⟨hv, hrest⟩) (List.forall_mem_nil _)
    (fun _ _ he hrest => List.forall_mem_cons.2 ⟨he, hrest⟩) (fun _ _ hv => hv) v

/-- The values that a value holds itself. -/
def content : Value → List Value
  | array items => items
  | object entries => entries.map Prod.snd
  | _ => []

/-- A value stands somewhere in another one, or is that one. -/
inductive PartOf (w : Value) : Value → Prop
  | self : PartOf w w
  | inside {u v : Value} : u ∈ v.content → PartOf w u → PartOf w v

end RuntimeContracts.Value
