import RuntimeContracts.Interchange.Json.Reader
import RuntimeContracts.Interchange.Json.Writer
import RuntimeContracts.Interchange.Reading

/-!
# Values in JSON

* `Value.toJson`: the JSON text of a value.
* `Value.ofJson?`: the value that a JSON text stands for.
* `Value.isOrdered_ofJson?`: its keys are in order, in whatever order the text has them.
-/
namespace RuntimeContracts.Value

/-- The JSON text of a value. -/
def toJson (v : Value) : String := Json.write v

/-- The value of a JSON text, if it is one. -/
def ofJson? (text : String) : Option Value :=
  (Json.read? text).bind fun d => d.toValue.toOption

theorem ofJson?_eq_some_iff {text : String} {v : Value} :
    ofJson? text = some v ↔ ∃ d, Json.read? text = some d ∧ d.toValue = .ok v := by
  have hoption (d : Datum) : d.toValue.toOption = some v ↔ d.toValue = .ok v := by
    cases d.toValue with
    | ok w => exact ⟨fun h => congrArg _ (Option.some.inj h), fun h => congrArg _ (Except.ok.inj h)⟩
    | error m => exact ⟨nofun, nofun⟩
  rw [ofJson?, Option.bind_eq_some_iff]
  exact exists_congr fun d => and_congr_right fun _ => hoption d

theorem isOrdered_ofJson? {text : String} {v : Value} (h : ofJson? text = some v) :
    v.IsOrdered := by
  obtain ⟨d, -, hd⟩ := ofJson?_eq_some_iff.1 h
  exact Datum.isOrdered_toValue hd

end RuntimeContracts.Value
