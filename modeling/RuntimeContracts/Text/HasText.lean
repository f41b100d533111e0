/-!
# Values with a text

The text of a value is what a message about the value shows to its reader.
-/
namespace RuntimeContracts

/-- Types whose values have a text for messages. -/
class HasText (α : Type u) where
  text : α → String

end RuntimeContracts
