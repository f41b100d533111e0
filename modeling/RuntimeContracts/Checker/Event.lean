import RuntimeContracts.Contract.Error

/-!
# Events

Registration, the switch and violations are traced, so that an observer can follow a checker.

* `Event.ofRegistration`, `Event.ofClause`: the events that an outcome gives rise to.
-/
namespace RuntimeContracts

/-- Something an observer is told of. -/
inductive Event where
  /-- An assertion of this name was registered. -/
  | registered (name : String)
  /-- The registration of an assertion of this name was refused. -/
  | rejected (name : String) (error : ContractError)
  /-- Checking was switched off with this many assertions registered. -/
  | disabled (size : Nat)
  /-- A clause was not kept. -/
  | violated (violation : Violation)
deriving DecidableEq

/-- How much an event matters. -/
inductive Level where
  | debug
  | info
  | warn
deriving DecidableEq

def Level.name : Level → String
  | debug => "DEBUG"
  | info => "INFO"
  | warn => "WARN"

/-- What a field of an event holds. -/
inductive FieldValue where
  | text (s : String)
  | count (n : Nat)
deriving DecidableEq

namespace Event

def level : Event → Level
  | registered _ => .debug
  | rejected _ _ => .warn
  | disabled _ => .info
  | violated _ => .debug

def message : Event → String
  | registered _ => "registered assertion"
  | rejected _ _ => "assertion registration rejected"
  | disabled _ => "contract checking disabled"
  | violated _ => "contract violated"

/-- The fields of an event by name. -/
def fields : Event → List (String × FieldValue)
  | registered name => [("assertion", .text name)]
  | rejected name error => [("assertion", .text name), ("error", .text error.message)]
  | disabled size => [("registered", .count size)]
  | violated v =>
    [("clause", .text v.clause.keyword), ("index", .count v.index), ("value", .text v.value)]

/-- The event of a registration under a name, by its outcome. -/
def ofRegistration (name : String) : Except ContractError β → Event
  | .ok _ => registered name
  | .error e => rejected name e

/-- The events of a clause, by its outcome. A clause that is kept is not traced. -/
def ofClause : Except Violation β → List Event
  | .ok _ => []
  | .error v => [violated v]

end Event

end RuntimeContracts
