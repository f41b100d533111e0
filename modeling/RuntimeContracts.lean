import RuntimeContracts.Checker.Defaults
import RuntimeContracts.Checker.Expectation
import RuntimeContracts.Interchange.Json
import RuntimeContracts.Proofs.Clause.Chain
import RuntimeContracts.Proofs.Clause.Duality
import RuntimeContracts.Proofs.Clause.Evaluation
import RuntimeContracts.Proofs.Clause.Grouping
import RuntimeContracts.Proofs.Clause.Members
import RuntimeContracts.Proofs.Clause.Outcome
import RuntimeContracts.Proofs.Registry.History
import RuntimeContracts.Proofs.Session.Switch
import RuntimeContracts.Value.Conversion
import RuntimeContracts.Value.Equality
import RuntimeContracts.Value.Outline
import RuntimeContracts.Value.Text
import RuntimeContracts.Proofs.Message.Citation
import RuntimeContracts.Proofs.Message.Identity
import RuntimeContracts.Proofs.Session.OlderBatch
import RuntimeContracts.Proofs.Interchange.Grammar
import RuntimeContracts.Proofs.Json.Number
import RuntimeContracts.Proofs.Json.Canonical
import RuntimeContracts.Proofs.Json.Rereading
import RuntimeContracts.Proofs.Setup.Build
import RuntimeContracts.Proofs.Session.Start
import RuntimeContracts.Proofs.Session.Trace
import RuntimeContracts.Proofs.Session.Opposites
import RuntimeContracts.Proofs.Assertion.Reshaping
import RuntimeContracts.Proofs.Registry.Extension
import RuntimeContracts.Proofs.Test.Rewriting
import RuntimeContracts.Proofs.Value.Flattening
import RuntimeContracts.Proofs.Clause.EqualValues
