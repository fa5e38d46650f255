import SheetSchema.Error
import SheetSchema.Json.Printer

/-!
# Debug facts

A run collects facts about itself in a `Ledger`, keyed by name in the order of their first mention.
A run that ends with an error hands its facts on with it: a `Failure` is an error with facts.
Attaching a ledger to a failure adds the facts it lacks; facts that the failure already has stay
(`Failure.attach`). Only errors a caller can act on carry facts.
-/

namespace SheetSchema

/-- Facts of one run. -/
structure Ledger where
  facts : Entries Json := []
deriving DecidableEq, Inhabited

namespace Ledger

/-- Record a fact, in the place of an earlier one of that name. -/
def set (ledger : Ledger) (key : String) (value : Json) : Ledger := ⟨ledger.facts.put key value⟩

/-- Forget a fact. -/
def delete (ledger : Ledger) (key : String) : Ledger := ⟨ledger.facts.erase key⟩

/-- A fact, if recorded. -/
def get? (ledger : Ledger) (key : String) : Option Json := ledger.facts.get? key

/-- No fact is recorded. -/
def isEmpty (ledger : Ledger) : Bool := ledger.facts.isEmpty

/-- The facts as indented JSON text. -/
def toJsonText (ledger : Ledger) : String :=
  Json.render (.obj ledger.facts) ⟨some "  ", false⟩

/-- The facts in one line. -/
def summary (ledger : Ledger) : String := s!"DebugLedger({Json.display (.obj ledger.facts)})"

theorem get?_set_self (ledger : Ledger) (key : String) (value : Json) :
    (ledger.set key value).get? key = some value := Entries.get?_put_self _ _ _

theorem get?_set_of_ne (ledger : Ledger) {key other : String} (value : Json) (h : key ≠ other) :
    (ledger.set key value).get? other = ledger.get? other := Entries.get?_put_of_ne _ _ h

end Ledger

/-- An error with the facts collected up to it. -/
structure Failure where
  error : Error
  facts : Entries Json := []
deriving DecidableEq

namespace Failure

/-- Add the facts of `more` that the failure lacks, ahead of its own. -/
def attach (failure : Failure) (more : Entries Json) : Failure :=
  if failure.error.category.isDiagnosable then
    { failure with facts := Entries.putAll more failure.facts }
  else failure

end Failure

end SheetSchema
