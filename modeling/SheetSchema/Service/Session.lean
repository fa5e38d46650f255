import SheetSchema.Files.Tree
import SheetSchema.Ledger
import SheetSchema.Log.Level
import SheetSchema.Service.Call

/-!
# Sessions

A `Session` is a computation that makes remote calls. It is a function of the service it talks to
and of a `World`: the state of that service, the calls made so far, the log, the facts of the
current run, and the files. A service is any function that answers calls and may change its state,
so a statement about every service is a statement about every behaviour of the remote side. A
session that fails keeps the world it has reached, the files among it; its `Failure` is an error
with facts.

`Session.recording` gives a run a ledger of its own, and hands the facts on if the run fails.
`Session.withFiles` gives it files of its own, and hands them on with its result.
-/

namespace SheetSchema

/-- A remote service with states in `σ`. -/
abbrev Service (σ : Type) := σ → Call → Reply × σ

/-- What a session works on. -/
structure World (σ : Type) where
  service : σ
  calls : List Call := []
  log : List LogRecord := []
  ledger : Ledger := {}
  files : FileTree := {}

/-- A computation that makes remote calls. -/
def Session (σ α : Type) := Service σ → World σ → Except Failure α × World σ

namespace Session

variable {σ α β : Type}

/-- Run a session. -/
def run (x : Session σ α) (service : Service σ) (w : World σ) : Except Failure α × World σ :=
  x service w

/-- Continue with the result, if there is one. -/
def andThen (x : Session σ α) (f : α → Session σ β) : Session σ β := fun service w =>
  match x service w with
  | (.ok a, w) => f a service w
  | (.error e, w) => (.error e, w)

instance : Monad (Session σ) where
  pure a := fun _ w => (.ok a, w)
  bind := andThen

/-- End with a failure. -/
def fail (failure : Failure) : Session σ α := fun _ w => (.error failure, w)

/-- End with an error. -/
def throw (error : Error) : Session σ α := fail ⟨error, []⟩

/-- The value, or the error. -/
def ofExcept : Except Error α → Session σ α
  | .ok a => pure a
  | .error e => throw e

/-- Continue after a failure. -/
def orElse (x : Session σ α) (f : Failure → Session σ α) : Session σ α := fun service w =>
  match x service w with
  | (.ok a, w) => (.ok a, w)
  | (.error e, w) => f e service w

/-- The outcome, be it a failure. -/
def attempt (x : Session σ α) : Session σ (Except Failure α) := fun service w =>
  match x service w with
  | (r, w) => (.ok r, w)

/-- Continue where a remote service has failed. -/
def onTransient (x : Session σ α) (f : Error → Session σ α) : Session σ α :=
  x.orElse fun failure =>
    if failure.error.category.isTransient then f failure.error else fail failure

/-- Make a call. -/
def call (c : Call) : Session σ Reply := fun service w =>
  match service w.service c with
  | (reply, s) => (.ok reply, { w with service := s, calls := w.calls ++ [c] })

/-- Add a line to the log. -/
def report (level : Level) (logger message : String) : Session σ Unit := fun _ w =>
  (.ok (), { w with log := w.log ++ [⟨level, logger, message⟩] })

/-- The facts of the current run. -/
def ledger : Session σ Ledger := fun _ w => (.ok w.ledger, w)

/-- Replace the facts of the current run. -/
def setLedger (l : Ledger) : Session σ Unit := fun _ w => (.ok (), { w with ledger := l })

/-- Record a fact. -/
def record (key : String) (value : Json) : Session σ Unit := fun _ w =>
  (.ok (), { w with ledger := w.ledger.set key value })

/-- Forget a fact. -/
def forget (key : String) : Session σ Unit := fun _ w =>
  (.ok (), { w with ledger := w.ledger.delete key })

/-- A run with a ledger of its own, whose facts a failure carries on. -/
def recording (x : Session σ α) : Session σ α := do
  setLedger {}
  x.orElse fun failure => do
    fail (failure.attach (← ledger).facts)

/-- The files. -/
def files : Session σ FileTree := fun _ w => (.ok w.files, w)

/-- Replace the files. -/
def setFiles (tree : FileTree) : Session σ Unit := fun _ w => (.ok (), { w with files := tree })

/-- Do work on the files. What it has written stays written, also if it fails. -/
def onFiles (work : FileWork α) : Session σ α := fun _ w =>
  match work.run w.files with
  | (.ok a, tree) => (.ok a, { w with files := tree })
  | (.error error, tree) => (.error ⟨error, []⟩, { w with files := tree })

/-- A run on a tree of its own, which is handed on with the result. -/
def withFiles (tree : FileTree) (x : Session σ α) : Session σ (α × FileTree) := do
  setFiles tree
  let a ← x
  return (a, ← files)

@[simp] theorem run_pure (a : α) (service : Service σ) (w : World σ) :
    (pure a : Session σ α).run service w = (.ok a, w) := rfl

theorem run_bind (x : Session σ α) (f : α → Session σ β) (service : Service σ) (w : World σ) :
    (x >>= f).run service w =
      match x.run service w with
      | (.ok a, w) => (f a).run service w
      | (.error e, w) => (.error e, w) := rfl

end Session

/-- Replies given one after the other; after the last, every call answers with an empty object. -/
def scripted : Service (List Reply)
  | [], _ => (.ok (.obj []), [])
  | reply :: rest, _ => (reply, rest)

end SheetSchema
