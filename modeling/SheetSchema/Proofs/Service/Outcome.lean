import Mathlib
import SheetSchema.Proofs.Refusal
import SheetSchema.Proofs.Service.Sheets

/-!
# How a session ends

`Session.Ends` says of a session in what it ends: in a result and a world, or in a failure and a
world. Each way to put sessions together has a rule that tells what is left to show of its parts
(`Session.ends_bind`, `Session.ends_recording`), so a session is gone through step by step.

A failed call of a remote service is an error of its own kind (`Reply.fails`), and no check of a
value makes such an error (`NeverRemote`). So what a reply means is a failure of the service exactly
if the reply is one (`Reply.isTransient_iff_fails`).

The `exchange` of some calls lists them with their replies.
-/

namespace SheetSchema

variable {σ α β : Type}

/-- An error without facts takes those of its run along, if it can carry any. -/
theorem Failure.attach_nil (error : Error) (more : Entries Json) :
    Failure.attach ⟨error, []⟩ more =
      ⟨error, if error.category.isDiagnosable then more else []⟩ := by
  rw [Failure.attach]
  split <;> rfl

/-! ## Rules -/

namespace Session

variable {service : Service σ} {w : World σ} {ok : α → World σ → Prop}
  {failed : Failure → World σ → Prop}

/-- The session ends in a result and a world of which `ok` holds, or in a failure and a world of
which `failed` holds. -/
def Ends (x : Session σ α) (service : Service σ) (w : World σ) (ok : α → World σ → Prop)
    (failed : Failure → World σ → Prop) : Prop :=
  (∀ a w', x.run service w = (.ok a, w') → ok a w') ∧
    ∀ failure w', x.run service w = (.error failure, w') → failed failure w'

theorem ends_iff_of_run_eq {x y : Session σ α} {w' : World σ}
    (h : x.run service w = y.run service w') :
    Ends x service w ok failed ↔ Ends y service w' ok failed := by
  rw [Ends, Ends, h]

theorem ends_iff_of_run_ok {x : Session σ α} {a : α} {w' : World σ}
    (h : x.run service w = (.ok a, w')) : Ends x service w ok failed ↔ ok a w' := by
  simp [Ends, h]

theorem ends_iff_of_run_error {x : Session σ α} {failure : Failure} {w' : World σ}
    (h : x.run service w = (.error failure, w')) :
    Ends x service w ok failed ↔ failed failure w' := by
  simp [Ends, h]

/-- What holds of every end holds of the run. -/
theorem Ends.run {x : Session σ α} {P : Except Failure α → World σ → Prop}
    (h : Ends x service w (fun a => P (.ok a)) fun failure => P (.error failure)) :
    P (x.run service w).1 (x.run service w).2 := by
  rcases hrun : x.run service w with ⟨failure | a, w'⟩
  · exact h.2 failure w' hrun
  · exact h.1 a w' hrun

theorem ends_ok (a : α) : Ends (ofExcept (.ok a)) service w ok failed ↔ ok a w :=
  ends_iff_of_run_ok rfl

theorem ends_error (error : Error) :
    Ends (ofExcept (.error error)) service w ok failed ↔ failed ⟨error, []⟩ w :=
  ends_iff_of_run_error rfl

theorem ends_pure (a : α) : Ends (pure a) service w ok failed ↔ ok a w := ends_iff_of_run_ok rfl

theorem ends_record {ok : Unit → World σ → Prop} (key : String) (value : Json) :
    Ends (record key value) service w ok failed ↔
      ok () { w with ledger := w.ledger.set key value } := ends_iff_of_run_ok rfl

theorem ends_ledger {ok : Ledger → World σ → Prop} :
    Ends ledger service w ok failed ↔ ok w.ledger w := ends_iff_of_run_ok rfl

/-- A chain goes on with the result of its first session. -/
theorem ends_bind {x : Session σ α} {f : α → Session σ β} {ok : β → World σ → Prop} :
    Ends (x >>= f) service w ok failed ↔
      Ends x service w (fun a w' => Ends (f a) service w' ok failed) failed := by
  rcases hrun : x.run service w with ⟨failure | a, w'⟩
  · have hbind : (x >>= f).run service w = (.error failure, w') := by rw [run_bind, hrun]
    rw [ends_iff_of_run_error hrun, ends_iff_of_run_error hbind]
  · rw [ends_iff_of_run_ok hrun, ends_iff_of_run_eq (run_bind_of_ok hrun)]

/-- A run with a ledger of its own starts with an empty one, and a failure takes it along. -/
theorem ends_recording {x : Session σ α} : Ends (recording x) service w ok failed ↔
    Ends x service { w with ledger := {} } ok fun failure w' =>
      failed (failure.attach w'.ledger.facts) w' := by
  have hset : (setLedger {} : Session σ Unit).run service w =
      (.ok (), { w with ledger := {} }) := rfl
  rw [recording, ends_iff_of_run_eq (run_bind_of_ok hset)]
  rcases hrun : x.run service { w with ledger := {} } with ⟨failure | a, w'⟩
  · rw [ends_iff_of_run_error hrun]
    exact ends_iff_of_run_error (by rw [run_orElse, hrun]; rfl)
  · rw [ends_iff_of_run_ok hrun]
    exact ends_iff_of_run_ok (by rw [run_orElse, hrun])

/-! ## Going on without a service -/

variable {x : Session σ α} {e : Except Error α} {w' : World σ}

theorem run_onTransient_of_ok {f : Error → Session σ α} {a : α}
    (h : x.run service w = (ofExcept (.ok a)).run service w') :
    (x.onTransient f).run service w = (.ok a, w') := by
  rw [onTransient, run_orElse, h]
  rfl

theorem run_onTransient_of_error {f : Error → Session σ α} {error : Error}
    (h : x.run service w = (ofExcept (.error error)).run service w') :
    (x.onTransient f).run service w =
      (if error.category.isTransient then f error else throw error).run service w' := by
  rw [onTransient, run_orElse, h]
  simp only [ofExcept, run_throw]
  split <;> rfl

/-- A chain stops where its first session does. -/
theorem run_bind_of_error {f : α → Session σ β} {failure : Failure}
    (h : x.run service w = (.error failure, w')) :
    (x >>= f).run service w = (.error failure, w') := by
  rw [run_bind, h]

/-- A failure takes the facts of its run along. -/
theorem run_recording_of_error {error : Error}
    (h : x.run service { w with ledger := {} } = (ofExcept (.error error)).run service w') :
    (recording x).run service w = (.error (Failure.attach ⟨error, []⟩ w'.ledger.facts), w') := by
  have hset : (setLedger {} : Session σ Unit).run service w =
      (.ok (), { w with ledger := {} }) := rfl
  rw [recording, run_bind_of_ok hset, run_orElse, h]
  rfl

theorem run_map_of_run (h : x.run service w = (ofExcept e).run service w') (f : α → β) :
    (x >>= fun a => pure (f a)).run service w = (ofExcept (e.map f)).run service w' := by
  rw [run_bind, h]
  cases e <;> rfl

end Session

/-! ## Refusals that are no failure of a service -/

/-- The computation does not refuse because of a remote service. -/
def NeverRemote (x : Except Error α) : Prop :=
  ∀ error, x = .error error → error.category.isTransient = false

namespace NeverRemote

theorem ok (a : α) : NeverRemote (.ok a) := fun _ h => nomatch h

theorem pure (a : α) : NeverRemote (pure a : Except Error α) := ok a

theorem error {e : Error} (h : e.category.isTransient = false) :
    NeverRemote (.error e : Except Error α) := fun _ he => Except.error.inj he ▸ h

theorem bind {x : Except Error α} {f : α → Except Error β} (hx : NeverRemote x)
    (hf : ∀ a, NeverRemote (f a)) : NeverRemote (x >>= f) := by
  cases x with
  | ok a => exact hf a
  | error e => exact error (hx e rfl)

theorem map {x : Except Error α} (h : NeverRemote x) (f : α → β) : NeverRemote (x.map f) := by
  cases x with
  | ok a => exact ok _
  | error e => exact error (h e rfl)

theorem mapM {read : α → Except Error β} (h : ∀ a, NeverRemote (read a)) (items : List α) :
    NeverRemote (items.mapM read) := by
  induction items with
  | nil => exact pure _
  | cons a items ih =>
    rw [List.mapM_cons]
    exact (h a).bind fun _ => ih.bind fun _ => pure _

theorem member (value : Json) (key : String) : NeverRemote (value.member key) := by
  cases value with
  | obj entries => exact ok _
  | _ => exact error rfl

theorem memberD (value : Json) (key : String) (default : Json) :
    NeverRemote (value.memberD key default) := (member value key).map _

theorem elements (value : Json) : NeverRemote value.elements := by
  cases value <;> first | exact ok _ | exact error rfl

theorem sequence (value : Json) : NeverRemote value.sequence := by
  rw [Json.sequence.eq_def]
  split <;> first | exact ok _ | exact error rfl

theorem asString (value : Json) : NeverRemote value.asString := by
  cases value <;> first | exact ok _ | exact error rfl

end NeverRemote

/-! ## Replies -/

namespace Reply

/-- The call has failed: the service refused, or the call did not get through. -/
def fails : Reply → Bool
  | .refused .. | .unreachable _ => true
  | .broken error => error.category.isTransient
  | .ok _ | .unreadable _ => false

variable {failed : String → Error} {read : Json → Except Error α} {reply : Reply}

/-- What a reply means is a failure of the service if and only if the reply is one. -/
theorem isTransient_eq_fails (hfailed : ∀ reason, (failed reason).category.isTransient = true)
    (hread : ∀ data, NeverRemote (read data)) {error : Error}
    (h : reply.outcome failed >>= read = .error error) :
    error.category.isTransient = reply.fails := by
  cases reply with
  | ok value => exact hread value error h
  | unreadable reason =>
    rw [← Except.error.inj h]
    rfl
  | broken e => exact congrArg (·.category.isTransient) (Except.error.inj h).symm
  | refused code message =>
    rw [← Except.error.inj h]
    exact hfailed _
  | unreachable reason =>
    rw [← Except.error.inj h]
    exact hfailed _

theorem fails_eq_false_of_ok {a : α} (h : reply.outcome failed >>= read = .ok a) :
    reply.fails = false := by
  obtain ⟨data, hdata, -⟩ := bind_eq_ok.mp h
  rw [outcome_eq_ok_iff.mp hdata]
  rfl

theorem exists_error_of_fails (h : reply.fails = true) :
    ∃ error, reply.outcome failed >>= read = .error error := by
  cases reply with
  | ok value => cases h
  | unreadable reason => cases h
  | _ => exact ⟨_, rfl⟩

end Reply

/-! ## Calls with their replies -/

/-- The calls, made one after the other, with their replies. -/
def exchange (service : Service σ) : σ → List Call → List (Call × Reply)
  | _, [] => []
  | s, c :: calls => (c, (service s c).1) :: exchange service (service s c).2 calls

/-- The world that some calls leave. -/
def World.afterAll (w : World σ) (service : Service σ) (calls : List Call) : World σ :=
  calls.foldl (fun w c => w.after service c) w

/-- The call changes a spreadsheet. -/
def Call.writes : Call → Bool
  | .append .. | .batchUpdate .. => true
  | .metadata _ | .values .. | .batchValues .. | .post .. => false

/-- The call at a position of the exchange has failed. -/
def failsAt (e : List (Call × Reply)) (position : Nat) : Bool :=
  e[position]?.any fun (_, reply) => reply.fails

variable {service : Service σ}

theorem World.afterAll_append (w : World σ) (calls more : List Call) :
    w.afterAll service (calls ++ more) = (w.afterAll service calls).afterAll service more :=
  List.foldl_append ..

theorem World.calls_afterAll (w : World σ) (calls : List Call) :
    (w.afterAll service calls).calls = w.calls ++ calls := by
  induction calls generalizing w with
  | nil => exact (List.append_nil _).symm
  | cons c calls ih =>
    rw [afterAll, List.foldl_cons, ← afterAll, ih, after, List.append_assoc, List.singleton_append]

theorem exchange_append (w : World σ) (calls more : List Call) :
    exchange service w.service (calls ++ more) = exchange service w.service calls ++
      exchange service (w.afterAll service calls).service more := by
  induction calls generalizing w with
  | nil => rfl
  | cons c calls ih => exact congrArg (_ :: ·) (ih (w.after service c))

theorem map_fst_exchange (service : Service σ) (s : σ) (calls : List Call) :
    (exchange service s calls).map Prod.fst = calls := by
  induction calls generalizing s with
  | nil => rfl
  | cons c calls ih => rw [exchange, List.map_cons, ih]

/-- The first reply is the one in the state at the start. -/
theorem eq_of_head?_exchange {s : σ} {calls : List Call} {c : Call} {reply : Reply}
    (h : (exchange service s calls).head? = some (c, reply)) : reply = (service s c).1 := by
  cases calls with
  | nil => cases h
  | cons _ _ =>
    cases h
    rfl

/-- Calls go the same way in worlds with the same remote side. -/
theorem World.SameRemote.afterAll {w w' : World σ} (h : World.SameRemote w w')
    (calls : List Call) : World.SameRemote (w.afterAll service calls)
      (w'.afterAll service calls) := by
  induction calls generalizing w w' with
  | nil => exact h
  | cons c calls ih =>
    exact ih ⟨congrArg (· ++ [c]) h.1, congrArg (fun s => (service s c).2) h.2⟩

end SheetSchema
