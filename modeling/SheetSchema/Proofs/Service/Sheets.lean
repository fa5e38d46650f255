import Mathlib
import SheetSchema.Service.Sheets
import SheetSchema.Proofs.Grid.Change
import SheetSchema.Proofs.Refusal
import SheetSchema.Proofs.Service.Session

/-!
# What the calls of the spreadsheet service leave behind

Each way of asking the service makes its one call and changes nothing else, whatever comes back
(`Sheets.run_demand`). `World.after` is the world that a call leaves.

A call submits changes if its body lists one request for each of them, in order, that asks for it
(`Call.Submits`). This is said by what the requests are read as, and not by the way they are
written.
-/

namespace SheetSchema

variable {σ α : Type} {service : Service σ} {w w' : World σ}

/-- The world that a call leaves. -/
def World.after (w : World σ) (service : Service σ) (c : Call) : World σ :=
  { w with service := (service w.service c).2, calls := w.calls ++ [c] }

/-- The value that a reply holds, or the error that it means. -/
def Reply.outcome (failed : String → Error) : Reply → Except Error Json
  | .ok value => .ok value
  | .refused code message => .error (failed (refusalText code message))
  | .unreachable reason => .error (failed reason)
  | .unreadable reason => .error (.reported .badValue reason)
  | .broken error => .error error

theorem Reply.outcome_eq_ok_iff {failed : String → Error} {reply : Reply} {value : Json} :
    reply.outcome failed = .ok value ↔ reply = .ok value := by
  cases reply <;> simp [outcome]

namespace Sheets

/-- Asking the service makes one call and then goes by its reply. -/
theorem run_demand (c : Call) (failed : String → Error) (service : Service σ) (w : World σ) :
    (demand c failed).run service w =
      (Session.ofExcept ((service w.service c).1.outcome failed)).run service
        (w.after service c) := by
  rw [demand, Session.run_bind, Session.run_call]
  cases (service w.service c).1 <;> rfl

/-- An answer that is read goes by the reply as well. -/
theorem run_demand_bind (c : Call) (failed : String → Error) (read : Json → Except Error α)
    (service : Service σ) (w : World σ) :
    (demand c failed >>= fun data => Session.ofExcept (read data)).run service w =
      (Session.ofExcept ((service w.service c).1.outcome failed >>= read)).run service
        (w.after service c) := by
  rw [Session.run_bind, run_demand]
  cases (service w.service c).1.outcome failed <;> rfl

/-- Asking the service leaves the world after the call. -/
theorem world_demand {c : Call} {failed : String → Error} {r : Except Failure Json}
    (h : (demand c failed).run service w = (r, w')) : w' = w.after service c := by
  rw [run_demand] at h
  exact Session.world_ofExcept h

theorem world_demand_bind {c : Call} {failed : String → Error} {read : Json → Except Error α}
    {r : Except Failure α}
    (h : (demand c failed >>= fun data => Session.ofExcept (read data)).run service w = (r, w')) :
    w' = w.after service c := by
  rw [Session.run_bind] at h
  rcases hdemand : (demand c failed).run service w with ⟨e | data, w₁⟩
  · rw [hdemand] at h
    exact (Prod.mk.inj h).2 ▸ world_demand hdemand
  · rw [hdemand] at h
    exact (Session.world_ofExcept h).trans (world_demand hdemand)

theorem world_metadata {spreadsheet : Json} {r : Except Failure Metadata}
    (h : (metadata spreadsheet).run service w = (r, w')) :
    w' = w.after service (.metadata spreadsheet) :=
  world_demand_bind h

theorem world_values {spreadsheet range : Json} {r : Except Failure Json}
    (h : (values spreadsheet range).run service w = (r, w')) :
    w' = w.after service (.values spreadsheet range) :=
  world_demand_bind h

/-- A description that is read comes from a reply that holds it. -/
theorem run_metadata_eq_ok_iff {spreadsheet : Json} {m : Metadata} :
    (metadata spreadsheet).run service w = (.ok m, w') ↔
      (∃ data, (service w.service (.metadata spreadsheet)).1 = .ok data ∧
        Metadata.ofJson spreadsheet data = .ok m) ∧
      w' = w.after service (.metadata spreadsheet) := by
  rw [metadata, Session.run_bind_eq_ok_iff]
  constructor
  · rintro ⟨data, w₁, h, hread⟩
    rw [run_demand, Session.run_ofExcept_eq_ok_iff, Reply.outcome_eq_ok_iff] at h
    obtain ⟨hreply, rfl⟩ := h
    obtain ⟨hm, rfl⟩ := Session.run_ofExcept_eq_ok_iff.mp hread
    exact ⟨⟨data, hreply, hm⟩, rfl⟩
  · rintro ⟨⟨data, hreply, hm⟩, rfl⟩
    refine ⟨data, w.after service (.metadata spreadsheet), ?_,
      Session.run_ofExcept_eq_ok_iff.mpr ⟨hm, rfl⟩⟩
    rw [run_demand, Session.run_ofExcept_eq_ok_iff, Reply.outcome_eq_ok_iff]
    exact ⟨hreply, rfl⟩

/-- Changes are applied by one call, if there are any. -/
theorem run_batchUpdate {changes : List Change} (h : changes ≠ []) (spreadsheet : Json)
    (service : Service σ) (w : World σ) :
    (batchUpdate spreadsheet changes).run service w =
      (Session.ofExcept ((service w.service (.batchUpdate spreadsheet (requests changes))).1.outcome
        (.batchUpdateFailed changes.length spreadsheet.text))).run service
        (w.after service (.batchUpdate spreadsheet (requests changes))) := by
  rw [batchUpdate, if_neg (by simpa using h), run_demand]

/-! ## Asking apart from the files -/

theorem ignoresFiles_demand (c : Call) (failed : String → Error) :
    Session.IgnoresFiles (demand c failed : Session σ Json) := by
  refine (Session.IgnoresFiles.call c).bind fun reply => ?_
  cases reply with
  | ok value => exact .pure value
  | _ => exact .throw _

theorem ignoresFiles_metadata (spreadsheet : Json) :
    Session.IgnoresFiles (metadata spreadsheet : Session σ Metadata) :=
  (ignoresFiles_demand _ _).bind fun _ => .ofExcept _

theorem ignoresFiles_batchUpdate (spreadsheet : Json) (changes : List Change) :
    Session.IgnoresFiles (batchUpdate spreadsheet changes : Session σ Json) := by
  rw [batchUpdate]
  split
  · exact .pure _
  · exact ignoresFiles_demand _ _

end Sheets

/-! ## What a batch asks for -/

/-- The call submits the changes to a spreadsheet: the requests in its body ask for them one by one
and in order, and for nothing else. -/
def Call.Submits (c : Call) (spreadsheet : Json) (changes : List Change) : Prop :=
  ∃ asked, c = .batchUpdate spreadsheet (.arr asked) ∧
    c.body.at? ["requests"] = some (.arr asked) ∧ List.Forall₂ Change.AskedBy changes asked

/-- The call of a batch submits its changes. -/
theorem submits_batchUpdate (spreadsheet : Json) (changes : List Change) :
    (Call.batchUpdate spreadsheet (requests changes)).Submits spreadsheet changes :=
  ⟨_, rfl, rfl, Change.forall₂_askedBy_toRequest changes⟩

end SheetSchema
