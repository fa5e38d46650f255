import Mathlib
import SheetSchema.Service.Session
import SheetSchema.Proofs.Json.Access

/-!
# Runs of sessions

A chain of sessions succeeds if each of them does, in the world that the one before has reached
(`Session.run_bind_eq_ok_iff`), and fails where the first of them fails
(`Session.run_bind_eq_error_iff`). A session that continues after a failure can succeed in two ways
(`Session.run_onTransient_eq_ok_iff`).

`Session.Respects R` says that a session relates the world it starts in to the world it ends in,
whether it fails or not. For a relation that is reflexive and transitive this is kept by every way
to put sessions together, so it is enough to look at calls and records. Two such relations are of
use: calls and one fact stay (`World.Extends`), and no call is made (`World.SameRemote`).

`Session.IgnoresFiles` says that the files have no part in a session: on other files it does the
same, and leaves them as they are. It compares two runs, so it is no such relation, but it is kept
in the same way.
-/

namespace SheetSchema

variable {σ : Type}

namespace Session

variable {α β γ : Type} {service : Service σ} {w w' : World σ} {a : α} {b : β}
  {x : Session σ α} {f : α → Session σ β} {failure : Failure}

theorem exists_run_of_isOk (x : Session σ α) (service : Service σ) (w : World σ)
    (h : (x.run service w).1.isOk = true) : ∃ a w', x.run service w = (.ok a, w') := by
  rcases hrun : x.run service w with ⟨e | a, w'⟩
  · rw [hrun] at h
    cases h
  · exact ⟨a, w', rfl⟩

/-! ## Single steps -/

@[simp] theorem run_record (key : String) (value : Json) (service : Service σ) (w : World σ) :
    (record key value).run service w = (.ok (), { w with ledger := w.ledger.set key value }) := rfl

@[simp] theorem run_forget (key : String) (service : Service σ) (w : World σ) :
    (forget key).run service w = (.ok (), { w with ledger := w.ledger.delete key }) := rfl

@[simp] theorem run_report (level : Level) (logger message : String) (service : Service σ)
    (w : World σ) : (report level logger message).run service w =
      (.ok (), { w with log := w.log ++ [⟨level, logger, message⟩] }) := rfl

@[simp] theorem run_ledger (service : Service σ) (w : World σ) :
    (ledger : Session σ Ledger).run service w = (.ok w.ledger, w) := rfl

@[simp] theorem run_fail (failure : Failure) (service : Service σ) (w : World σ) :
    (fail failure : Session σ α).run service w = (.error failure, w) := rfl

@[simp] theorem run_throw (error : Error) (service : Service σ) (w : World σ) :
    (throw error : Session σ α).run service w = (.error ⟨error, []⟩, w) := rfl

theorem run_call (c : Call) (service : Service σ) (w : World σ) :
    (call c).run service w = (.ok (service w.service c).1,
      { w with service := (service w.service c).2, calls := w.calls ++ [c] }) := rfl

@[simp] theorem run_files (service : Service σ) (w : World σ) :
    (files : Session σ FileTree).run service w = (.ok w.files, w) := rfl

theorem run_ofExcept_eq_ok_iff {e : Except Error α} :
    (ofExcept e).run service w = (.ok a, w') ↔ e = .ok a ∧ w = w' := by
  cases e with
  | ok => simp [ofExcept]
  | error => simp [ofExcept]

theorem run_ofExcept_eq_error_iff {e : Except Error α} :
    (ofExcept e).run service w = (.error failure, w') ↔
      (∃ error, e = .error error ∧ failure = ⟨error, []⟩) ∧ w = w' := by
  cases e with
  | ok => simp [ofExcept]
  | error error => simp [ofExcept, eq_comm]

/-- Checking a value leaves the world as it is. -/
theorem world_ofExcept {e : Except Error α} {r : Except Failure α}
    (h : (ofExcept e).run service w = (r, w')) : w' = w := by
  cases e <;> exact (Prod.mk.inj h).2.symm

/-! ## Chains -/

theorem run_bind_eq_ok_iff : (x >>= f).run service w = (.ok b, w') ↔
    ∃ a w₁, x.run service w = (.ok a, w₁) ∧ (f a).run service w₁ = (.ok b, w') := by
  rw [run_bind]
  rcases x.run service w with ⟨a | a, w₁⟩ <;> simp

theorem run_bind_eq_error_iff : (x >>= f).run service w = (.error failure, w') ↔
    x.run service w = (.error failure, w') ∨
      ∃ a w₁, x.run service w = (.ok a, w₁) ∧ (f a).run service w₁ = (.error failure, w') := by
  rw [run_bind]
  rcases x.run service w with ⟨a | a, w₁⟩ <;> simp

theorem run_bind_of_ok {w₁ : World σ} (h : x.run service w = (.ok a, w₁)) :
    (x >>= f).run service w = (f a).run service w₁ := by
  rw [run_bind, h]

/-! ## After a failure -/

theorem run_orElse (x : Session σ α) (f : Failure → Session σ α) (service : Service σ)
    (w : World σ) : (x.orElse f).run service w =
      match x.run service w with
      | (.ok a, w) => (.ok a, w)
      | (.error e, w) => (f e).run service w := rfl

theorem run_orElse_eq_ok_iff {f : Failure → Session σ α} :
    (x.orElse f).run service w = (.ok a, w') ↔ x.run service w = (.ok a, w') ∨
      ∃ e w₁, x.run service w = (.error e, w₁) ∧ (f e).run service w₁ = (.ok a, w') := by
  rw [run_orElse]
  rcases x.run service w with ⟨a | a, w₁⟩ <;> simp

theorem run_onTransient_eq_ok_iff {f : Error → Session σ α} :
    (x.onTransient f).run service w = (.ok a, w') ↔ x.run service w = (.ok a, w') ∨
      ∃ e w₁, x.run service w = (.error e, w₁) ∧ (f e.error).run service w₁ = (.ok a, w') ∧
        e.error.category.isTransient = true := by
  rw [onTransient, run_orElse_eq_ok_iff]
  refine or_congr_right (exists_congr fun e => exists_congr fun w₁ => and_congr_right fun _ => ?_)
  split
  · next h => simp [h]
  · next h => simp [h]

/-- A run with a ledger of its own succeeds as the session does with an empty one. -/
theorem run_recording_eq_ok_iff : (recording x).run service w = (.ok a, w') ↔
    x.run service { w with ledger := {} } = (.ok a, w') := by
  have hset : (setLedger {} : Session σ Unit).run service w =
      (.ok (), { w with ledger := {} }) := rfl
  rw [recording, run_bind_of_ok hset, run_orElse_eq_ok_iff]
  refine or_iff_left ?_
  rintro ⟨e, w₁, -, h⟩
  rw [run_bind_of_ok (run_ledger service w₁), run_fail] at h
  cases h

/-- A run with a ledger of its own ends in the world that the session ends in with an empty one. -/
theorem world_recording (x : Session σ α) (service : Service σ) (w : World σ) :
    ((recording x).run service w).2 = (x.run service { w with ledger := {} }).2 := by
  have hset : (setLedger {} : Session σ Unit).run service w =
      (.ok (), { w with ledger := {} }) := rfl
  rw [recording, run_bind_of_ok hset, run_orElse]
  rcases x.run service { w with ledger := {} } with ⟨cause | a, w₁⟩
  · rfl
  · rfl

/-- A run with a ledger of its own fails where the session does with an empty one. -/
theorem exists_run_of_recording_eq_error
    (h : (recording x).run service w = (.error failure, w')) :
    ∃ cause, x.run service { w with ledger := {} } = (.error cause, w') := by
  have hset : (setLedger {} : Session σ Unit).run service w =
      (.ok (), { w with ledger := {} }) := rfl
  rw [recording, run_bind_of_ok hset, run_orElse] at h
  rcases hrun : x.run service { w with ledger := {} } with ⟨cause | a, w₁⟩
  · rw [hrun] at h
    obtain rfl : w₁ = w' := (Prod.mk.inj h).2
    exact ⟨cause, rfl⟩
  · rw [hrun] at h
    cases h

/-! ## Files of its own -/

variable {tree tree' : FileTree}

theorem run_withFiles (tree : FileTree) (x : Session σ α) (service : Service σ) (w : World σ) :
    (withFiles tree x).run service w =
      match x.run service { w with files := tree } with
      | (.ok a, w) => (.ok (a, w.files), w)
      | (.error e, w) => (.error e, w) := by
  have hset : (setFiles tree : Session σ Unit).run service w =
      (.ok (), { w with files := tree }) := rfl
  rw [withFiles, run_bind_of_ok hset, run_bind]
  rfl

theorem run_withFiles_eq_ok_iff : (withFiles tree x).run service w = (.ok (a, tree'), w') ↔
    x.run service { w with files := tree } = (.ok a, w') ∧ w'.files = tree' := by
  rw [run_withFiles]
  rcases x.run service { w with files := tree } with ⟨e | b, w₁⟩
  · simp
  · simp only [Prod.mk.injEq, Except.ok.injEq]
    constructor
    · rintro ⟨⟨rfl, rfl⟩, rfl⟩
      exact ⟨⟨rfl, rfl⟩, rfl⟩
    · rintro ⟨⟨rfl, rfl⟩, rfl⟩
      exact ⟨⟨rfl, rfl⟩, rfl⟩

theorem run_withFiles_eq_error_iff : (withFiles tree x).run service w = (.error failure, w') ↔
    x.run service { w with files := tree } = (.error failure, w') := by
  rw [run_withFiles]
  rcases x.run service { w with files := tree } with ⟨e | a, w₁⟩ <;> simp

/-- A run on a tree of its own ends in the world that the session ends in. -/
theorem world_withFiles (tree : FileTree) (x : Session σ α) (service : Service σ) (w : World σ) :
    ((withFiles tree x).run service w).2 = (x.run service { w with files := tree }).2 := by
  rw [run_withFiles]
  rcases x.run service { w with files := tree } with ⟨e | a, w₁⟩
  · rfl
  · rfl

/-! ## What a session does to its world -/

variable {R : World σ → World σ → Prop}

/-- The session relates the world it starts in to the world it ends in. -/
def Respects (R : World σ → World σ → Prop) (x : Session σ α) : Prop :=
  ∀ service w, R w (x.run service w).2

namespace Respects

theorem of_run (h : Respects R x) {r : Except Failure α} (hrun : x.run service w = (r, w')) :
    R w w' := by
  have := h service w
  rwa [hrun] at this

variable [IsPreorder (World σ) R]

theorem pure (a : α) : Respects R (pure a : Session σ α) := fun _ w => refl_of R w

theorem fail (failure : Failure) : Respects R (fail failure : Session σ α) :=
  fun _ w => refl_of R w

theorem throw (error : Error) : Respects R (throw error : Session σ α) := fail _

theorem ofExcept (e : Except Error α) : Respects R (ofExcept e : Session σ α) := by
  cases e with
  | ok a => exact pure a
  | error e => exact throw e

theorem bind (hx : Respects R x) (hf : ∀ a, Respects R (f a)) : Respects R (x >>= f) := by
  intro service w
  have h := hx service w
  rw [run_bind]
  rcases hrun : x.run service w with ⟨e | a, w₁⟩
  · rwa [hrun] at h
  · rw [hrun] at h
    exact trans_of R h (hf a service w₁)

theorem orElse (hx : Respects R x) {f : Failure → Session σ α} (hf : ∀ e, Respects R (f e)) :
    Respects R (x.orElse f) := by
  intro service w
  have h := hx service w
  rw [run_orElse]
  rcases hrun : x.run service w with ⟨e | a, w₁⟩
  · rw [hrun] at h
    exact trans_of R h (hf e service w₁)
  · rwa [hrun] at h

theorem onTransient (hx : Respects R x) {f : Error → Session σ α} (hf : ∀ e, Respects R (f e)) :
    Respects R (x.onTransient f) := by
  refine hx.orElse fun e => ?_
  split
  · exact hf _
  · exact fail _

end Respects

end Session

/-! ## Calls and facts that stay -/

/-- The calls that were made stay, and so does the fact `key`. -/
def World.Extends (key : String) (w w' : World σ) : Prop :=
  w.calls <+: w'.calls ∧ w'.ledger.get? key = w.ledger.get? key

instance (key : String) : IsPreorder (World σ) (World.Extends key) where
  refl _ := ⟨List.prefix_rfl, rfl⟩
  trans _ _ _ h h' := ⟨h.1.trans h'.1, h'.2.trans h.2⟩

/-- No call is made, so the service stays as it is. -/
def World.SameRemote (w w' : World σ) : Prop := w'.calls = w.calls ∧ w'.service = w.service

instance : IsPreorder (World σ) World.SameRemote where
  refl _ := ⟨rfl, rfl⟩
  trans _ _ _ h h' := ⟨h'.1.trans h.1, h'.2.trans h.2⟩

namespace Session.Respects

variable {key other : String}

theorem extends_call (c : Call) : Respects (World.Extends key) (call c : Session σ Reply) :=
  fun _ _ => ⟨List.prefix_append _ _, rfl⟩

theorem extends_report (level : Level) (logger message : String) :
    Respects (World.Extends key) (report level logger message : Session σ Unit) :=
  fun _ _ => ⟨List.prefix_rfl, rfl⟩

theorem extends_record (h : other ≠ key) (value : Json) :
    Respects (World.Extends key) (record other value : Session σ Unit) :=
  fun _ _ => ⟨List.prefix_rfl, Ledger.get?_set_of_ne _ _ h⟩

theorem extends_forget (h : other ≠ key) :
    Respects (World.Extends key) (forget other : Session σ Unit) :=
  fun _ _ => ⟨List.prefix_rfl, Entries.get?_erase_of_ne _ h⟩

theorem sameRemote_report (level : Level) (logger message : String) :
    Respects World.SameRemote (report level logger message : Session σ Unit) :=
  fun _ _ => ⟨rfl, rfl⟩

theorem sameRemote_record (key : String) (value : Json) :
    Respects World.SameRemote (record key value : Session σ Unit) := fun _ _ => ⟨rfl, rfl⟩

theorem sameRemote_files : Respects World.SameRemote (files : Session σ FileTree) :=
  fun _ _ => ⟨rfl, rfl⟩

theorem sameRemote_onFiles {α : Type} (work : FileWork α) :
    Respects World.SameRemote (onFiles work : Session σ α) := by
  intro service w
  rw [run, onFiles]
  rcases work.run w.files with ⟨error | a, tree⟩
  · exact ⟨rfl, rfl⟩
  · exact ⟨rfl, rfl⟩

end Session.Respects

/-! ## Sessions apart from the files -/

namespace Session

variable {α β : Type} {x : Session σ α} {f : α → Session σ β}

/-- On other files the session does the same, and it leaves them as they are. -/
def IgnoresFiles (x : Session σ α) : Prop :=
  ∀ service w tree, x.run service { w with files := tree } =
    ((x.run service w).1, { (x.run service w).2 with files := tree })

namespace IgnoresFiles

theorem pure (a : α) : IgnoresFiles (pure a : Session σ α) := fun _ _ _ => rfl

theorem throw (error : Error) : IgnoresFiles (throw error : Session σ α) := fun _ _ _ => rfl

theorem ofExcept (e : Except Error α) : IgnoresFiles (ofExcept e : Session σ α) := by
  cases e with
  | ok a => exact pure a
  | error e => exact throw e

theorem call (c : Call) : IgnoresFiles (call c : Session σ Reply) := fun _ _ _ => rfl

theorem record (key : String) (value : Json) :
    IgnoresFiles (record key value : Session σ Unit) := fun _ _ _ => rfl

theorem bind (hx : IgnoresFiles x) (hf : ∀ a, IgnoresFiles (f a)) : IgnoresFiles (x >>= f) := by
  intro service w tree
  rw [run_bind, run_bind, hx service w tree]
  rcases x.run service w with ⟨e | a, w₁⟩
  · rfl
  · exact hf a service w₁ tree

/-- The files stay as they are. -/
theorem files_eq {service : Service σ} {w w' : World σ} {r : Except Failure α}
    (hx : IgnoresFiles x) (h : x.run service w = (r, w')) : w'.files = w.files := by
  have hfiles : (x.run service w).2.files = w.files := congrArg (·.2.files) (hx service w w.files)
  rwa [h] at hfiles

end IgnoresFiles

end Session

end SheetSchema
