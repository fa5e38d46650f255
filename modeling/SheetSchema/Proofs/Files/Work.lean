import Mathlib
import SheetSchema.Files.Tree

/-!
# How work on files fails

What stands in the way of work on files is told by an error that carries no facts: a file or folder
in the wrong place, a name that is too long, or one that no file can have. `FileWork.FailsBare` says
so of some work, and every way to put work together keeps it. Reading and writing a file fail so
(`FileWork.failsBare_read`, `FileWork.failsBare_write`).
-/

namespace SheetSchema.FileWork

variable {α β : Type}

theorem run_bind (x : FileWork α) (f : α → FileWork β) (tree : FileTree) :
    (x >>= f).run tree =
      match x.run tree with
      | (.ok a, tree) => (f a).run tree
      | (.error e, tree) => (.error e, tree) := by
  change (match x.run tree with
    | (r, tree) => ExceptT.bindCont f r tree) = _
  rcases x.run tree with ⟨e | a, tree'⟩
  · rfl
  · rfl

/-- The work fails with errors that carry no facts. -/
def FailsBare (x : FileWork α) : Prop :=
  ∀ tree error, (x.run tree).1 = .error error → error.category.isDiagnosable = false

namespace FailsBare

theorem pure (a : α) : FailsBare (pure a) := fun _ _ h => nomatch h

theorem throw {e : Error} (h : e.category.isDiagnosable = false) :
    FailsBare (throw e : FileWork α) := fun _ _ he => Except.error.inj he ▸ h

theorem get : FailsBare (get : FileWork FileTree) := fun _ _ h => nomatch h

theorem set (tree : FileTree) : FailsBare (set tree : FileWork PUnit) := fun _ _ h => nomatch h

/-- A check of a value fails as the check does. -/
theorem lift {x : Except Error α} (h : ∀ error, x = .error error →
    error.category.isDiagnosable = false) : FailsBare (liftM x : FileWork α) := fun _ => h

theorem bind {x : FileWork α} {f : α → FileWork β} (hx : FailsBare x)
    (hf : ∀ a, FailsBare (f a)) : FailsBare (x >>= f) := by
  intro tree error h
  rw [run_bind] at h
  rcases hrun : x.run tree with ⟨e | a, tree'⟩
  · rw [hrun] at h
    obtain rfl : e = error := Except.error.inj h
    exact hx tree e (by rw [hrun])
  · rw [hrun] at h
    exact hf a tree' error h

end FailsBare

/-! ## Reading and writing -/

theorem isDiagnosable_checkName {name : String} {error : Error}
    (h : checkName name = .error error) : error.category.isDiagnosable = false := by
  rw [checkName] at h
  split at h
  · cases h
  · rw [← Except.error.inj h]
    rfl

theorem isDiagnosable_checkPath {path : Path} {error : Error}
    (h : checkPath path = .error error) : error.category.isDiagnosable = false := by
  rw [checkPath] at h
  split at h
  · rw [← Except.error.inj h]
    rfl
  · split at h
    · cases h
    · rw [← Except.error.inj h]
      rfl

theorem failsBare_read (path : Path) : FailsBare (read path) := by
  refine FailsBare.get.bind fun tree => ?_
  cases tree.follow path with
  | file text => exact .pure _
  | folder place => exact .throw rfl
  | nothing => exact .pure _

theorem failsBare_makeFoldersFrom (place : Location) (made : Bool) (names : List String) :
    FailsBare (makeFoldersFrom place made names) := by
  induction names generalizing place made with
  | nil => exact .pure _
  | cons name rest ih =>
    rw [makeFoldersFrom]
    split
    · exact ih _ _
    refine FailsBare.get.bind fun tree => ?_
    split
    · exact ih _ _
    split
    · refine FailsBare.throw ?_
      split <;> rfl
    · exact (FailsBare.lift fun _ => isDiagnosable_checkName).bind fun _ =>
        (FailsBare.set _).bind fun _ => ih _ _

theorem failsBare_write (path : Path) (text : String) : FailsBare (write path text) := by
  refine ((FailsBare.lift fun _ => isDiagnosable_checkPath).bind fun _ =>
    failsBare_makeFoldersFrom _ _ _).bind fun folder => ?_
  cases path.names.getLast? with
  | none => exact .throw rfl
  | some name =>
    refine FailsBare.get.bind fun tree => ?_
    dsimp only
    split
    · exact .throw rfl
    · exact (FailsBare.lift fun _ => isDiagnosable_checkName).bind fun _ => .set _

end SheetSchema.FileWork
