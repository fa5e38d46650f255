import Mathlib
import SheetSchema.Error

/-!
# Computations that may refuse

A chain of steps succeeds exactly if each step does (`bind_eq_ok`). A list is read exactly if each
of its items is (`mapM_eq_ok_iff`), so reading undoes writing item by item, and it passes a check
exactly if each of its items does (`forM_eq_ok_iff`).

A refusal says that a value is not valid, or it has another cause and escapes a caller that expects
the first (`Escapes`). A chain escapes where its first step does or, after it, the rest
(`escapes_bind_iff`), and a list at the first of its items that is not read (`escapes_mapM_iff`).
-/

namespace SheetSchema

variable {ε α β : Type}

@[simp] theorem ok_bind (a : α) (f : α → Except ε β) : (Except.ok a >>= f) = f a := rfl

@[simp] theorem error_bind (e : ε) (f : α → Except ε β) :
    ((Except.error e : Except ε α) >>= f) = .error e := rfl

theorem bind_eq_ok {x : Except ε α} {f : α → Except ε β} {b : β} :
    (x >>= f) = .ok b ↔ ∃ a, x = .ok a ∧ f a = .ok b := by
  cases x with
  | ok a => simp
  | error e => simp

theorem map_eq_ok {x : Except ε α} {f : α → β} {b : β} :
    x.map f = .ok b ↔ ∃ a, x = .ok a ∧ f a = b := by
  cases x with
  | ok a => simp [Except.map]
  | error e => simp [Except.map]

theorem pure_eq_ok {a b : α} : (pure a : Except ε α) = .ok b ↔ a = b := by
  simp [pure, Except.pure]

theorem exists_of_isOk {x : Except ε α} (h : x.isOk = true) : ∃ a, x = .ok a := by
  cases x with
  | ok a => exact ⟨a, rfl⟩
  | error e => cases h

/-- A list is read if and only if each of its items is, in order. -/
theorem mapM_eq_ok_iff {read : α → Except ε β} {given : List α} {found : List β} :
    given.mapM read = .ok found ↔ List.Forall₂ (fun a b => read a = .ok b) given found := by
  induction given generalizing found with
  | nil =>
    rw [List.mapM_nil, pure_eq_ok, List.forall₂_nil_left_iff]
    exact eq_comm
  | cons a given ih =>
    simp only [List.mapM_cons, bind_eq_ok, pure_eq_ok, ih, List.forall₂_cons_left_iff]
    constructor
    · rintro ⟨b, hb, rest, hrest, rfl⟩
      exact ⟨b, rest, hb, hrest, rfl⟩
    · rintro ⟨b, rest, hb, hrest, rfl⟩
      exact ⟨b, hb, rest, hrest, rfl⟩

/-- A list is read item by item, into what each item stands for. -/
theorem exists_mapM_of_forall₂ {γ : Type} {read : α → Except ε β} {R : γ → α → Prop}
    {S : γ → β → Prop} (h : ∀ c a, R c a → ∃ b, read a = .ok b ∧ S c b) {meant : List γ}
    {given : List α} (hgiven : List.Forall₂ R meant given) :
    ∃ found, given.mapM read = .ok found ∧ List.Forall₂ S meant found := by
  simp only [mapM_eq_ok_iff]
  induction hgiven with
  | nil => exact ⟨[], .nil, .nil⟩
  | cons hhead _ ih =>
    obtain ⟨b, hread, hb⟩ := h _ _ hhead
    obtain ⟨found, hfound, hrest⟩ := ih
    exact ⟨b :: found, .cons hread hfound, .cons hb hrest⟩

/-- Reading each item back undoes writing each item. -/
theorem mapM_map_eq_ok {write : α → β} {read : β → Except ε α}
    (h : ∀ a, read (write a) = .ok a) (items : List α) :
    (items.map write).mapM read = .ok items := by
  rw [mapM_eq_ok_iff, List.forall₂_map_left_iff, List.forall₂_same]
  exact fun a _ => h a

/-! ## Checks -/

/-- A list passes a check if and only if each of its items does. -/
theorem forM_eq_ok_iff {check : α → Except ε Unit} {items : List α} :
    items.forM check = .ok () ↔ ∀ a ∈ items, check a = .ok () := by
  induction items with
  | nil => exact iff_of_true rfl (by simp)
  | cons a items ih =>
    rw [List.forM, bind_eq_ok, List.forall_mem_cons, ← ih]
    exact ⟨fun ⟨_, ha, hitems⟩ => ⟨ha, hitems⟩, fun ⟨ha, hitems⟩ => ⟨_, ha, hitems⟩⟩

/-- A check with only one way to refuse does not care about the order of a list. -/
theorem forM_eq_of_perm {check : α → Except ε Unit} {e : ε}
    (hcheck : ∀ a, check a = .ok () ∨ check a = .error e) {items others : List α}
    (hperm : items.Perm others) : items.forM check = others.forM check := by
  induction hperm with
  | nil => rfl
  | cons a _ ih => rw [List.forM, List.forM, ih]
  | swap a b items =>
    simp only [List.forM]
    rcases hcheck a with ha | ha <;> rcases hcheck b with hb | hb <;> simp [ha, hb]
  | trans _ _ ih₁ ih₂ => rw [ih₁, ih₂]

/-! ## Refusals of another cause -/

/-- The computation refuses for another cause than a value that is not valid. -/
def Escapes (x : Except Error α) : Prop := ∃ e, x = .error e ∧ e.category ≠ .validation

@[simp] theorem escapes_ok_iff (a : α) : Escapes (.ok a) ↔ False := by simp [Escapes]

@[simp] theorem escapes_pure_iff (a : α) : Escapes (pure a) ↔ False := escapes_ok_iff a

@[simp] theorem escapes_error_iff {e : Error} :
    Escapes (.error e : Except Error α) ↔ e.category ≠ .validation := by
  simp [Escapes]

/-- A chain of steps escapes where the first step does or, after it, the rest. -/
theorem escapes_bind_iff {x : Except Error α} {f : α → Except Error β} :
    Escapes (x >>= f) ↔ Escapes x ∨ ∃ a, x = .ok a ∧ Escapes (f a) := by
  cases x <;> simp

/-- A list escapes at an item that does, if all items before it are read. -/
theorem escapes_mapM_iff {read : α → Except Error β} {items : List α} :
    Escapes (items.mapM read) ↔ ∃ before a after, items = before ++ a :: after ∧
      (∀ b ∈ before, ∃ found, read b = .ok found) ∧ Escapes (read a) := by
  induction items with
  | nil => simp
  | cons a items ih =>
    simp only [List.mapM_cons, escapes_bind_iff, escapes_pure_iff, and_false, exists_false,
      or_false, ih]
    constructor
    · rintro (h | ⟨b, hb, before, c, after, rfl, hbefore, hc⟩)
      · exact ⟨[], a, items, rfl, by simp, h⟩
      · exact ⟨a :: before, c, after, rfl, List.forall_mem_cons.mpr ⟨⟨b, hb⟩, hbefore⟩, hc⟩
    · rintro ⟨before, c, after, hitems, hbefore, hc⟩
      cases before with
      | nil =>
        obtain ⟨rfl, rfl⟩ := List.cons.inj hitems
        exact Or.inl hc
      | cons b before =>
        obtain ⟨rfl, rfl⟩ := List.cons.inj hitems
        obtain ⟨⟨found, hfound⟩, hbefore⟩ := List.forall_mem_cons.mp hbefore
        exact Or.inr ⟨found, hfound, before, c, after, rfl, hbefore, hc⟩

end SheetSchema
