import Mathlib
import SheetSchema.Code.Template
import SheetSchema.Proofs.Refusal

/-!
# Rendered templates

The code of a template is the text of its pieces, one after the other. So a template in parts is
rendered part by part (`Template.render_append_eq_ok_iff`), and the text of each part stands in the
code (`Template.isInfix_render`).
-/

namespace SheetSchema.Code

theorem append_append_of_eq {a b c : String} (h : a ++ b = c) (rest : String) :
    a ++ (b ++ rest) = c ++ rest := by
  rw [← String.append_assoc, h]

namespace Template

variable {ctx : Context} {p : Piece} {t u : Template} {text code : String}

theorem render_eq_ok_iff : t.render ctx = .ok code ↔ ∃ texts,
    List.Forall₂ (fun p text => Piece.render ctx p = .ok text) t texts ∧
      String.join texts = code := by
  simp only [render, map_eq_ok, mapM_eq_ok_iff]

theorem render_nil_eq_ok_iff : render [] ctx = .ok code ↔ code = "" := by
  rw [render_eq_ok_iff]
  simp [eq_comm]

theorem render_cons_eq_ok_iff : render (p :: t) ctx = .ok code ↔ ∃ text rest,
    p.render ctx = .ok text ∧ t.render ctx = .ok rest ∧ text ++ rest = code := by
  simp only [render_eq_ok_iff, List.forall₂_cons_left_iff]
  constructor
  · rintro ⟨_, ⟨text, texts, htext, htexts, rfl⟩, rfl⟩
    exact ⟨text, _, htext, ⟨texts, htexts, rfl⟩, String.join_cons.symm⟩
  · rintro ⟨text, _, htext, ⟨texts, htexts, rfl⟩, rfl⟩
    exact ⟨_, ⟨text, texts, htext, htexts, rfl⟩, String.join_cons⟩

/-- A template in two parts is rendered part by part. -/
theorem render_append_eq_ok_iff : render (t ++ u) ctx = .ok code ↔ ∃ text rest,
    t.render ctx = .ok text ∧ u.render ctx = .ok rest ∧ text ++ rest = code := by
  induction t generalizing code with
  | nil => simp [render_nil_eq_ok_iff]
  | cons p t ih =>
    simp only [List.cons_append, render_cons_eq_ok_iff, ih]
    constructor
    · rintro ⟨head, _, hhead, ⟨text, rest, htext, hrest, rfl⟩, rfl⟩
      exact ⟨_, rest, ⟨head, text, hhead, htext, rfl⟩, hrest, String.append_assoc⟩
    · rintro ⟨_, rest, ⟨head, text, hhead, htext, rfl⟩, hrest, rfl⟩
      exact ⟨head, _, hhead, ⟨text, rest, htext, hrest, rfl⟩, String.append_assoc.symm⟩

theorem render_singleton (p : Piece) (ctx : Context) : render [p] ctx = p.render ctx := by
  rw [render, List.mapM_cons, List.mapM_nil]
  cases p.render ctx <;> simp [Except.map, pure, Except.pure]

/-- The text of a part stands in the code. -/
theorem isInfix_render (hcode : t.render ctx = .ok code) (hu : u <:+: t)
    (htext : u.render ctx = .ok text) : text.toList <:+: code.toList := by
  obtain ⟨before, after, rfl⟩ := hu
  obtain ⟨_, right, hleft, -, rfl⟩ := render_append_eq_ok_iff.mp hcode
  obtain ⟨left, middle, -, hmiddle, rfl⟩ := render_append_eq_ok_iff.mp hleft
  obtain rfl : text = middle := Except.ok.inj (htext.symm.trans hmiddle)
  exact ⟨left.toList, right.toList, by simp⟩

/-- The text of the first part stands at the start of the code. -/
theorem isPrefix_render (hcode : t.render ctx = .ok code) (hu : u <+: t)
    (htext : u.render ctx = .ok text) : text.toList <+: code.toList := by
  obtain ⟨after, rfl⟩ := hu
  obtain ⟨left, right, hleft, -, rfl⟩ := render_append_eq_ok_iff.mp hcode
  obtain rfl : text = left := Except.ok.inj (htext.symm.trans hleft)
  exact ⟨right.toList, by simp⟩

/-- The text of a piece stands in the code. -/
theorem isInfix_render_of_mem (hcode : t.render ctx = .ok code) (hp : p ∈ t)
    (htext : p.render ctx = .ok text) : text.toList <:+: code.toList := by
  obtain ⟨before, after, rfl⟩ := List.append_of_mem hp
  exact isInfix_render hcode ⟨before, after, by simp⟩ ((render_singleton p ctx).trans htext)

/-! ## Functions -/

/-- The pieces that the code of an operation starts with. -/
def functionStart (name : String) : Template := ["\n", "    const ", .declares name]

/-- The pieces are the start of a declaration. -/
theorem render_functionStart (name : String) (ctx : Context) :
    render (functionStart name) ctx = .ok ("\n    const " ++ name) := by
  have hline : "\n" ++ "    const " = "\n    const " := by decide
  simp only [functionStart, render_cons_eq_ok_iff, render_nil_eq_ok_iff]
  simp [Piece.render, append_append_of_eq hline]

end Template

end SheetSchema.Code
