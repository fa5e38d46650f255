import Mathlib
import SheetSchema.Proofs.Header.Tiers

/-!
# Headers that nothing translates

A header in no tier of the dictionary, for which the service has no text either, has its trimmed
text for a translation (`localResult_of_unresolved`). It comes back so where there is no service,
where the service fails, and where all texts of its answer are empty. Beside a header that the
service translates there is one exception: a header of blanks only has an empty text for a
translation, which does not count as given, and so the header comes back with its blanks
(`mergeOne_of_unresolved`). All paths lead to the trimmed text exactly for the other headers
(`exists_translate_trimmed_iff`).
-/

namespace SheetSchema.Header

variable {σ : Type} {service : Service σ} {w : World σ} {t : Translator} {headers : List String}
  {source : Json} {header : String}

/-- The texts that the service has for the headers: those of its answer, if it is asked and gives
one. -/
def supplied (t : Translator) (headers : List String) (source : Json) (service : Service σ)
    (w : World σ) : List String :=
  match asked? t headers with
  | some address =>
    (service w.service (t.request address headers source)).1.translations.toOption.getD []
  | none => []

/-- The service gives the header at a position no text, or an empty one. -/
def LacksText (served : List String) (i : Nat) : Prop := ∀ text ∈ served[i]?, text = ""

instance (served : List String) (i : Nat) : Decidable (LacksText served i) :=
  inferInstanceAs (Decidable (∀ text ∈ served[i]?, text = ""))

/-! ## One course for all paths -/

/-- Whatever the service answers, the texts that it has tell the outcome: if there is none, that is
the outcome of the dictionary. -/
theorem exists_run_translate (hreply : ∀ address ∈ asked? t headers,
    (service w.service (t.request address headers source)).1.isExpected = true) :
    ∃ w', (translate t headers source).run service w =
      (.ok (if (supplied t headers source service w).all (· == "") then t.found headers
        else merge (supplied t headers source service w) (t.found headers) headers), w') := by
  cases hasked : asked? t headers with
  | none =>
    obtain ⟨w', hrun, -⟩ := run_translate_of_unasked hasked source service w
    refine ⟨w', ?_⟩
    simpa [supplied, hasked] using hrun
  | some address =>
    obtain ⟨w', hrun, -⟩ := run_translate_of_asked hasked source service w
    refine ⟨w', hrun.trans ?_⟩
    simp only [supplied, hasked]
    cases htranslations :
        (service w.service (t.request address headers source)).1.translations with
    | ok served => rfl
    | error error =>
      have htransient : error.category.isTransient = true := by
        rw [Reply.category_of_translations (hreply address hasked) htranslations]
        rfl
      rw [Translator.use, if_pos htransient]
      rfl

/-! ## One header -/

/-- The dictionary leaves a header that it does not have as it is, trimmed. -/
theorem localResult_of_unresolved (h : resolve? t.dictionary header = none) :
    localResult t.dictionary header = .str (trimmed header) := by
  rw [localResult, h, Option.getD_none]

/-- A merged list has at each position what is merged there. -/
theorem getElem?_merge (served : List String) (found : String → Json) {i : Nat}
    (h : headers[i]? = some header) :
    (merge served (headers.map found) headers)[i]? =
      some (mergeOne served[i]? (found header) header) := by
  induction headers generalizing served i with
  | nil => cases h
  | cons first headers ih =>
    rw [List.map_cons, merge]
    cases i with
    | zero =>
      obtain rfl := Option.some.inj h
      rw [List.getElem?_cons_zero, List.head?_eq_getElem?]
    | succ i =>
      rw [List.getElem?_cons_succ, ih served.tail h, List.getElem?_tail]

/-- What counts as nothing leaves the next in line. -/
theorem mergeOne_of_unresolved {served? : Option String} (h : ∀ text ∈ served?, text = "") :
    mergeOne served? (.str (trimmed header)) header =
      .str (if trimmed header = "" then header else trimmed header) := by
  have hblank : (Json.ofText? served?).truthy = false := by
    cases served? with
    | none => rfl
    | some text => rw [h text rfl]; rfl
  by_cases htrimmed : trimmed header = ""
  · rw [if_pos htrimmed, htrimmed]
    have hempty : (Json.str "").truthy = false := rfl
    simp [mergeOne, Json.firstGiven, hblank, hempty]
  · rw [if_neg htrimmed]
    have hgiven := (Json.truthy_str_iff (trimmed header)).mpr htrimmed
    simp [mergeOne, Json.firstGiven, hblank, hgiven]

/-! ## The main result -/

/-- Whatever the service replies, every header that nothing translates comes back trimmed or as it
is. It comes back trimmed unless it is made of blanks and stands beside a header that the service
translates. -/
theorem exists_translate_trimmed_iff (hreply : ∀ address ∈ asked? t headers,
    (service w.service (t.request address headers source)).1.isExpected = true) :
    ∃ (translated : List Json) (w' : World σ),
      (translate t headers source).run service w = (.ok translated, w') ∧
      ∀ (i : Nat) (header : String), headers[i]? = some header →
        resolve? t.dictionary header = none →
        LacksText (supplied t headers source service w) i →
        ∃ text, translated[i]? = some (.str text) ∧ (text = trimmed header ∨ text = header) ∧
          (text = trimmed header ↔ trimmed header ≠ "" ∨ header = "" ∨
            ∀ other ∈ supplied t headers source service w, other = "") := by
  obtain ⟨w', hrun⟩ := exists_run_translate hreply
  refine ⟨_, w', hrun, fun i header hheader hopen hlacks => ?_⟩
  split
  · next hall =>
    have hblank : ∀ other ∈ supplied t headers source service w, other = "" := by
      simpa using hall
    refine ⟨trimmed header, ?_, .inl rfl, iff_of_true rfl (.inr (.inr hblank))⟩
    rw [Translator.found, List.getElem?_map, hheader, Option.map_some,
      localResult_of_unresolved hopen]
  · next hall =>
    have hblank : ¬ ∀ other ∈ supplied t headers source service w, other = "" := by
      simpa using hall
    refine ⟨if trimmed header = "" then header else trimmed header, ?_, ?_, ?_⟩
    · rw [Translator.found, getElem?_merge _ _ hheader, localResult_of_unresolved hopen,
        mergeOne_of_unresolved hlacks]
    · split
      · exact .inr rfl
      · exact .inl rfl
    · by_cases htrimmed : trimmed header = ""
      · rw [if_pos htrimmed, htrimmed]
        simp [hblank]
      · rw [if_neg htrimmed]
        simp [htrimmed]

/-- A translator whose dictionary has no empty key. -/
def plainTranslator : Translator := { nameTranslator with dictionary := .ofTexts nameTexts.tail }

/-- A header of blanks, one with blanks around it, and one that the service translates. -/
def blankHeaders : List String := ["  ", " 数 ", "数"]

/-- The answer has a text for the last header only. -/
def blankAnswer : Reply :=
  .ok (.obj [("data", .obj [("translations", .arr
    [.obj [("translatedText", .str "")], .obj [], .obj [("translatedText", .str "Count")]])])])

/-- A world whose service has this answer. -/
def blankWorld : World (List Reply) := { service := [blankAnswer] }

/-- The header of blanks keeps them, and the other header that nothing translates is trimmed. -/
theorem blankHeaders_not_trimmed :
    blankAnswer.isExpected = true ∧
    (∀ header ∈ blankHeaders, resolve? plainTranslator.dictionary header = none) ∧
    (∀ i < 2,
      LacksText (supplied plainTranslator blankHeaders (.str "ja") scripted blankWorld) i) ∧
    ∃ translated w', (translate plainTranslator blankHeaders (.str "ja")).run scripted blankWorld =
        (.ok translated, w') ∧
      translated[0]? = some (.str "  ") ∧ trimmed "  " = "" ∧
      translated[1]? = some (.str (trimmed " 数 ")) := by
  have hserved : supplied plainTranslator blankHeaders (.str "ja") scripted blankWorld =
      ["", "", "Count"] := by decide +kernel
  have hopen : ∀ header ∈ blankHeaders, resolve? plainTranslator.dictionary header = none := by
    decide +kernel
  have hlacks : ∀ i < 2,
      LacksText (supplied plainTranslator blankHeaders (.str "ja") scripted blankWorld) i := by
    rw [hserved]
    decide
  have hreply : ∀ address ∈ asked? plainTranslator blankHeaders, (scripted blankWorld.service
      (plainTranslator.request address blankHeaders (.str "ja"))).1.isExpected = true :=
    fun _ _ => rfl
  obtain ⟨translated, w', hrun, hall⟩ := exists_translate_trimmed_iff hreply
  obtain ⟨first, hfirst, hcases, hiff⟩ := hall 0 "  " rfl (hopen _ (by decide))
    (hlacks 0 (by decide))
  obtain ⟨second, hsecond, -, hiff'⟩ := hall 1 " 数 " rfl (hopen _ (by decide))
    (hlacks 1 (by decide))
  have hblank : first ≠ trimmed "  " := by
    rw [Ne, hiff, hserved]
    decide +kernel
  have htrimmed : second = trimmed " 数 " := hiff'.mpr (.inl (by decide +kernel))
  exact ⟨rfl, hopen, hlacks, translated, w', hrun, (hcases.resolve_left hblank) ▸ hfirst,
    by decide +kernel, htrimmed ▸ hsecond⟩

end SheetSchema.Header
