import Mathlib
import SheetSchema.Proofs.Header.Translation
import SheetSchema.Proofs.Json.Access
import SheetSchema.Proofs.Service.Translation
import SheetSchema.Proofs.Text.Cut

/-!
# Where the translation of a header comes from

Asking the service is decided by the dictionary alone (`asked?`), and what a translation returns by
the dictionary and the one reply of the service (`run_translate_of_asked`). So a translation fails
only where the reply is none that a service gives.

`IsLocal` says what a dictionary of texts makes of a header, tier by tier, and `IsMerged` what
becomes of it beside the text that the service has for it. The main result is that every header is
translated so, whatever the service answers (`translate_isTranslation`).
-/

namespace SheetSchema.Header

variable {σ : Type} {service : Service σ} {w : World σ} {t : Translator} {headers : List String}
  {source : Json}

/-! ## The course of a translation -/

/-- The address that is asked: that of the service, if some header is in no tier of the
dictionary. -/
def asked? (t : Translator) (headers : List String) : Option String :=
  if headers.all fun h => (resolve? t.dictionary h).isSome then none else t.address?

/-- The call that has headers translated at an address. -/
def Translator.request (t : Translator) (address : String) (headers : List String) (source : Json) :
    Call :=
  Translation.request (.str address) (headers.map .str) source t.target

/-- The translations by the dictionary. -/
def Translator.found (t : Translator) (headers : List String) : List Json :=
  headers.map (localResult t.dictionary)

/-- What becomes of an answer of the service. -/
def Translator.use (t : Translator) (headers : List String) :
    Except Error (List String) → Except Failure (List Json)
  | .ok served =>
    .ok (if served.all (· == "") then t.found headers else merge served (t.found headers) headers)
  | .error error =>
    if error.category.isTransient then .ok (t.found headers) else .error ⟨error, []⟩

theorem asked?_eq_some_iff {address : String} : asked? t headers = some address ↔
    t.address? = some address ∧ ∃ h ∈ headers, resolve? t.dictionary h = none := by
  have hall : (headers.all fun h => (resolve? t.dictionary h).isSome) = true ↔
      ¬ ∃ h ∈ headers, resolve? t.dictionary h = none := by
    simp [Option.isSome_iff_ne_none]
  rw [asked?]
  split
  · next h => simp [hall.mp h]
  · next h => simp [not_not.mp (mt hall.mpr h)]

theorem length_resolved_iff :
    (headers.filter fun h => (resolve? t.dictionary h).isSome).length = headers.length ↔
      (headers.all fun h => (resolve? t.dictionary h).isSome) = true := by
  rw [List.length_filter_eq_length_iff, List.all_eq_true]

theorem run_useAnswer (served : List String) (found : List Json) (service : Service σ)
    (w : World σ) : ∃ w', (useAnswer headers found served).run service w =
      (.ok (if served.all (· == "") then found else merge served found headers), w') ∧
      World.SameRemote w w' := by
  rw [useAnswer, Session.run_bind_of_ok (Session.run_record _ _ _ _)]
  split
  · exact ⟨_, rfl, rfl, rfl⟩
  · exact ⟨_, rfl, rfl, rfl⟩

theorem run_useDictionary (found : List Json) (error : Error) (service : Service σ) (w : World σ) :
    ∃ w', (useDictionary found error).run service w = (.ok found, w') ∧ World.SameRemote w w' :=
  ⟨_, rfl, rfl, rfl⟩

section Serving

variable {address : String} {target : Json}

theorem run_serve_of_ok {served : List String} (h : headers ≠ [])
    (hserved : (service w.service (Translation.request (.str address) (headers.map .str) source
      target)).1.translations = .ok served) :
    (serve address headers source target).run service w = (.ok (.ok served),
      w.after service (Translation.request (.str address) (headers.map .str) source target)) := by
  have hne : headers.map Json.str ≠ [] := by simpa using h
  rw [serve, Session.onTransient, Session.run_orElse, Session.run_bind,
    Translation.run_translate hne, hserved]
  rfl

theorem run_serve_of_error {error : Error} (h : headers ≠ [])
    (herror : (service w.service (Translation.request (.str address) (headers.map .str) source
      target)).1.translations = .error error) :
    (serve address headers source target).run service w =
      (if error.category.isTransient then .ok (.error error) else .error ⟨error, []⟩,
      w.after service (Translation.request (.str address) (headers.map .str) source target)) := by
  have hne : headers.map Json.str ≠ [] := by simpa using h
  rw [serve, Session.onTransient, Session.run_orElse, Session.run_bind,
    Translation.run_translate hne, herror]
  by_cases htransient : error.category.isTransient = true
  · simp [Session.ofExcept, htransient]
  · simp [Session.ofExcept, htransient]

/-- An answer is used, and a failure of the service is made up for by the dictionary. -/
theorem run_served (h : headers ≠ []) (address : String) (source : Json) (service : Service σ)
    (w : World σ) :
    ∃ w', (do
        match ← serve address headers source t.target with
        | .ok served => useAnswer headers (t.found headers) served
        | .error error => useDictionary (t.found headers) error : Session σ (List Json)).run
          service w =
        (t.use headers (service w.service (t.request address headers source)).1.translations, w') ∧
      World.SameRemote (w.after service (t.request address headers source)) w' := by
  cases hreply : (service w.service (t.request address headers source)).1.translations with
  | ok served =>
    rw [Session.run_bind_of_ok (run_serve_of_ok h hreply)]
    exact run_useAnswer served _ service _
  | error error =>
    rw [Session.run_bind, run_serve_of_error h hreply, Translator.use]
    by_cases htransient : error.category.isTransient = true
    · simp only [if_pos htransient]
      exact run_useDictionary _ error service _
    · simp only [if_neg htransient]
      exact ⟨_, rfl, rfl, rfl⟩

end Serving

/-- Without a service to ask, the dictionary translates. -/
theorem run_translate_of_unasked (h : asked? t headers = none) (source : Json)
    (service : Service σ) (w : World σ) :
    ∃ w', (translate t headers source).run service w = (.ok (t.found headers), w') ∧
      World.SameRemote w w' := by
  rw [translate, Session.run_bind_of_ok (Session.run_record _ _ _ _)]
  cases haddress : t.address? with
  | none => exact ⟨_, rfl, rfl, rfl⟩
  | some address =>
    have hall : (headers.all fun h => (resolve? t.dictionary h).isSome) = true := by
      by_contra hopen
      rw [asked?, if_neg hopen, haddress] at h
      cases h
    simp only [if_pos (length_resolved_iff.mpr hall)]
    exact ⟨_, rfl, rfl, rfl⟩

/-- A service that is asked is asked once, and its reply tells the outcome. -/
theorem run_translate_of_asked {address : String} (h : asked? t headers = some address)
    (source : Json) (service : Service σ) (w : World σ) :
    ∃ w', (translate t headers source).run service w =
        (t.use headers (service w.service (t.request address headers source)).1.translations, w') ∧
      World.SameRemote (w.after service (t.request address headers source)) w' := by
  obtain ⟨haddress, header, hheader, hopen⟩ := asked?_eq_some_iff.mp h
  have hne : headers ≠ [] := List.ne_nil_of_mem hheader
  have hall : ¬ (headers.filter fun h => (resolve? t.dictionary h).isSome).length =
      headers.length := by
    rw [length_resolved_iff, List.all_eq_true]
    intro hall
    have := hall header hheader
    rw [hopen] at this
    cases this
  rw [translate, Session.run_bind_of_ok (Session.run_record _ _ _ _), haddress]
  simp only [if_neg hall]
  exact run_served hne address source service _

/-! ## What a dictionary of texts makes of a header -/

/-- The dictionary that gives texts to headers. -/
def Dictionary.ofTexts (d : Entries String) : Dictionary :=
  d.map fun (key, text) => (key, .str text)

/-- The key is not empty, and the trimmed header contains it. -/
def Occurs (key header : String) : Prop := key ≠ "" ∧ key.toList <:+: (trimmed header).toList

/-- The header is in no tier of the dictionary. -/
def IsUnresolved (d : Entries String) (header : String) : Prop :=
  d.get? (trimmed header) = none ∧ ∀ e ∈ d, ¬ Occurs e.1 header

/-- The text that a dictionary gives to a header. -/
inductive IsLocal (d : Entries String) (header : String) : String → Prop
  /-- The trimmed header is a key. -/
  | listed {text : String} (h : d.get? (trimmed header) = some text) : IsLocal d header text
  /-- A key occurs in the header, and none before it does. -/
  | contained {before after : Entries String} {key text : String}
      (hlisted : d.get? (trimmed header) = none) (hd : d = before ++ (key, text) :: after)
      (hfirst : ∀ e ∈ before, ¬ Occurs e.1 header) (hkey : Occurs key header) :
      IsLocal d header text
  /-- The header stays, trimmed. -/
  | unresolved (h : IsUnresolved d header) : IsLocal d header (trimmed header)

/-- What becomes of a header for which the service has the text `served?`. -/
inductive IsMerged (d : Entries String) (served? : Option String) (header : String) : String → Prop
  | served {text : String} (hserved : served? = some text) (hne : text ≠ "") :
      IsMerged d served? header text
  | found {text : String} (hserved : ∀ s, served? = some s → s = "")
      (hfound : IsLocal d header text) (hne : text ≠ "") : IsMerged d served? header text
  | kept (hserved : ∀ s, served? = some s → s = "") (hfound : IsLocal d header "") :
      IsMerged d served? header header

section Texts

variable {d : Entries String} {header : String}

theorem get?_ofTexts (d : Entries String) (key : String) :
    (Dictionary.ofTexts d).get? key = (d.get? key).map .str := by
  simp only [Dictionary.ofTexts, Entries.get?, List.find?_map, Option.map_map]
  rfl

theorem occurs_iff (key header : String) :
    (key != "" && Text.occursIn key.toList (Text.trim header.toList)) = true ↔
      Occurs key header := by
  rw [Bool.and_eq_true, bne_iff_ne, Text.occursIn_iff, Occurs, trimmed, String.toList_ofList]

theorem filter_present (text? : Option String) :
    (text?.map Json.str).filter Json.present = text?.map .str := by
  cases text? <;> rfl

theorem contained?_ofTexts (d : Entries String) (header : String) :
    contained? (.ofTexts d) header = ((d.find? fun e =>
      e.1 != "" && Text.occursIn e.1.toList (Text.trim header.toList)).map (·.2)).map .str := by
  rw [← filter_present]
  simp only [contained?, Dictionary.ofTexts, List.find?_map, Option.map_map]
  rfl

theorem listed?_ofTexts (d : Entries String) (header : String) :
    listed? (.ofTexts d) header = (d.get? (trimmed header)).map .str := by
  rw [listed?, get?_ofTexts, filter_present]

theorem contained?_eq_none_iff :
    contained? (.ofTexts d) header = none ↔ ∀ e ∈ d, ¬ Occurs e.1 header := by
  rw [contained?_ofTexts, Option.map_eq_none_iff, Option.map_eq_none_iff, List.find?_eq_none]
  exact forall₂_congr fun e _ => not_congr (occurs_iff e.1 header)

/-- A header is open exactly if no tier of the dictionary has it. -/
theorem resolve?_eq_none_iff : resolve? (.ofTexts d) header = none ↔ IsUnresolved d header := by
  rw [resolve?, Option.or_eq_none_iff, listed?_ofTexts, Option.map_eq_none_iff,
    contained?_eq_none_iff, IsUnresolved]

/-- The tiers give every header a text. -/
theorem exists_localResult (d : Entries String) (header : String) :
    ∃ text, localResult (.ofTexts d) header = .str text ∧ IsLocal d header text := by
  cases hlisted : d.get? (trimmed header) with
  | some text =>
    refine ⟨text, ?_, .listed hlisted⟩
    rw [localResult, resolve?, listed?_ofTexts, hlisted]
    rfl
  | none =>
    cases hfind : d.find? fun e =>
        e.1 != "" && Text.occursIn e.1.toList (Text.trim header.toList) with
    | some e =>
      obtain ⟨hkey, before, after, hd, hfirst⟩ := List.find?_eq_some_iff_append.mp hfind
      refine ⟨e.2, ?_, .contained hlisted hd (fun e' he' => ?_) ((occurs_iff _ _).mp hkey)⟩
      · rw [localResult, resolve?, listed?_ofTexts, hlisted, contained?_ofTexts, hfind]
        rfl
      · rw [← occurs_iff, Bool.not_eq_true, ← Bool.not_eq_true']
        exact hfirst e' he'
    | none =>
      have hnone : contained? (.ofTexts d) header = none := by rw [contained?_ofTexts, hfind]; rfl
      refine ⟨trimmed header, ?_, .unresolved ⟨hlisted, contained?_eq_none_iff.mp hnone⟩⟩
      rw [localResult, resolve?, listed?_ofTexts, hlisted, hnone]
      rfl

/-- The dictionary gives a list of headers its texts, one by one. -/
theorem exists_found (d : Entries String) (headers : List String) :
    ∃ texts : List String, headers.map (localResult (.ofTexts d)) = texts.map .str ∧
      List.Forall₂ (IsLocal d) headers texts := by
  induction headers with
  | nil => exact ⟨[], rfl, .nil⟩
  | cons header headers ih =>
    obtain ⟨text, htext, hlocal⟩ := exists_localResult d header
    obtain ⟨texts, htexts, hall⟩ := ih
    exact ⟨text :: texts, by rw [List.map_cons, htext, htexts, List.map_cons], .cons hlocal hall⟩

/-- The service's text comes first, then that of the dictionary, then the header. -/
theorem exists_mergeOne (served? : Option String) {found : String} (h : IsLocal d header found) :
    ∃ text, mergeOne served? (.str found) header = .str text ∧ IsMerged d served? header text := by
  by_cases hserved : ∀ s, served? = some s → s = ""
  · have hblank : (Json.ofText? served?).truthy = false := by
      cases served? with
      | none => rfl
      | some s => rw [hserved s rfl]; rfl
    by_cases hfound : found = ""
    · subst hfound
      refine ⟨header, ?_, .kept hserved h⟩
      have hempty : (Json.str "").truthy = false := rfl
      simp [mergeOne, Json.firstGiven, hblank, hempty]
    · refine ⟨found, ?_, .found hserved h hfound⟩
      have := (Json.truthy_str_iff found).mpr hfound
      simp [mergeOne, Json.firstGiven, hblank, this]
  · push Not at hserved
    obtain ⟨s, rfl, hs⟩ := hserved
    refine ⟨s, ?_, .served rfl hs⟩
    have := (Json.truthy_str_iff s).mpr hs
    simp [mergeOne, Json.firstGiven, Json.ofText?, this]

/-- Merging gives a list of headers its texts, one by one, however long the service's list is. -/
theorem exists_merge (served : List String) {headers found : List String}
    (h : List.Forall₂ (IsLocal d) headers found) :
    ∃ texts : List String, merge served (found.map .str) headers = texts.map .str ∧
      texts.length = headers.length ∧ ∀ (i : Nat) header text, headers[i]? = some header →
        texts[i]? = some text → IsMerged d served[i]? header text := by
  induction h generalizing served with
  | nil => exact ⟨[], rfl, rfl, by simp⟩
  | @cons header text headers found hlocal hall ih =>
    obtain ⟨first, hfirst, hmerged⟩ := exists_mergeOne served.head? hlocal
    obtain ⟨texts, htexts, hlength, hrest⟩ := ih served.tail
    refine ⟨first :: texts, by simp [merge, hfirst, htexts], by simp [hlength], ?_⟩
    rintro (_ | i) header' text' hheader htext
    · obtain rfl := Option.some.inj hheader
      obtain rfl := Option.some.inj htext
      rwa [← List.head?_eq_getElem?]
    · rw [← List.getElem?_tail]
      exact hrest i header' text' hheader htext

end Texts

/-! ## The main result -/

/-- The calls and the texts that a translation of headers from `source` to `target` with the
dictionary `d` comes to, where `reply` is what the service at `address` replies to `request`. A call
that is made asks for all headers. -/
inductive IsTranslation (d : Entries String) (headers : List String) (address : String)
    (source target : Json) (request : Call) (reply : Reply) : List Call → List String → Prop
  /-- The dictionary has all headers. -/
  | unasked {texts : List String} (hopen : ∀ header ∈ headers, ¬ IsUnresolved d header)
      (htexts : List.Forall₂ (IsLocal d) headers texts) :
      IsTranslation d headers address source target request reply [] texts
  /-- The service fails, or has nothing but empty texts. -/
  | fallback {texts : List String}
      (hasks : request.AsksFor (.str address) (headers.map .str) source target)
      (hopen : ∃ header ∈ headers, IsUnresolved d header)
      (hreply : ∀ served, reply.translations = .ok served → ∀ s ∈ served, s = "")
      (htexts : List.Forall₂ (IsLocal d) headers texts) :
      IsTranslation d headers address source target request reply [request] texts
  /-- The service has some text. -/
  | merged {served texts : List String}
      (hasks : request.AsksFor (.str address) (headers.map .str) source target)
      (hopen : ∃ header ∈ headers, IsUnresolved d header)
      (hreply : reply.translations = .ok served) (hserved : ∃ s ∈ served, s ≠ "")
      (hlength : texts.length = headers.length)
      (htexts : ∀ (i : Nat) header text, headers[i]? = some header → texts[i]? = some text →
        IsMerged d served[i]? header text) :
      IsTranslation d headers address source target request reply [request] texts

theorem asked?_ofTexts_eq_none {d : Entries String} {address : String} {target : Json}
    (h : asked? ⟨.ofTexts d, some address, target⟩ headers = none) :
    ∀ header ∈ headers, ¬ IsUnresolved d header := by
  intro header hheader hopen
  have hasked : asked? ⟨.ofTexts d, some address, target⟩ headers = some address :=
    asked?_eq_some_iff.mpr ⟨rfl, header, hheader, resolve?_eq_none_iff.mpr hopen⟩
  rw [h] at hasked
  cases hasked

/-- What comes of an expected reply is a translation. -/
theorem exists_use {d : Entries String} {address : String} {target : Json} {request : Call}
    {reply : Reply} (hasks : request.AsksFor (.str address) (headers.map .str) source target)
    (hopen : ∃ header ∈ headers, IsUnresolved d header) (hreply : reply.isExpected = true) :
    ∃ texts : List String, Translator.use ⟨.ofTexts d, some address, target⟩ headers
        reply.translations = .ok (texts.map .str) ∧
      IsTranslation d headers address source target request reply [request] texts := by
  obtain ⟨found, hfound, hlocal⟩ := exists_found d headers
  cases htranslations : reply.translations with
  | ok served =>
    by_cases hall : served.all (· == "") = true
    · have hblank : ∀ s ∈ served, s = "" := by simpa using hall
      refine ⟨found, ?_, .fallback hasks hopen (fun served' h => ?_) hlocal⟩
      · rw [Translator.use, if_pos hall, Translator.found, hfound]
      · obtain rfl := Except.ok.inj (htranslations.symm.trans h)
        exact hblank
    · have hsome : ∃ s ∈ served, s ≠ "" := by simpa using hall
      obtain ⟨texts, htexts, hlength, hmerged⟩ := exists_merge served hlocal
      refine ⟨texts, ?_, .merged hasks hopen htranslations hsome hlength hmerged⟩
      rw [Translator.use, if_neg hall, Translator.found, hfound, htexts]
  | error error =>
    have htransient : error.category.isTransient = true := by
      rw [Reply.category_of_translations hreply htranslations]
      rfl
    refine ⟨found, ?_, .fallback hasks hopen (fun served h => ?_) hlocal⟩
    · rw [Translator.use, if_pos htransient, Translator.found, hfound]
    · rw [htranslations] at h
      cases h

/-- Headers are translated by the dictionary and at most one call, whatever the service replies. It
is called if and only if the dictionary has not all headers, and then for all of them. Translating
texts by the service alone fails with an error of that service or not at all. -/
theorem translate_isTranslation (d : Entries String) (address : String) (target : Json)
    (headers : List String) (source : Json) (service : Service σ) (w : World σ)
    (hreply : (service w.service (Translator.request ⟨.ofTexts d, some address, target⟩ address
      headers source)).1.isExpected = true) :
    (∃ (texts : List String) (made : List Call) (w' : World σ),
      (translate ⟨.ofTexts d, some address, target⟩ headers source).run service w =
        (.ok (texts.map .str), w') ∧
      w'.calls = w.calls ++ made ∧
      IsTranslation d headers address source target
        (Translator.request ⟨.ofTexts d, some address, target⟩ address headers source)
        (service w.service (Translator.request ⟨.ofTexts d, some address, target⟩ address headers
          source)).1 made texts) ∧
    ∀ (address source target : Json) (texts : List Json) (w₀ w' : World σ) (failure : Failure),
      (service w₀.service (Translation.request address texts source target)).1.isExpected = true →
      (Translation.translate address texts source target).run service w₀ = (.error failure, w') →
      failure.error.category = .translationService := by
  refine ⟨?_, fun _ _ _ _ _ _ _ => Translation.category_of_translate⟩
  cases hasked : asked? ⟨.ofTexts d, some address, target⟩ headers with
  | none =>
    obtain ⟨w', hrun, hcalls, -⟩ := run_translate_of_unasked hasked source service w
    obtain ⟨texts, htexts, hlocal⟩ := exists_found d headers
    rw [Translator.found, htexts] at hrun
    exact ⟨texts, [], w', hrun, by rw [hcalls, List.append_nil],
      .unasked (asked?_ofTexts_eq_none hasked) hlocal⟩
  | some address' =>
    obtain ⟨rfl, header, hheader, hopen⟩ := (asked?_eq_some_iff.mp hasked).imp_left Option.some.inj
    obtain ⟨w', hrun, hcalls, -⟩ := run_translate_of_asked hasked source service w
    obtain ⟨texts, htexts, htranslation⟩ := exists_use (Translation.asksFor_request _ _ _ _)
      ⟨header, hheader, resolve?_eq_none_iff.mp hopen⟩ hreply
    rw [htexts] at hrun
    exact ⟨texts, _, w', hrun, hcalls, htranslation⟩

/-- A dictionary whose empty key is in no header. -/
def nameTexts : Entries String := [("", "blank"), ("ID", "id"), ("名", "name"), ("氏名", "fullName")]

/-- A header that is listed but for its blanks, one that contains two keys, and one in no tier. -/
def nameHeaders : List String := [" ID ", "氏名欄", "数"]

/-- The answer of the service has an empty text for the first header and none for the last. -/
def nameAnswer : Reply :=
  .ok (.obj [("data", .obj [("translations", .arr
    [.obj [("translatedText", .null)], .obj [("translatedText", .str "Full name")]])])])

/-- The service does not answer. -/
def noAnswer : Reply := .unreachable "timed out"

/-- The translator with that dictionary and a service. -/
def nameTranslator : Translator := ⟨.ofTexts nameTexts, some Translation.defaultAddress, .str "en"⟩

/-- One header has the text of the dictionary, one that of the service, and one stays; and without
an answer the service alone fails as a translation service. -/
theorem names_isTranslation :
    (∃ made w', (translate nameTranslator nameHeaders (.str "ja")).run scripted
        { service := [nameAnswer] } = (.ok [.str "id", .str "Full name", .str "数"], w') ∧
      w'.calls = made ∧ nameAnswer.isExpected = true ∧
      IsTranslation nameTexts nameHeaders Translation.defaultAddress (.str "ja") (.str "en")
        (nameTranslator.request Translation.defaultAddress nameHeaders (.str "ja")) nameAnswer made
        ["id", "Full name", "数"]) ∧
    ∃ failure w', (Translation.translate (.str Translation.defaultAddress) [.str "数"] (.str "ja")
        (.str "en")).run scripted { service := [noAnswer] } = (.error failure, w') ∧
      noAnswer.isExpected = true ∧ failure.error.category = .translationService := by
  obtain ⟨⟨texts, made, w', hrun, hcalls, htranslation⟩, hclient⟩ :=
    translate_isTranslation nameTexts Translation.defaultAddress (.str "en") nameHeaders (.str "ja")
      scripted { service := [nameAnswer] } rfl
  have hvalue : ((translate nameTranslator nameHeaders (.str "ja")).run scripted
      { service := [nameAnswer] }).1.toOption =
        some (["id", "Full name", "数"].map .str) := by
    decide +kernel
  rw [show (translate nameTranslator nameHeaders (.str "ja")).run scripted
    { service := [nameAnswer] } = _ from hrun] at hvalue
  obtain rfl : texts = ["id", "Full name", "数"] :=
    List.map_injective_iff.mpr (fun _ _ => Json.str.inj) (Option.some.inj hvalue)
  exact ⟨⟨made, w', hrun, hcalls, rfl, htranslation⟩, _, _, rfl, rfl,
    hclient (.str Translation.defaultAddress) (.str "ja") (.str "en") [.str "数"]
      { service := [noAnswer] } _ _ rfl rfl⟩

end SheetSchema.Header
