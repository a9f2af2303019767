import ActonService.Lib.Html
import ActonService.Session.Store

/-!
# CSRF tokens

`session/csrf.rs`: a token of letters and digits is kept in the session, put into forms and meta
tags, and compared with a header of every request that is not safe.

## Main definitions

* `CsrfConfig` — the configuration of the check.
* `CsrfToken.getOrCreate`, `CsrfToken.regenerate` — the token of a session.
* `csrfMiddleware`, `CsrfMiddleware.call` — the check, as a function and as a layer.
* `CsrfToken.asHiddenFieldNamed`, `CsrfToken.asMetaTag` — the markup.

## Main results

* `constantTimeCompare_iff` — the comparison is equality.
* `verdict_eq_none_iff` — which requests pass.
* `ensures_getOrCreate`, `ensures_regenerate`, `ensures_csrfMiddleware` — what the functions do with
  the token of a session.
* `csrf_markup_read` — **the markup is read back with the token and the name it was made of**, and
  which of these are read as they are.
-/

namespace ActonService

open Effect Html

/-! ### Configuration -/

/-- `CsrfConfig`, as far as requests are checked. -/
structure CsrfConfig where
  enabled : Bool
  headerName : String
  safeMethods : List String
  deriving DecidableEq, Repr

/-- `CsrfConfig::default` -/
def CsrfConfig.standard : CsrfConfig where
  enabled := true
  headerName := "X-CSRF-Token"
  safeMethods := ["GET", "HEAD", "OPTIONS", "TRACE"]

/-- `CSRF_SESSION_KEY` -/
def csrfSessionKey : String := "_csrf_token"

/-! ### Tokens -/

/-- `CsrfToken` -/
structure CsrfToken where
  value : String
  deriving DecidableEq, Repr

namespace CsrfToken

variable (dataError : Json → String)

/-- `CsrfToken::generate` -/
def generate (length : ℕ) : SessionProg CsrfToken :=
  .call (.sample length) fun s => .ret ⟨String.ofList s⟩

/-- A new token, kept in the session. -/
def store (length : ℕ) : SessionProg CsrfToken := do
  let token ← generate length
  Session.insert (stringCodec dataError) "Failed to store CSRF token" csrfSessionKey token.value
  pure token

/-- `CsrfToken::get_or_create` -/
def getOrCreate (length : ℕ) : SessionProg CsrfToken := do
  let found ← Session.get (stringCodec dataError) "Failed to read CSRF token" csrfSessionKey
  match found with
  | some token => pure ⟨token⟩
  | none => store dataError length

/-- `CsrfToken::regenerate` -/
def regenerate (length : ℕ) : SessionProg CsrfToken := store dataError length

/-- The extractor, on a request with or without a session. -/
def fromRequestParts (hasSession : Bool) : SessionProg CsrfToken :=
  if hasSession then getOrCreate dataError 32
  else .fail ⟨"Session not found in request extensions for CSRF"⟩

end CsrfToken

/-! ### The check -/

/-- `str::eq_ignore_ascii_case` -/
def eqIgnoreAsciiCase (s t : String) : Bool :=
  s.toList.map Char.toLower == t.toList.map Char.toLower

/-- `constant_time_compare` -/
def constantTimeCompare (a b : String) : Bool :=
  if (strBytes a).length ≠ (strBytes b).length then false
  else ((strBytes a).zip (strBytes b)).foldl (fun result p => result ||| (p.1 ^^^ p.2)) 0 == 0

/-- A response with a text of its own. -/
structure TextResponse where
  status : UInt16
  contentType : String
  body : String
  deriving DecidableEq, Repr

/-- `csrf_error_response` -/
def csrfErrorResponse (message : String) : TextResponse where
  status := 403
  contentType := "application/json"
  body := "\x7b\"error\": \"csrf_validation_failed\", \"message\": \"" ++ message ++ "\"\x7d"

section Check

variable (dataError : Json → String) (config : CsrfConfig) (method : Method) (headers : HeaderMap)

/-- The method is one of the safe ones. -/
def CsrfConfig.isSafe : Bool :=
  config.safeMethods.any fun m => eqIgnoreAsciiCase m method.asStr

/-- The token a request carries.  The name of a header is looked up in lower case. -/
def CsrfConfig.providedToken : Option String :=
  headerString headers (String.ofList (config.headerName.toList.map Char.toLower))

/-- The response to a request that is checked against the token of its session, unless it passes. -/
def CsrfConfig.compareTokens : Option String → Option TextResponse
  | none => some (csrfErrorResponse "CSRF validation failed: no token in session")
  | some expected =>
    match config.providedToken headers with
    | none => some (csrfErrorResponse "CSRF validation failed: no token provided")
    | some provided =>
      if !constantTimeCompare expected provided then
        some (csrfErrorResponse "CSRF validation failed: invalid token")
      else none

/-- The check of a request that is not exempt.  An error of the session is dropped. -/
def CsrfConfig.validate : SessionProg (Option TextResponse) :=
  (Session.get (stringCodec dataError) "" csrfSessionKey).attempt.bind fun found =>
    .ret (config.compareTokens headers found.toOption.join)

/-- `csrf_middleware`: the response, unless the request is passed on. -/
def csrfMiddleware : SessionProg (Option TextResponse) :=
  if !config.enabled then .ret none
  else if config.isSafe method then .ret none
  else config.validate dataError headers

/-- `CsrfMiddleware::call`, on a request with or without a session. -/
def CsrfMiddleware.call (hasSession : Bool) : SessionProg (Option TextResponse) :=
  if !config.enabled then .ret none
  else if config.isSafe method then .ret none
  else if !hasSession then .ret (some (csrfErrorResponse "CSRF validation failed: no session"))
  else config.validate dataError headers

end Check

/-! ### Comparing -/

theorem foldl_or_eq_zero_iff (l : List (UInt8 × UInt8)) (start : UInt8) :
    l.foldl (fun result p => result ||| (p.1 ^^^ p.2)) start = 0
      ↔ start = 0 ∧ ∀ p ∈ l, p.1 = p.2 := by
  induction l generalizing start with
  | nil => simp
  | cons p l ih =>
    rw [List.foldl_cons, ih, UInt8.or_eq_zero_iff, UInt8.xor_eq_zero_iff, List.forall_mem_cons,
      and_assoc]

/-- **The comparison is equality** of the two texts, whatever their lengths and characters. -/
theorem constantTimeCompare_iff {a b : String} : constantTimeCompare a b = true ↔ a = b := by
  rw [constantTimeCompare]
  split
  · next hne =>
    refine iff_of_false Bool.false_ne_true fun heq => hne ?_
    rw [heq]
  · next hlength =>
    rw [beq_iff_eq, foldl_or_eq_zero_iff]
    have hlength := not_not.mp hlength
    constructor
    · rintro ⟨-, hall⟩
      refine strBytes_injective (List.ext_getElem hlength fun n hn hn' => ?_)
      refine hall ((strBytes a)[n], (strBytes b)[n]) ?_
      rw [List.mem_iff_getElem]
      exact ⟨n, by simp [hn, hn'], by simp⟩
    · rintro rfl
      refine ⟨rfl, fun p hp => ?_⟩
      rw [List.zip_eq_zipWith, List.zipWith_self, List.mem_map] at hp
      obtain ⟨x, -, rfl⟩ := hp
      rfl

section Specifications

variable {dataError : Json → String} {config : CsrfConfig} {method : Method} {headers : HeaderMap}
  {r : SessionRecord} {x : Option String}

/-- The request is not checked: the check is disabled, or the method is one of the safe ones. -/
def CsrfConfig.Exempt (config : CsrfConfig) (method : Method) : Prop :=
  config.enabled = false ∨ config.isSafe method = true

/-- The response to a request where the session has a token, or none. -/
def CsrfConfig.verdict (config : CsrfConfig) (method : Method) (headers : HeaderMap)
    (x : Option String) : Option TextResponse :=
  if !config.enabled then none
  else if config.isSafe method then none
  else config.compareTokens headers x

/-- **Which requests pass**: those that are not checked, and those whose header has the token of the
session. -/
theorem verdict_eq_none_iff :
    config.verdict method headers x = none ↔
      config.Exempt method ∨
        ∃ token, x = some token ∧ config.providedToken headers = some token := by
  rw [CsrfConfig.verdict, CsrfConfig.Exempt]
  cases henabled : config.enabled with
  | false => simp
  | true =>
    cases hsafe : config.isSafe method with
    | true => simp
    | false =>
      simp only [Bool.not_true, Bool.false_eq_true, if_false, reduceCtorEq, or_false, false_or]
      rcases x with _ | expected
      · simp [CsrfConfig.compareTokens]
      · rcases hprovided : config.providedToken headers with _ | provided
        · simp [CsrfConfig.compareTokens, hprovided]
        · by_cases heq : expected = provided
          · have hcompare := constantTimeCompare_iff.mpr heq
            subst heq
            simp [CsrfConfig.compareTokens, hprovided, hcompare]
          · have hcompare := mt constantTimeCompare_iff.mp heq
            simp [CsrfConfig.compareTokens, hprovided, hcompare, Ne.symm heq]

theorem ensures_validate (h : HoldsValue (stringCodec dataError) r csrfSessionKey x) :
    (config.validate dataError headers).Ensures sessionContract
      (fun result r' => r' = r ∧ (result = .ok (config.compareTokens headers x) ∨
        result = .ok (config.compareTokens headers none))) r := by
  intro answer r' hcall
  cases answer with
  | error e => exact ⟨hcall, .inr rfl⟩
  | ok v =>
    obtain ⟨rfl, rfl⟩ := hcall
    simp only [readFound_of_holdsValue h]
    exact ⟨rfl, .inl rfl⟩

/-- A check leaves the session alone; if the session cannot be read there is no token. -/
theorem ensures_csrfMiddleware (h : HoldsValue (stringCodec dataError) r csrfSessionKey x) :
    (csrfMiddleware dataError config method headers).Ensures sessionContract
      (fun result r' => r' = r ∧ (result = .ok (config.verdict method headers x) ∨
        result = .ok (config.verdict method headers none))) r := by
  rw [csrfMiddleware, CsrfConfig.verdict, CsrfConfig.verdict]
  cases config.enabled with
  | false => exact ⟨rfl, .inl rfl⟩
  | true =>
    cases config.isSafe method with
    | true => exact ⟨rfl, .inl rfl⟩
    | false => exact ensures_validate h

/-- The layer does what the function does, on a request with a session. -/
theorem CsrfMiddleware.call_true :
    CsrfMiddleware.call dataError config method headers true
      = csrfMiddleware dataError config method headers := by
  rw [CsrfMiddleware.call, csrfMiddleware]
  rfl

/-- A new token was stored, or nothing has changed. -/
def StoredToken (r : SessionRecord) (length : ℕ) (result : Except SessionError CsrfToken)
    (r' : SessionRecord) : Prop :=
  (∃ s, IsSample length s ∧ result = .ok ⟨String.ofList s⟩ ∧
    r' = r.set csrfSessionKey (some (.string (String.ofList s)))) ∨
  ((∃ e, result = .error e) ∧ r' = r)

theorem ensures_regenerate (length : ℕ) :
    (CsrfToken.regenerate dataError length).Ensures sessionContract
      (StoredToken r length) r := by
  rintro s _ ⟨hsample, rfl⟩
  refine (ensures_insert (String.ofList s)).bind ?_ ?_
  · rintro _ r' (⟨-, v, hwrite, rfl⟩ | ⟨⟨e, he⟩, -⟩)
    · cases hwrite
      exact .inl ⟨s, hsample, rfl, rfl⟩
    · cases he
  · rintro e r' (⟨he, -⟩ | ⟨-, rfl⟩)
    · cases he
    · exact .inr ⟨⟨e, rfl⟩, rfl⟩

/-- A token that is there is returned, and one that is not is made. -/
theorem ensures_getOrCreate (h : HoldsValue (stringCodec dataError) r csrfSessionKey x)
    (length : ℕ) :
    (CsrfToken.getOrCreate dataError length).Ensures sessionContract
      (fun result r' => (∃ token, x = some token ∧ result = .ok ⟨token⟩ ∧ r' = r) ∨
        (x = none ∧ StoredToken r length result r') ∨ ((∃ e, result = .error e) ∧ r' = r)) r := by
  refine (ensures_get h).bind ?_ ?_
  · rintro found r' ⟨rfl, hfound | ⟨e, he⟩⟩
    · cases hfound
      cases x with
      | some token => exact .inl ⟨token, rfl, rfl, rfl⟩
      | none =>
        exact (ensures_regenerate length).mono fun result r' hstored => .inr (.inl ⟨rfl, hstored⟩)
    · cases he
  · rintro e r' ⟨rfl, -⟩
    exact .inr (.inr ⟨⟨e, rfl⟩, rfl⟩)

end Specifications

/-! ### Markup -/

/-- `html_escape` -/
def htmlEscape (s : String) : String :=
  String.ofList
    (Text.replaceChar '\'' "&#x27;".toList
      (Text.replaceChar '"' "&quot;".toList
        (Text.replaceChar '>' "&gt;".toList
          (Text.replaceChar '<' "&lt;".toList
            (Text.replaceChar '&' "&amp;".toList s.toList)))))

namespace CsrfToken

variable (token : CsrfToken)

/-- `as_hidden_field` -/
def asHiddenField : String :=
  "<input type=\"hidden\" name=\"_csrf\" value=\"" ++ htmlEscape token.value ++ "\">"

/-- `as_hidden_field_named` -/
def asHiddenFieldNamed (name : String) : String :=
  "<input type=\"hidden\" name=\"" ++ htmlEscape name ++ "\" value=\"" ++ htmlEscape token.value
    ++ "\">"

/-- `as_meta_tag` -/
def asMetaTag : String :=
  "<meta name=\"csrf-token\" content=\"" ++ htmlEscape token.value ++ "\">"

end CsrfToken

/-- `TemplateContext::csrf_field`, of a context with or without a token. -/
def TemplateContext.csrfField : Option String → String
  | some token => "<input type=\"hidden\" name=\"_csrf\" value=\"" ++ htmlEscape token ++ "\">"
  | none => ""

/-- `TemplateContext::csrf_meta` -/
def TemplateContext.csrfMeta : Option String → String
  | some token => "<meta name=\"csrf-token\" content=\"" ++ htmlEscape token ++ "\">"
  | none => ""

/-- The replacements of `html_escape`, in their order. -/
def escapeRules : List (Char × List Char) :=
  [('&', ['&', 'a', 'm', 'p', ';']), ('<', ['&', 'l', 't', ';']), ('>', ['&', 'g', 't', ';']),
   ('"', ['&', 'q', 'u', 'o', 't', ';']), ('\'', ['&', '#', 'x', '2', '7', ';'])]

/-- What a browser reads these references as. -/
def characterReferences : List (List Char × Char) :=
  [(['a', 'm', 'p'], '&'), (['l', 't'], '<'), (['g', 't'], '>'), (['q', 'u', 'o', 't'], '"'),
   (['#', 'x', '2', '7'], '\'')]

theorem escapes_escapeRules : Escapes characterReferences escapeRules where
  settled := by
    unfold Settled
    decide
  reference_of_mem := by
    have h : ∀ rule ∈ escapeRules, ';' ∉ rule.2.tail.dropLast ∧ '\r' ∉ rule.2.tail.dropLast ∧
        rule.2 = reference rule.2.tail.dropLast ∧
        characterReferences.lookup rule.2.tail.dropLast = some rule.1 := by decide
    exact fun rule hrule => ⟨_, h rule hrule⟩
  kept := List.forall_iff_forall_mem.mp (by decide)
  mark_mem := by decide
  ampersand_mem := by decide

theorem toList_htmlEscape (s : String) :
    (htmlEscape s).toList = replaceAll escapeRules s.toList := by
  rw [htmlEscape, String.toList_ofList]
  simp [replaceAll, escapeRules]

/-- The text is read as a tag with those attributes, whatever page it stands in.  Their values are
read as a text is anywhere in HTML: a carriage return, with or without a line feed behind it, as a
line feed, and a null as a replacement character. -/
def MarkupReads (text name : String) (attributes : List (String × String)) : Prop :=
  ∀ page : List Char, readTag characterReferences (normalizeNewlines (text.toList ++ page))
    = some (name.toList, attributes.map (fun a => (a.1.toList, asRead a.2.toList)),
        normalizeNewlines page)

/-- A text that is written as a tag is read as it. -/
theorem markupReads_of_writeTag {text name : String} {attributes : List (String × String)}
    (htext : text.toList
      = writeTag escapeRules name.toList (attributes.map fun a => (a.1.toList, a.2.toList)))
    (hname : ∀ c ∈ name.toList, isNameChar c = true)
    (hnames : ∀ a ∈ attributes, ∀ c ∈ a.1.toList, isNameChar c = true) :
    MarkupReads text name attributes := by
  intro page
  rw [htext, readTag_writeTag escapes_escapeRules hname (fun a ha => ?_) page, List.map_map]
  · rfl
  · obtain ⟨b, hb, rfl⟩ := List.mem_map.mp ha
    exact hnames b hb

/-- A value that is written as it is. -/
theorem replaceAll_of_clean {v : List Char} (h : ∀ rule ∈ escapeRules, rule.1 ∉ v) :
    replaceAll escapeRules v = v := by
  rw [replaceAll_eq_flatMap escapes_escapeRules.settled, flatMap_substitute_of_notMem h]

theorem markupReads_asHiddenFieldNamed (token : CsrfToken) (name : String) :
    MarkupReads (token.asHiddenFieldNamed name) "input"
      [("type", "hidden"), ("name", name), ("value", token.value)] := by
  refine markupReads_of_writeTag ?_ (by simp [isNameChar]) (by simp [isNameChar])
  have hhidden : replaceAll escapeRules ['h', 'i', 'd', 'd', 'e', 'n']
      = ['h', 'i', 'd', 'd', 'e', 'n'] := replaceAll_of_clean (by decide)
  unfold CsrfToken.asHiddenFieldNamed
  simp [toList_htmlEscape, writeTag, writeAttribute, hhidden]

theorem markupReads_asMetaTag (token : CsrfToken) :
    MarkupReads token.asMetaTag "meta" [("name", "csrf-token"), ("content", token.value)] := by
  refine markupReads_of_writeTag ?_ (by simp [isNameChar]) (by simp [isNameChar])
  have hname : replaceAll escapeRules ['c', 's', 'r', 'f', '-', 't', 'o', 'k', 'e', 'n']
      = ['c', 's', 'r', 'f', '-', 't', 'o', 'k', 'e', 'n'] := replaceAll_of_clean (by decide)
  unfold CsrfToken.asMetaTag
  simp [toList_htmlEscape, writeTag, writeAttribute, hname]

/-- The field of that name is the one of a form. -/
theorem CsrfToken.asHiddenFieldNamed_csrf (token : CsrfToken) :
    token.asHiddenFieldNamed "_csrf" = token.asHiddenField := by
  have hname : htmlEscape "_csrf" = "_csrf" := by
    rw [← String.toList_inj, toList_htmlEscape, replaceAll_of_clean (by simp [escapeRules])]
  unfold CsrfToken.asHiddenFieldNamed CsrfToken.asHiddenField
  rw [hname, ← String.toList_inj]
  simp

/-- What a template is given of the token of a session is read back. -/
theorem TemplateContext.csrfField_read (token : String) :
    MarkupReads (TemplateContext.csrfField (some token)) "input"
        [("type", "hidden"), ("name", "_csrf"), ("value", token)] ∧
      MarkupReads (TemplateContext.csrfMeta (some token)) "meta"
        [("name", "csrf-token"), ("content", token)] := by
  have hfield := markupReads_asHiddenFieldNamed ⟨token⟩ "_csrf"
  rw [CsrfToken.asHiddenFieldNamed_csrf] at hfield
  exact ⟨hfield, markupReads_asMetaTag ⟨token⟩⟩

/-- **The markup is read back** with the token and the name it was made of, whatever page it stands
in.  They are read as they are if they have neither a carriage return nor a null in them, and only
then: a token that the service has made is. -/
theorem csrf_markup_read (token : CsrfToken) (name : String) :
    MarkupReads (token.asHiddenFieldNamed name) "input"
        [("type", "hidden"), ("name", name), ("value", token.value)] ∧
      MarkupReads token.asHiddenField "input"
        [("type", "hidden"), ("name", "_csrf"), ("value", token.value)] ∧
      MarkupReads token.asMetaTag "meta" [("name", "csrf-token"), ("content", token.value)] ∧
      (∀ s : String, asRead s.toList = s.toList ↔ '\r' ∉ s.toList ∧ nul ∉ s.toList) ∧
      ∀ length, IsSample length token.value.toList →
        asRead token.value.toList = token.value.toList := by
  have hfield := markupReads_asHiddenFieldNamed token "_csrf"
  rw [token.asHiddenFieldNamed_csrf] at hfield
  refine ⟨markupReads_asHiddenFieldNamed token name, hfield, markupReads_asMetaTag token,
    fun s => asRead_eq_iff,
    fun length hsample => asRead_eq_iff.mpr ⟨fun hmem => ?_, fun hmem => ?_⟩⟩
  · -- neither of the two is a letter or a digit
    exact absurd (hsample.2 _ hmem) (by decide)
  · exact absurd (hsample.2 _ hmem) (by decide)

end ActonService
