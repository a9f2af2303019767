import ActonService.Session.Csrf
import ActonService.Session.Extractors
import ActonService.Session.Flash

/-!
# Runs of a session

A page of the service does one thing after another with its session.  Whatever it does, and
whichever calls on the session fail, the token, the messages, the user and the other values are kept
apart, and each of them is what was done to it last.

## Main definitions

* `SessionOp`, `SessionOp.program` — what a page does with its session.
* `SessionView`, `Does` — a session as it is meant, and what is meant to be done to it.
* `SessionShows` — the record of a session that is as it is meant.

## Main results

* `ensures_does` — **what is done to a session is what is meant**.
-/

namespace ActonService

open Effect

/-! ### Operations -/

/-- What a page does with its session. -/
inductive SessionOp
  | getOrCreate (length : ℕ)
  | regenerateToken (length : ℕ)
  | check (config : CsrfConfig) (method : Method) (headers : HeaderMap)
  | push (messages : List FlashMessage)
  | clearFlash
  | takeFlash
  | load
  /-- The data of an extractor is saved, whatever was done to it. -/
  | save (auth : AuthSession)
  | clear
  | logout (audit : Option (AuditLogger × AuditSource)) (auth : AuthSession)
  | destroy
  | regenerate
  | getValue (key : String)
  | setValue (key : String) (v : Json)
  | removeValue (key : String)
  | hasKey (key : String)

/-- What comes of it. -/
def SessionOp.Result : SessionOp → Type
  | .getOrCreate _ => CsrfToken
  | .regenerateToken _ => CsrfToken
  | .check _ _ _ => Option TextResponse
  | .push _ => Unit
  | .clearFlash => Unit
  | .takeFlash => List FlashMessage
  | .load => AuthSession
  | .save _ => Unit
  | .clear => Unit
  | .logout _ _ => Unit
  | .destroy => Unit
  | .regenerate => Unit
  | .getValue _ => Option Json
  | .setValue _ _ => Unit
  | .removeValue _ => Option Json
  | .hasKey _ => Bool

variable (dataError : Json → String)

/-- What it runs. -/
def SessionOp.program : (op : SessionOp) → SessionProg op.Result
  | .getOrCreate length => CsrfToken.getOrCreate dataError length
  | .regenerateToken length => CsrfToken.regenerate dataError length
  | .check config method headers => csrfMiddleware dataError config method headers
  | .push messages => FlashMessages.pushMany dataError messages
  | .clearFlash => FlashMessages.clear dataError
  | .takeFlash => FlashMessages.fromRequestParts dataError true
  | .load => TypedSession.load (authCodec dataError) .standard true
  | .save auth => TypedSession.save (authCodec dataError) auth
  | .clear => (TypedSession.clear (authCodec dataError) .standard).2
  | .logout audit auth => (TypedSession.logout dataError audit auth).2
  | .destroy => TypedSession.destroy
  | .regenerate => TypedSession.regenerate
  | .getValue key => SessionData.getValue (valueCodec dataError) key
  | .setValue key v => SessionData.setValue (valueCodec dataError) key v
  | .removeValue key => SessionData.removeValue (valueCodec dataError) key
  | .hasKey key => SessionData.hasKey dataError key

/-- A name the framework keeps something under. -/
def IsOwnKey (key : String) : Prop :=
  key = csrfSessionKey ∨ key = flashSessionKey ∨ key = typedDataKey

/-- The values of the service's own stand under names of its own. -/
def SessionOp.Proper : SessionOp → Prop
  | .getValue key => ¬ IsOwnKey key
  | .setValue key _ => ¬ IsOwnKey key
  | .removeValue key => ¬ IsOwnKey key
  | .hasKey key => ¬ IsOwnKey key
  | _ => True

/-- A request is checked against the token of the session. -/
def SessionOp.isCheck : SessionOp → Bool
  | .check _ _ _ => true
  | _ => false

/-! ### Sessions as they are meant -/

/-- A session as it is meant. -/
structure SessionView where
  token : Option String
  flash : List FlashMessage
  auth : Option AuthSession
  others : String → Option Json
  logged : List AuditEvent

/-- The session with nothing in it. -/
def SessionView.emptied (v : SessionView) : SessionView :=
  { v with token := none, flash := [], auth := none, others := fun _ => none }

abbrev SessionEntry := JournalEntry SessionError SessionOp.Result

/-- What is meant to be done. -/
inductive Does :
    SessionView → (op : SessionOp) → Except SessionError op.Result → SessionView → Prop
  | failed (v : SessionView) {op : SessionOp} (h : op.isCheck = false) (e : SessionError) :
      Does v op (.error e) v
  | emptied (v : SessionView) (e : SessionError) : Does v .destroy (.error e) v.emptied
  | tokenFound {v : SessionView} {token : String} (h : v.token = some token) (length : ℕ) :
      Does v (.getOrCreate length) (.ok (CsrfToken.mk token)) v
  | tokenMade {v : SessionView} (h : v.token = none) {length : ℕ} {s : List Char}
      (hs : IsSample length s) :
      Does v (.getOrCreate length) (.ok (CsrfToken.mk (String.ofList s)))
        { v with token := some (String.ofList s) }
  | tokenReplaced (v : SessionView) {length : ℕ} {s : List Char} (hs : IsSample length s) :
      Does v (.regenerateToken length) (.ok (CsrfToken.mk (String.ofList s)))
        { v with token := some (String.ofList s) }
  | checked (v : SessionView) (config : CsrfConfig) (method : Method) (headers : HeaderMap) :
      Does v (.check config method headers) (.ok (config.verdict method headers v.token)) v
  /-- The session could not be read. -/
  | unread (v : SessionView) (config : CsrfConfig) (method : Method) (headers : HeaderMap) :
      Does v (.check config method headers) (.ok (config.verdict method headers none)) v
  | pushed (v : SessionView) (messages : List FlashMessage) :
      Does v (.push messages) (.ok ()) { v with flash := v.flash ++ messages }
  | dropped (v : SessionView) : Does v .clearFlash (.ok ()) { v with flash := [] }
  | taken (v : SessionView) : Does v .takeFlash (.ok v.flash) { v with flash := [] }
  | loaded (v : SessionView) : Does v .load (.ok (v.auth.getD .standard)) v
  | saved (v : SessionView) (auth : AuthSession) :
      Does v (.save auth) (.ok ()) { v with auth := some auth }
  | cleared (v : SessionView) : Does v .clear (.ok ()) { v with auth := none }
  | loggedOut (v : SessionView) {audit : Option (AuditLogger × AuditSource)} {auth : AuthSession}
      {events : List AuditEvent} (h : IsLogoutOf audit auth events) :
      Does v (.logout audit auth) (.ok ())
        { v with auth := some auth.logout, logged := v.logged ++ events }
  | destroyed (v : SessionView) : Does v .destroy (.ok ()) v.emptied
  | regenerated (v : SessionView) : Does v .regenerate (.ok ()) v
  | valueFound (v : SessionView) (key : String) : Does v (.getValue key) (.ok (v.others key)) v
  | valueSet (v : SessionView) (key : String) (w : Json) :
      Does v (.setValue key w) (.ok ())
        { v with others := Function.update v.others key (some w) }
  | valueTaken (v : SessionView) (key : String) :
      Does v (.removeValue key) (.ok (v.others key))
        { v with others := Function.update v.others key none }
  | keyFound (v : SessionView) (key : String) :
      Does v (.hasKey key) (.ok (v.others key).isSome) v

/-! ### Records of sessions -/

/-- The record of a session that is as it is meant. -/
structure SessionShows (r : SessionRecord) (v : SessionView) : Prop where
  token : HoldsValue (stringCodec dataError) r csrfSessionKey v.token
  flash : ∃ x, HoldsValue (flashCodec dataError) r flashSessionKey x ∧ x.getD [] = v.flash
  auth : HoldsValue (authCodec dataError) r typedDataKey v.auth
  others : ∀ key, ¬ IsOwnKey key → r.values key = v.others key
  logged : r.logged = v.logged

section Refinement

variable {dataError : Json → String} {r : SessionRecord} {v : SessionView}

theorem csrfKey_ne_flashKey : csrfSessionKey ≠ flashSessionKey := by decide

theorem csrfKey_ne_dataKey : csrfSessionKey ≠ typedDataKey := by decide

theorem flashKey_ne_dataKey : flashSessionKey ≠ typedDataKey := by decide

/-- The values under other names are left alone. -/
theorem SessionShows.others_set (h : SessionShows dataError r v) {key : String}
    (hown : IsOwnKey key)
    (w : Option Json) (other : String) (hother : ¬ IsOwnKey other) :
    (r.set key w).values other = v.others other := by
  have hne : other ≠ key := fun heq => hother (heq ▸ hown)
  rw [r.set_of_ne hne, h.others other hother]

theorem SessionShows.setToken (h : SessionShows dataError r v) (token : String) :
    SessionShows dataError (r.set csrfSessionKey (some (.string token)))
      { v with token := some token } := by
  obtain ⟨x, hx, hflash⟩ := h.flash
  exact ⟨holdsValue_set_some rfl, ⟨x, hx.set csrfKey_ne_flashKey.symm _, hflash⟩,
    h.auth.set csrfKey_ne_dataKey.symm _, h.others_set (.inl rfl) _, h.logged⟩

theorem SessionShows.setFlash (h : SessionShows dataError r v) (messages : List FlashMessage) :
    SessionShows dataError (r.set flashSessionKey (some (flashesJson messages)))
      { v with flash := messages } :=
  ⟨h.token.set csrfKey_ne_flashKey _, ⟨some messages, holdsValue_set_some rfl, rfl⟩,
    h.auth.set flashKey_ne_dataKey.symm _, h.others_set (.inr (.inl rfl)) _, h.logged⟩

theorem SessionShows.dropFlash (h : SessionShows dataError r v) :
    SessionShows dataError (r.set flashSessionKey none) { v with flash := [] } :=
  ⟨h.token.set csrfKey_ne_flashKey _, ⟨none, holdsValue_set_none, rfl⟩,
    h.auth.set flashKey_ne_dataKey.symm _, h.others_set (.inr (.inl rfl)) _, h.logged⟩

theorem SessionShows.setAuth (h : SessionShows dataError r v) {auth : AuthSession} {w : Json}
    (hwrite : (authCodec dataError).write auth = .ok w) :
    SessionShows dataError (r.set typedDataKey (some w)) { v with auth := some auth } := by
  obtain ⟨x, hx, hflash⟩ := h.flash
  exact ⟨h.token.set csrfKey_ne_dataKey _, ⟨x, hx.set flashKey_ne_dataKey _, hflash⟩,
    holdsValue_set_some hwrite, h.others_set (.inr (.inr rfl)) _, h.logged⟩

theorem SessionShows.dropAuth (h : SessionShows dataError r v) :
    SessionShows dataError (r.set typedDataKey none) { v with auth := none } := by
  obtain ⟨x, hx, hflash⟩ := h.flash
  exact ⟨h.token.set csrfKey_ne_dataKey _, ⟨x, hx.set flashKey_ne_dataKey _, hflash⟩,
    holdsValue_set_none, h.others_set (.inr (.inr rfl)) _, h.logged⟩

theorem SessionShows.setOther (h : SessionShows dataError r v) {key : String}
    (hkey : ¬ IsOwnKey key)
    (w : Option Json) :
    SessionShows dataError (r.set key w) { v with others := Function.update v.others key w } := by
  obtain ⟨x, hx, hflash⟩ := h.flash
  have hne : ∀ own, IsOwnKey own → own ≠ key := fun own hown heq => hkey (heq ▸ hown)
  refine ⟨h.token.set (hne _ (.inl rfl)) w, ⟨x, hx.set (hne _ (.inr (.inl rfl))) w, hflash⟩,
    h.auth.set (hne _ (.inr (.inr rfl))) w, fun other hother => ?_, h.logged⟩
  by_cases heq : other = key
  · subst heq
    simp
  · simp [r.set_of_ne heq, heq, h.others other hother]

theorem SessionShows.flushed (h : SessionShows dataError r v) :
    SessionShows dataError r.flushed v.emptied :=
  ⟨rfl, ⟨none, rfl, rfl⟩, rfl, fun _ _ => rfl, h.logged⟩

theorem SessionShows.log (h : SessionShows dataError r v) (events : List AuditEvent) :
    SessionShows dataError { r with logged := r.logged ++ events }
      { v with logged := v.logged ++ events } :=
  ⟨h.token, h.flash, h.auth, h.others, congrArg (· ++ events) h.logged⟩

/-- What an operation comes to in a session that is as it is meant. -/
def Refined (dataError : Json → String) (v : SessionView) (op : SessionOp)
    (result : Except SessionError op.Result) (r' : SessionRecord) : Prop :=
  ∃ v', Does v op result v' ∧ SessionShows dataError r' v'

theorem Refined.failed (h : SessionShows dataError r v) {op : SessionOp} (hop : op.isCheck = false)
    {result : Except SessionError op.Result} (herror : ∃ e, result = .error e) :
    Refined dataError v op result r := by
  obtain ⟨e, rfl⟩ := herror
  exact ⟨v, .failed v hop e, h⟩

theorem ensures_does_token (h : SessionShows dataError r v) (length : ℕ) :
    (SessionOp.program dataError (.getOrCreate length)).Ensures sessionContract
        (Refined dataError v (.getOrCreate length)) r ∧
      (SessionOp.program dataError (.regenerateToken length)).Ensures sessionContract
        (Refined dataError v (.regenerateToken length)) r := by
  constructor
  · refine (ensures_getOrCreate h.token length).mono ?_
    rintro result r' (⟨token, htoken, rfl, rfl⟩ |
      ⟨hnone, ⟨s, hs, rfl, rfl⟩ | ⟨herror, rfl⟩⟩ | ⟨herror, rfl⟩)
    · exact ⟨v, .tokenFound htoken length, h⟩
    · exact ⟨_, .tokenMade hnone hs, h.setToken _⟩
    · exact .failed h rfl herror
    · exact .failed h rfl herror
  · refine (ensures_regenerate length).mono ?_
    rintro result r' (⟨s, hs, rfl, rfl⟩ | ⟨herror, rfl⟩)
    · exact ⟨_, .tokenReplaced v hs, h.setToken _⟩
    · exact .failed h rfl herror

theorem ensures_does_check (h : SessionShows dataError r v) (config : CsrfConfig) (method : Method)
    (headers : HeaderMap) :
    (SessionOp.program dataError (.check config method headers)).Ensures sessionContract
      (Refined dataError v (.check config method headers)) r := by
  refine (ensures_csrfMiddleware h.token).mono ?_
  rintro result r' ⟨rfl, rfl | rfl⟩
  · exact ⟨v, .checked v config method headers, h⟩
  · exact ⟨v, .unread v config method headers, h⟩

theorem ensures_does_push (h : SessionShows dataError r v) (messages : List FlashMessage) :
    (SessionOp.program dataError (.push messages)).Ensures sessionContract
      (Refined dataError v (.push messages)) r := by
  obtain ⟨x, hx, hflash⟩ := h.flash
  refine (ensures_pushMany hx messages).mono ?_
  rintro result r' (⟨rfl, rfl⟩ | ⟨herror, rfl⟩)
  · rw [hflash]
    exact ⟨_, .pushed v messages, h.setFlash _⟩
  · exact .failed h rfl herror

theorem ensures_does_takeFlash (h : SessionShows dataError r v) :
    (SessionOp.program dataError .takeFlash).Ensures sessionContract
        (Refined dataError v .takeFlash) r ∧
      (SessionOp.program dataError .clearFlash).Ensures sessionContract
        (Refined dataError v .clearFlash) r := by
  obtain ⟨x, hx, hflash⟩ := h.flash
  constructor
  · refine (ensures_extract hx).mono ?_
    rintro result r' (⟨rfl, rfl⟩ | ⟨herror, rfl⟩)
    · rw [hflash]
      exact ⟨_, .taken v, h.dropFlash⟩
    · exact .failed h rfl herror
  · refine (ensures_clear hx).mono ?_
    rintro result r' (⟨rfl, rfl⟩ | ⟨herror, rfl⟩)
    · exact ⟨_, .dropped v, h.dropFlash⟩
    · exact .failed h rfl herror

theorem ensures_does_data (h : SessionShows dataError r v) (auth : AuthSession)
    (audit : Option (AuditLogger × AuditSource)) :
    (SessionOp.program dataError .load).Ensures sessionContract (Refined dataError v .load) r ∧
      (SessionOp.program dataError (.save auth)).Ensures sessionContract
        (Refined dataError v (.save auth)) r ∧
      (SessionOp.program dataError .clear).Ensures sessionContract
        (Refined dataError v .clear) r ∧
      (SessionOp.program dataError (.logout audit auth)).Ensures sessionContract
        (Refined dataError v (.logout audit auth)) r := by
  refine ⟨(ensures_load h.auth).mono ?_, (ensures_save auth).mono ?_,
    (ensures_clearData h.auth).mono ?_, (ensures_logout audit auth).mono ?_⟩
  · rintro result r' ⟨rfl, rfl | herror⟩
    · exact ⟨v, .loaded v, h⟩
    · exact .failed h rfl herror
  · rintro result r' (⟨rfl, w, hwrite, rfl⟩ | ⟨herror, rfl⟩)
    · exact ⟨_, .saved v auth, h.setAuth hwrite⟩
    · exact .failed h rfl herror
  · rintro result r' (⟨rfl, rfl⟩ | ⟨herror, rfl⟩)
    · exact ⟨_, .cleared v, h.dropAuth⟩
    · exact .failed h rfl herror
  · rintro result r' (⟨rfl, events, hevents, rfl⟩ | ⟨herror, rfl⟩)
    · exact ⟨_, .loggedOut v hevents, (h.setAuth rfl).log events⟩
    · exact .failed h rfl herror

theorem ensures_does_whole (h : SessionShows dataError r v) :
    (SessionOp.program dataError .destroy).Ensures sessionContract
        (Refined dataError v .destroy) r ∧
      (SessionOp.program dataError .regenerate).Ensures sessionContract
        (Refined dataError v .regenerate) r := by
  refine ⟨ensures_flush.mono ?_, ensures_cycleId.mono ?_⟩
  · rintro result r' (⟨rfl, rfl⟩ | ⟨⟨e, rfl⟩, rfl | rfl⟩)
    · exact ⟨_, .destroyed v, h.flushed⟩
    · exact .failed h rfl ⟨e, rfl⟩
    · exact ⟨_, .emptied v e, h.flushed⟩
  · rintro result r' ⟨rfl, rfl | herror⟩
    · exact ⟨v, .regenerated v, h⟩
    · exact .failed h rfl herror

/-- A value of the service's own is read as it stands. -/
theorem holdsValue_value (r : SessionRecord) (key : String) :
    HoldsValue (valueCodec dataError) r key (r.values key) := by
  rcases hvalue : r.values key with _ | w
  · exact hvalue
  · exact ⟨w, rfl, hvalue⟩

theorem ensures_does_value (h : SessionShows dataError r v) {key : String} (hkey : ¬ IsOwnKey key)
    (w : Json) :
    (SessionOp.program dataError (.getValue key)).Ensures sessionContract
        (Refined dataError v (.getValue key)) r ∧
      (SessionOp.program dataError (.setValue key w)).Ensures sessionContract
        (Refined dataError v (.setValue key w)) r ∧
      (SessionOp.program dataError (.removeValue key)).Ensures sessionContract
        (Refined dataError v (.removeValue key)) r ∧
      (SessionOp.program dataError (.hasKey key)).Ensures sessionContract
        (Refined dataError v (.hasKey key)) r := by
  have hvalue := h.others key hkey
  have hset : (SessionData.setValue (valueCodec dataError) key w).Ensures sessionContract _ r :=
    ensures_insert w
  refine ⟨(ensures_get (holdsValue_value r key)).mono ?_, hset.mono ?_,
    (ensures_remove (holdsValue_value r key)).mono ?_, (ensures_hasKey key).mono ?_⟩
  · rintro result r' ⟨rfl, rfl | herror⟩
    · rw [hvalue]
      exact ⟨v, .valueFound v key, h⟩
    · exact .failed h rfl herror
  · rintro result r' (⟨rfl, _, hwrite, rfl⟩ | ⟨herror, rfl⟩)
    · cases hwrite
      exact ⟨_, .valueSet v key w, h.setOther hkey _⟩
    · exact .failed h rfl herror
  · rintro result r' (⟨rfl, rfl⟩ | ⟨herror, rfl⟩)
    · rw [hvalue]
      exact ⟨_, .valueTaken v key, h.setOther hkey _⟩
    · exact .failed h rfl herror
  · rintro result r' ⟨rfl, rfl | herror⟩
    · rw [hvalue]
      exact ⟨v, .keyFound v key, h⟩
    · exact .failed h rfl herror

/-- **What is done to a session is what is meant.** -/
theorem ensures_does (h : SessionShows dataError r v) {op : SessionOp} (hop : op.Proper) :
    (op.program dataError).Ensures sessionContract (Refined dataError v op) r := by
  cases op with
  | getOrCreate length => exact (ensures_does_token h length).1
  | regenerateToken length => exact (ensures_does_token h length).2
  | check config method headers => exact ensures_does_check h config method headers
  | push messages => exact ensures_does_push h messages
  | clearFlash => exact (ensures_does_takeFlash h).2
  | takeFlash => exact (ensures_does_takeFlash h).1
  | load => exact (ensures_does_data h .standard none).1
  | save auth => exact (ensures_does_data h auth none).2.1
  | clear => exact (ensures_does_data h .standard none).2.2.1
  | logout audit auth => exact (ensures_does_data h auth audit).2.2.2
  | destroy => exact (ensures_does_whole h).1
  | regenerate => exact (ensures_does_whole h).2
  | getValue key => exact (ensures_does_value h hop .null).1
  | setValue key w => exact (ensures_does_value h hop w).2.1
  | removeValue key => exact (ensures_does_value h hop .null).2.2.1
  | hasKey key => exact (ensures_does_value h hop .null).2.2.2

end Refinement

end ActonService
