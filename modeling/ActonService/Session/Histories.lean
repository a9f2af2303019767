import ActonService.Audit.Chain
import ActonService.Session.Pages

/-!
# Histories of pages

What a page has seen of its session, after the pages before it whose copies were saved and loaded
again: the messages they took, the tokens their requests passed with, and the users they were served
to.  Every call on a session may have failed, and whatever a page did whose copy was not saved is in
no later history.

## Main definitions

* `SessionEntry.pushed`, `SessionEntry.taken` — the messages that came and went.
* `lastToken`, `lastAuth` — the token that was issued last, and the user that was saved last.
* `failingSessions` — sessions whose calls fail when they are told to.

## Main results

* `flash_delivered` — **every message that was pushed is taken once, in its order**, unless it is
  dropped.
* `csrf_passes_iff` — **a request passes with the token that was issued last**, and with no other.
* `authenticated_was_saved` — **a user is authenticated only if it was saved last**, and a page has
  logged the logouts that it saved.
-/

namespace ActonService

open Effect

/-! ### Messages -/

/-- The messages that were put in. -/
def SessionEntry.pushed : SessionEntry → List FlashMessage
  | ⟨.push messages, .ok _⟩ => messages
  | _ => []

/-- The messages an entry has taken; none if it is another operation or has failed. -/
def SessionEntry.taken : SessionEntry → List FlashMessage
  | ⟨.takeFlash, .ok messages⟩ => messages
  | _ => []

/-- Messages may be dropped by the operation without being shown: it clears them or destroys the
session. -/
def SessionOp.drops : SessionOp → Bool
  | .clearFlash => true
  | .destroy => true
  | _ => false

/-- The messages of a session after what was done. -/
theorem Does.flash {v v' : SessionView} {e : SessionEntry} (h : Does v e.op e.result v') :
    (e.op.drops = true ∧ e.pushed = [] ∧ e.taken = [] ∧ (v'.flash = [] ∨ v'.flash = v.flash)) ∨
      (e.op.drops = false ∧ e.taken ++ v'.flash = v.flash ++ e.pushed) := by
  obtain ⟨op, result⟩ := e
  change Does v op result v' at h
  cases h with
  | failed hop e =>
    cases op with
    | clearFlash => exact .inl ⟨rfl, rfl, rfl, .inr rfl⟩
    | destroy => exact .inl ⟨rfl, rfl, rfl, .inr rfl⟩
    | _ => exact .inr ⟨rfl, (List.append_nil v.flash).symm⟩
  | emptied e => exact .inl ⟨rfl, rfl, rfl, .inl rfl⟩
  | destroyed => exact .inl ⟨rfl, rfl, rfl, .inl rfl⟩
  | dropped => exact .inl ⟨rfl, rfl, rfl, .inl rfl⟩
  | pushed messages => exact .inr ⟨rfl, rfl⟩
  | taken => exact .inr ⟨rfl, rfl⟩
  | _ => exact .inr ⟨rfl, (List.append_nil v.flash).symm⟩

/-- Messages are taken once at most, in the order they came in. -/
theorem sublist_of_journal {v v' : SessionView} {es : List SessionEntry}
    (h : Journal Does v es v') :
    (es.flatMap SessionEntry.taken ++ v'.flash).Sublist
      (v.flash ++ es.flatMap SessionEntry.pushed) := by
  refine h.history (I := fun es v' => (es.flatMap SessionEntry.taken ++ v'.flash).Sublist
    (v.flash ++ es.flatMap SessionEntry.pushed)) (by simp) fun es b (e : SessionEntry) c ih he => ?_
  rw [List.flatMap_append, List.flatMap_append, List.flatMap_singleton, List.flatMap_singleton]
  rcases he.flash with ⟨-, hpushed, htaken, hflash⟩ | ⟨-, hflash⟩
  · rw [hpushed, htaken, List.append_nil, List.append_nil]
    rcases hflash with hflash | hflash
    · rw [hflash, List.append_nil]
      exact (List.sublist_append_left _ _).trans ih
    · rw [hflash]
      exact ih
  · rw [List.append_assoc, hflash, ← List.append_assoc, ← List.append_assoc]
    exact ih.append (List.Sublist.refl _)

/-- If none are dropped, none are lost. -/
theorem eq_of_journal {v v' : SessionView} {es : List SessionEntry} (h : Journal Does v es v')
    (hkept : ∀ e ∈ es, SessionOp.drops e.op = false) :
    es.flatMap SessionEntry.taken ++ v'.flash = v.flash ++ es.flatMap SessionEntry.pushed := by
  induction h with
  | nil v => simp
  | cons he _ ih =>
    obtain ⟨hfirst, hrest⟩ := List.forall_mem_cons.mp hkept
    rcases Does.flash (e := ⟨_, _⟩) he with ⟨hdrops, -⟩ | ⟨-, hflash⟩
    · rw [hfirst] at hdrops
      cases hdrops
    · rw [List.flatMap_cons, List.flatMap_cons, List.append_assoc, ih hrest, ← List.append_assoc,
        hflash, List.append_assoc]

/-! ### Tokens -/

/-- The token of a session after what was done, as far as it was not destroyed in vain. -/
def SessionEntry.token (token : Option String) : SessionEntry → Option String
  | ⟨.getOrCreate _, .ok issued⟩ => some issued.value
  | ⟨.regenerateToken _, .ok issued⟩ => some issued.value
  | ⟨.destroy, .ok _⟩ => none
  | _ => token

/-- The token that was issued last, unless the session was destroyed since. -/
def lastToken (token : Option String) (es : List SessionEntry) : Option String :=
  es.foldl SessionEntry.token token

/-- Destroying the session has failed. -/
def SessionEntry.destroyFailed : SessionEntry → Bool
  | ⟨.destroy, .error _⟩ => true
  | _ => false

theorem Does.token {v v' : SessionView} {e : SessionEntry} (h : Does v e.op e.result v') :
    v'.token = e.token v.token ∨ (e.destroyFailed = true ∧ v'.token = none) := by
  obtain ⟨op, result⟩ := e
  change Does v op result v' at h
  cases h with
  | failed hop e => cases op <;> exact .inl rfl
  | emptied e => exact .inr ⟨rfl, rfl⟩
  | tokenFound h length => exact .inl h
  | _ => exact .inl rfl

/-- A register of a session that is what was done to it last, unless the session was destroyed in
vain: then there may be nothing in it. -/
theorem register_of_journal {α : Type} {register : SessionView → Option α}
    {next : Option α → SessionEntry → Option α}
    (hstep : ∀ v (e : SessionEntry) v', Does v e.op e.result v' →
      register v' = next (register v) e ∨ (e.destroyFailed = true ∧ register v' = none))
    (hnone : ∀ e before a, next none e = some a → next (some before) e = some a)
    {v v' : SessionView} {es : List SessionEntry} (h : Journal Does v es v') :
    (∀ a, register v' = some a → es.foldl next (register v) = some a) ∧
      ((∀ e ∈ es, SessionEntry.destroyFailed e = false) →
        register v' = es.foldl next (register v)) := by
  refine h.history (I := fun es v' =>
    (∀ a, register v' = some a → es.foldl next (register v) = some a) ∧
      ((∀ e ∈ es, SessionEntry.destroyFailed e = false) →
        register v' = es.foldl next (register v)))
    ⟨fun _ h => h, fun _ => rfl⟩ fun es b (e : SessionEntry) c ih he => ?_
  rw [List.foldl_append, List.foldl_cons, List.foldl_nil]
  constructor
  · intro a ha
    rcases hstep b e c he with hkept | ⟨-, hc⟩
    · rw [ha] at hkept
      cases hb : register b with
      | some before => rw [ih.1 before hb, ← hb, ← hkept]
      | none =>
        rw [hb] at hkept
        cases es.foldl next (register v) with
        | none => exact hkept.symm
        | some before => exact hnone e before a hkept.symm
    · rw [hc] at ha
      cases ha
  · intro hall
    have hes : ∀ e ∈ es, SessionEntry.destroyFailed e = false :=
      fun e' he' => hall e' (by simp [he'])
    rcases hstep b e c he with hkept | ⟨hfailed, -⟩
    · rw [hkept, ih.2 hes]
    · rw [hall e (by simp)] at hfailed
      cases hfailed

/-- The token of a session is the one that was issued last, or none. -/
theorem token_of_journal {v v' : SessionView} {es : List SessionEntry} (h : Journal Does v es v') :
    (∀ token, v'.token = some token → lastToken v.token es = some token) ∧
      ((∀ e ∈ es, SessionEntry.destroyFailed e = false) → v'.token = lastToken v.token es) := by
  refine register_of_journal (fun v e v' he => Does.token he) (fun e before token htoken => ?_) h
  obtain ⟨op, result⟩ := e
  cases op <;> cases result <;> first | exact htoken | cases htoken

/-- What a check comes to: the verdict on the token of the session, or on none where it was not
read. -/
theorem Does.check {v v' : SessionView} {config : CsrfConfig} {method : Method}
    {headers : HeaderMap} {response : Option TextResponse}
    (h : Does v (.check config method headers) (.ok response) v') :
    response = config.verdict method headers v.token ∨
      response = config.verdict method headers none := by
  cases h with
  | checked => exact .inl rfl
  | unread => exact .inr rfl

/-! ### Users -/

/-- The user of a session after what was done, as far as it was not destroyed in vain. -/
def SessionEntry.auth (auth : Option AuthSession) : SessionEntry → Option AuthSession
  | ⟨.save saved, .ok _⟩ => some saved
  | ⟨.logout _ left, .ok _⟩ => some left.logout
  | ⟨.clear, .ok _⟩ => none
  | ⟨.destroy, .ok _⟩ => none
  | _ => auth

/-- The user that was saved last, if it was neither logged out nor cleared nor destroyed since. -/
def lastAuth (auth : Option AuthSession) (es : List SessionEntry) : Option AuthSession :=
  es.foldl SessionEntry.auth auth

/-- The events that were logged by an entry: those of a logout that has succeeded, and none by any
other. -/
def SessionEntry.Logs : SessionEntry → List AuditEvent → Prop
  | ⟨.logout audit auth, .ok _⟩, events => IsLogoutOf audit auth events
  | _, events => events = []

theorem Does.auth {v v' : SessionView} {e : SessionEntry} (h : Does v e.op e.result v') :
    v'.auth = e.auth v.auth ∨ (e.destroyFailed = true ∧ v'.auth = none) := by
  obtain ⟨op, result⟩ := e
  change Does v op result v' at h
  cases h with
  | failed hop e => cases op <;> exact .inl rfl
  | emptied e => exact .inr ⟨rfl, rfl⟩
  | _ => exact .inl rfl

/-- The user of a session is the one that was saved last, or none. -/
theorem auth_of_journal {v v' : SessionView} {es : List SessionEntry} (h : Journal Does v es v') :
    (∀ auth, v'.auth = some auth → lastAuth v.auth es = some auth) ∧
      ((∀ e ∈ es, SessionEntry.destroyFailed e = false) → v'.auth = lastAuth v.auth es) := by
  refine register_of_journal (fun v e v' he => Does.auth he) (fun e before auth hauth => ?_) h
  obtain ⟨op, result⟩ := e
  cases op <;> cases result <;> first | exact hauth | cases hauth

theorem Does.logs {v v' : SessionView} {e : SessionEntry} (h : Does v e.op e.result v') :
    ∃ events, e.Logs events ∧ v'.logged = v.logged ++ events := by
  obtain ⟨op, result⟩ := e
  change Does v op result v' at h
  cases h with
  | failed hop e => exact ⟨[], by cases op <;> rfl, (List.append_nil _).symm⟩
  | loggedOut hevents => exact ⟨_, hevents, rfl⟩
  | _ => exact ⟨[], rfl, (List.append_nil _).symm⟩

/-- The events that were logged are those of the entries, in their order. -/
theorem logs_of_journal {v v' : SessionView} {es : List SessionEntry} (h : Journal Does v es v') :
    ∃ events, List.Forall₂ SessionEntry.Logs es events ∧
      v'.logged = v.logged ++ events.flatten := by
  induction h with
  | nil v => exact ⟨[], .nil, (List.append_nil _).symm⟩
  | cons he _ ih =>
    obtain ⟨first, hfirst, hlogged⟩ := Does.logs (e := ⟨_, _⟩) he
    obtain ⟨rest, hrest, hlater⟩ := ih
    exact ⟨first :: rest, .cons hfirst hrest, by rw [hlater, hlogged]; simp⟩

/-! ### Sessions that fail when they are told to -/

/-- A call fails if it is told to.  The characters drawn are all the same. -/
def failingCall : SessionRecord → ℕ → Bool → (c : SessionCall) → SessionRecord × c.Answer
  | r, _, fails, .get key => (r, if fails then .error "down" else .ok (r.values key))
  | r, _, fails, .insert key v =>
    if fails then (r, .error "down") else (r.set key (some v), .ok ())
  | r, _, fails, .remove key =>
    if fails then (r, .error "down") else (r.set key none, .ok (r.values key))
  | r, _, fails, .flush => (r.flushed, if fails then .error "down" else .ok ())
  | r, _, fails, .cycleId => (r, if fails then .error "down" else .ok ())
  | r, _, _, .sample n => (r, List.replicate n 'a')
  | r, _, _, .stamp => (r, sampleUuid, sampleTime 0)
  | r, _, _, .log event => ({ r with logged := r.logged ++ [event] }, ())

theorem keeps_failingCall : KeepsContract failingCall id sessionContract := by
  intro r who fails c
  cases c with
  | get key => cases fails <;> simp [failingCall, sessionContract]
  | insert key v => cases fails <;> simp [failingCall, sessionContract]
  | remove key => cases fails <;> simp [failingCall, sessionContract]
  | flush => cases fails <;> simp [failingCall, sessionContract]
  | cycleId => cases fails <;> simp [failingCall, sessionContract]
  | sample n =>
    refine ⟨⟨List.length_replicate, fun c hc => ?_⟩, rfl⟩
    rw [List.eq_of_mem_replicate hc]
    decide
  | stamp => rfl
  | log event => rfl

/-- Sessions that are their records. -/
def failingSessions : Sessions SessionRecord Bool where
  answer := failingCall
  shown := id
  opened values := ⟨values, []⟩
  keeps := keeps_failingCall
  shown_opened _ := rfl

/-! ### Histories -/

section Histories

variable {Id σ ι : Type} [DecidableEq Id] {world : Sessions σ ι} {dataError : Json → String}
  {actions : List (PageAction Id ι)} {who : ℕ} {page : SessionPage σ}

/-- **Every message that was pushed is taken once, in its order**, unless it is dropped: in the
history of a page, what was taken and what is pending are some of what was pushed, and all of it if
nothing is dropped; then a page takes all that is left. -/
theorem flash_delivered (hproper : ∀ a ∈ actions, a.Proper)
    (hpage : (SessionPages.run world dataError actions).pages who = some page) :
    ∃ x, HoldsValue (flashCodec dataError) (world.shown page.session) flashSessionKey x ∧
      (page.history.flatMap SessionEntry.taken ++ x.getD []).Sublist
        (page.history.flatMap SessionEntry.pushed) ∧
      ((∀ e ∈ page.history, SessionOp.drops e.op = false) →
        page.history.flatMap SessionEntry.taken ++ x.getD []
          = page.history.flatMap SessionEntry.pushed) ∧
      ∀ pre (messages : List FlashMessage) post,
        page.history = pre ++ ⟨.takeFlash, .ok messages⟩ :: post →
        (∀ e ∈ pre, SessionOp.drops e.op = false) →
        pre.flatMap SessionEntry.taken ++ messages = pre.flatMap SessionEntry.pushed := by
  obtain ⟨v, _, hjournal, hshows⟩ := exists_journal_of_page hproper hpage
  obtain ⟨x, hx, hflash⟩ := hshows.flash
  have hflash : x.getD [] = v.flash := hflash
  refine ⟨x, hx, ?_, fun hkept => ?_, fun pre messages post heq hkept => ?_⟩
  · rw [hflash]
    exact sublist_of_journal hjournal
  · rw [hflash]
    exact eq_of_journal hjournal hkept
  · rw [heq] at hjournal
    obtain ⟨b, b', hpre, htake, -⟩ := hjournal.split
    have hmessages : messages = b.flash := by
      cases htake
      rfl
    rw [hmessages]
    exact eq_of_journal hpre hkept

/-- A page pushes a message and is saved, and pushes another one, which is not saved; the next page
takes the one. -/
def sampleFlashes : List (PageAction ℕ Bool) :=
  [.load 0 7, .run 0 (.push [⟨.success, "saved"⟩]) fun _ => false, .save 0 7,
   .run 0 (.push [⟨.info, "later"⟩]) fun _ => false, .load 1 7, .run 1 .takeFlash fun _ => false]

theorem flash_delivered_sample :
    ∃ page, (SessionPages.run failingSessions (fun _ => "no such value") sampleFlashes).pages 1
        = some page ∧
      page.before = [⟨.push [⟨.success, "saved"⟩], .ok ()⟩] ∧
      page.own = [⟨.takeFlash, .ok [⟨.success, "saved"⟩]⟩] ∧
      ∃ x, HoldsValue (flashCodec fun _ => "no such value") page.session flashSessionKey x ∧
        page.history.flatMap SessionEntry.taken ++ x.getD [] = [⟨.success, "saved"⟩] := by
  obtain ⟨page, hpage, hbefore, hown⟩ : ∃ page : SessionPage SessionRecord,
      (SessionPages.run failingSessions (fun _ => "no such value") sampleFlashes).pages 1
        = some page ∧ page.before = [⟨.push [⟨.success, "saved"⟩], .ok ()⟩] ∧
      page.own = [⟨.takeFlash, .ok [⟨.success, "saved"⟩]⟩] := ⟨_, rfl, rfl, rfl⟩
  have hproper : ∀ a ∈ sampleFlashes, a.Proper := by
    simp [sampleFlashes, PageAction.Proper, SessionOp.Proper]
  obtain ⟨x, hx, -, hall, -⟩ := flash_delivered hproper hpage
  refine ⟨page, hpage, hbefore, hown, x, hx, ?_⟩
  rw [hall (by simp [SessionPage.history, hbefore, hown, SessionOp.drops]), SessionPage.history,
    hbefore, hown]
  rfl

/-- **A request passes with the token that was issued last** in the history of its page, and with no
other: one that is not exempt passes only if it carries that token, and one that carries it passes,
unless the session cannot be read or was destroyed in vain. -/
theorem csrf_passes_iff (hproper : ∀ a ∈ actions, a.Proper)
    (hpage : (SessionPages.run world dataError actions).pages who = some page)
    {pre post : List SessionEntry} {config : CsrfConfig} {method : Method} {headers : HeaderMap}
    {response : Option TextResponse}
    (heq : page.history = pre ++ ⟨.check config method headers, .ok response⟩ :: post) :
    (response = none → config.Exempt method ∨
      ∃ token, lastToken none pre = some token ∧ config.providedToken headers = some token) ∧
    ((∀ e ∈ pre, SessionEntry.destroyFailed e = false) →
      (config.Exempt method ∨
        ∃ token, lastToken none pre = some token ∧ config.providedToken headers = some token) →
      response = none ∨
        response = some (csrfErrorResponse "CSRF validation failed: no token in session")) := by
  obtain ⟨v, _, hjournal, -⟩ := exists_journal_of_page hproper hpage
  rw [heq] at hjournal
  obtain ⟨b, b', hpre, hcheck, -⟩ := hjournal.split
  obtain ⟨hissued, hlast⟩ := token_of_journal hpre
  rcases Does.check hcheck with rfl | rfl
  · constructor
    · intro hnone
      rcases verdict_eq_none_iff.mp hnone with hexempt | ⟨token, htoken, hprovided⟩
      · exact .inl hexempt
      · exact .inr ⟨token, hissued token htoken, hprovided⟩
    · intro hdestroyed hpasses
      refine .inl (verdict_eq_none_iff.mpr ?_)
      rw [hlast hdestroyed]
      exact hpasses
  · -- without the session there is no token
    constructor
    · intro hnone
      rcases verdict_eq_none_iff.mp hnone with hexempt | ⟨token, htoken, -⟩
      · exact .inl hexempt
      · cases htoken
    · intro _ _
      rw [CsrfConfig.verdict]
      cases config.enabled with
      | false => exact .inl rfl
      | true =>
        cases config.isSafe method with
        | true => exact .inl rfl
        | false => exact .inr rfl

/-- A page makes a token and is saved, and a request is sent with it. -/
def sampleChecks : List (PageAction ℕ Bool) :=
  [.load 0 7, .run 0 (.getOrCreate 2) fun _ => false, .save 0 7, .load 1 7,
   .run 1 (.check .standard .post [("x-csrf-token", strBytes "aa")]) fun _ => false]

theorem csrf_passes_iff_sample :
    ∃ page, (SessionPages.run failingSessions (fun _ => "no such value") sampleChecks).pages 1
        = some page ∧
      page.own = [⟨.check .standard .post [("x-csrf-token", strBytes "aa")], .ok none⟩] ∧
      (CsrfConfig.standard.Exempt .post ∨
        ∃ token, lastToken none page.before = some token ∧
          CsrfConfig.standard.providedToken [("x-csrf-token", strBytes "aa")] = some token) := by
  obtain ⟨page, hpage, hown⟩ : ∃ page : SessionPage SessionRecord,
      (SessionPages.run failingSessions (fun _ => "no such value") sampleChecks).pages 1
        = some page ∧
      page.own = [⟨.check .standard .post [("x-csrf-token", strBytes "aa")], .ok none⟩] :=
    ⟨_, rfl, rfl⟩
  have hproper : ∀ a ∈ sampleChecks, a.Proper := by
    simp [sampleChecks, PageAction.Proper, SessionOp.Proper]
  have heq : page.history = page.before ++
      ⟨.check .standard .post [("x-csrf-token", strBytes "aa")], .ok none⟩ :: [] := by
    rw [SessionPage.history, hown]
  exact ⟨page, hpage, hown, (csrf_passes_iff hproper hpage heq).1 rfl⟩

/-- **A user is authenticated only if it was saved last** in the history of the page, and was
neither logged out nor cleared nor destroyed since; and what a page has logged are the logouts that
it has saved. -/
theorem authenticated_was_saved (hproper : ∀ a ∈ actions, a.Proper)
    (hpage : (SessionPages.run world dataError actions).pages who = some page) :
    (∀ pre (auth : AuthSession) post, page.history = pre ++ ⟨.load, .ok auth⟩ :: post →
      (auth.isAuthenticated = true → lastAuth none pre = some auth) ∧
      ((∀ e ∈ pre, SessionEntry.destroyFailed e = false) →
        auth = (lastAuth none pre).getD .standard)) ∧
    ∃ events, List.Forall₂ SessionEntry.Logs page.own events ∧
      (world.shown page.session).logged = events.flatten := by
  constructor
  · intro pre auth post heq
    obtain ⟨v, _, hjournal, -⟩ := exists_journal_of_page hproper hpage
    rw [heq] at hjournal
    obtain ⟨b, b', hpre, hload, -⟩ := hjournal.split
    obtain ⟨hsaved, hlast⟩ := auth_of_journal hpre
    have hauth : auth = b.auth.getD .standard := by
      cases hload
      rfl
    refine ⟨fun hauthenticated => ?_, fun hdestroyed => ?_⟩
    · cases hb : b.auth with
      | some found =>
        rw [hauth, hb]
        exact hsaved found hb
      | none =>
        -- a session without a user is served to nobody
        rw [hauth, hb] at hauthenticated
        cases hauthenticated
    · rw [hauth, hlast hdestroyed]
      rfl
  · -- nothing is logged yet where the session was loaded
    obtain ⟨loaded, v, -, hown, hshows⟩ := (pagesKept_run hproper).pages who page hpage
    obtain ⟨events, hevents, hlogged⟩ := logs_of_journal hown
    exact ⟨events, hevents, by rw [hshows.logged, hlogged]; rfl⟩

/-- A user is logged in by a page that is saved, and logged out by one that is not. -/
def sampleLogins : List (PageAction ℕ Bool) :=
  let auth := AuthSession.standard.login "ada" ["admin"] 7
  [.load 0 7, .run 0 (.save auth) fun _ => false, .save 0 7, .load 1 7,
   .run 1 (.logout none auth) fun _ => false, .load 2 7, .run 2 .load fun _ => false]

theorem authenticated_was_saved_sample :
    ∃ page, (SessionPages.run failingSessions (fun _ => "no such value") sampleLogins).pages 2
        = some page ∧
      page.own = [⟨.load, .ok (AuthSession.standard.login "ada" ["admin"] 7)⟩] ∧
      lastAuth none page.before = some (AuthSession.standard.login "ada" ["admin"] 7) := by
  obtain ⟨page, hpage, hown⟩ : ∃ page : SessionPage SessionRecord,
      (SessionPages.run failingSessions (fun _ => "no such value") sampleLogins).pages 2
        = some page ∧
      page.own = [⟨.load, .ok (AuthSession.standard.login "ada" ["admin"] 7)⟩] :=
    ⟨_, rfl, rfl⟩
  have hproper : ∀ a ∈ sampleLogins, a.Proper := by
    simp [sampleLogins, PageAction.Proper, SessionOp.Proper]
  have heq : page.history = page.before ++
      ⟨.load, .ok (AuthSession.standard.login "ada" ["admin"] 7)⟩ :: [] := by
    rw [SessionPage.history, hown]
  exact ⟨page, hpage, hown, ((authenticated_was_saved hproper hpage).1 _ _ _ heq).1 rfl⟩

end Histories

end ActonService
