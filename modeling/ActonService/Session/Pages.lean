import ActonService.Session.Runs

/-!
# Pages and the store of sessions

`SessionManagerLayer` gives each request a session of its own.  It holds a copy of what the store
keeps under the id in the request's cookie, or nothing at all; the page works on the copy, and the
layer saves it after the response.  A response with a server error is not saved, the store may fail,
a session expires or is deleted, and pages overlap: the copy that is saved last stays.

What a page finds in its session is thus what it did itself after what other pages did: those whose
copies were saved and loaded again one after another, up to the one it has loaded.  This is the
history of the page.

## Main definitions

* `Sessions` — sessions that do what is known of them.
* `SessionPages`, `SessionPages.step` — the store and the pages in progress, and what happens to
  them.
* `SessionPage.history` — what was done to the session of a page.

## Main results

* `PagesKept.step`, `pagesKept_run` — **every copy, saved or in a page, holds what its history
  means**, in every order of loads, operations, saves and losses.
* `exists_journal_of_page` — the history of a page as a journal.
-/

namespace ActonService

open Effect

/-- Sessions, of which it is known what their calls do and that one that is loaded holds the values
that were saved.  Nothing has been logged in a session that was just loaded. -/
structure Sessions (σ ι : Type) where
  answer : σ → ℕ → ι → (c : SessionCall) → σ × c.Answer
  shown : σ → SessionRecord
  opened : (String → Option Json) → σ
  keeps : KeepsContract answer shown sessionContract
  shown_opened : ∀ values, shown (opened values) = ⟨values, []⟩

/-- What the store keeps under an id, and what was done to the session until it was saved. -/
structure SavedSession where
  values : String → Option Json
  history : List SessionEntry

/-- A session no page has worked on. -/
def SavedSession.new : SavedSession := ⟨fun _ => none, []⟩

/-- A page in progress: its session, what had been done to this one before it was loaded, and what
the page has done itself. -/
structure SessionPage (σ : Type) where
  session : σ
  before : List SessionEntry
  own : List SessionEntry

/-- What was done to the session of a page. -/
def SessionPage.history {σ : Type} (page : SessionPage σ) : List SessionEntry :=
  page.before ++ page.own

/-- The store, and the pages in progress. -/
structure SessionPages (Id σ : Type) where
  stored : Id → Option SavedSession
  pages : ℕ → Option (SessionPage σ)

/-- Nothing is stored yet, and no page has begun. -/
def SessionPages.new {Id σ : Type} : SessionPages Id σ := ⟨fun _ => none, fun _ => none⟩

/-- What happens to pages and to the store. -/
inductive PageAction (Id ι : Type)
  /-- A page gets the session of that id.  A call that could not load it has changed nothing, so
  that the page may be taken to begin where the session is loaded. -/
  | load (who : ℕ) (id : Id)
  /-- A page does something with its session. -/
  | run (who : ℕ) (op : SessionOp) (inputs : ℕ → ι)
  /-- The session of a page is saved under an id, which is a new one after `cycle_id` or `flush`. -/
  | save (who : ℕ) (id : Id)
  /-- The session of that id has expired, or was deleted by a page. -/
  | lose (id : Id)

/-- The values of the service's own stand under names of its own. -/
def PageAction.Proper {Id ι : Type} : PageAction Id ι → Prop
  | .run _ op _ => op.Proper
  | _ => True

section Pages

variable {Id σ ι : Type} [DecidableEq Id] (world : Sessions σ ι) (dataError : Json → String)

/-- A page that has loaded what is saved, or nothing. -/
def SavedSession.page (saved : SavedSession) : SessionPage σ :=
  ⟨world.opened saved.values, saved.history, []⟩

/-- A page that has done something more. -/
def SessionPage.run (page : SessionPage σ) (who : ℕ) (op : SessionOp) (inputs : ℕ → ι) :
    SessionPage σ :=
  let r := exec world.answer who (op.program dataError) page.session inputs
  { page with session := r.2, own := page.own ++ [⟨op, r.1⟩] }

/-- What is saved of a page. -/
def SessionPage.saved (page : SessionPage σ) : SavedSession :=
  ⟨(world.shown page.session).values, page.history⟩

/-- What happens, one after another. -/
def SessionPages.step (w : SessionPages Id σ) : PageAction Id ι → SessionPages Id σ
  | .load who id =>
    let page := ((w.stored id).getD .new).page world
    { w with pages := Function.update w.pages who (some page) }
  | .run who op inputs =>
    match w.pages who with
    | some page =>
      let next := page.run world dataError who op inputs
      { w with pages := Function.update w.pages who (some next) }
    | none => w
  | .save who id =>
    match w.pages who with
    | some page => { w with stored := Function.update w.stored id (some (page.saved world)) }
    | none => w
  | .lose id => { w with stored := Function.update w.stored id none }

/-- Whatever happens from the start. -/
def SessionPages.run (actions : List (PageAction Id ι)) : SessionPages Id σ :=
  actions.foldl (SessionPages.step world dataError) .new

end Pages

/-! ### Sessions as they are meant -/

/-- A session in which nothing was done. -/
def SessionView.new : SessionView := ⟨none, [], none, fun _ => none, []⟩

/-- A session that is the same but for what was logged in it. -/
def SessionView.relog (v : SessionView) (events : List AuditEvent) : SessionView :=
  { v with logged := events }

/-- What is logged in a session makes no difference to what is done in it. -/
theorem Does.relog {v v' : SessionView} {op : SessionOp} {result : Except SessionError op.Result}
    (h : Does v op result v') (events : List AuditEvent) :
    ∃ events', Does (v.relog events) op result (v'.relog events') := by
  cases h with
  | loggedOut hevents => exact ⟨_, .loggedOut (v.relog events) hevents⟩
  | failed hop e => exact ⟨events, .failed _ hop e⟩
  | emptied e => exact ⟨events, .emptied _ e⟩
  | tokenFound h length => exact ⟨events, .tokenFound (v := v.relog events) h length⟩
  | tokenMade h hs => exact ⟨events, .tokenMade (v := v.relog events) h hs⟩
  | tokenReplaced hs => exact ⟨events, .tokenReplaced _ hs⟩
  | checked config method headers => exact ⟨events, .checked (v.relog events) config method headers⟩
  | unread config method headers => exact ⟨events, .unread _ config method headers⟩
  | pushed messages => exact ⟨events, .pushed _ messages⟩
  | dropped => exact ⟨events, .dropped _⟩
  | taken => exact ⟨events, .taken (v.relog events)⟩
  | loaded => exact ⟨events, .loaded (v.relog events)⟩
  | saved auth => exact ⟨events, .saved _ auth⟩
  | cleared => exact ⟨events, .cleared _⟩
  | destroyed => exact ⟨events, .destroyed _⟩
  | regenerated => exact ⟨events, .regenerated _⟩
  | valueFound key => exact ⟨events, .valueFound (v.relog events) key⟩
  | valueSet key w => exact ⟨events, .valueSet _ key w⟩
  | valueTaken key => exact ⟨events, .valueTaken (v.relog events) key⟩
  | keyFound key => exact ⟨events, .keyFound (v.relog events) key⟩

theorem journal_relog {v v' : SessionView} {es : List SessionEntry} (h : Journal Does v es v')
    (events : List AuditEvent) :
    ∃ events', Journal Does (v.relog events) es (v'.relog events') := by
  have hstep : ∀ (a a' : SessionView) op r b, (∃ before, a' = a.relog before) → Does a op r b →
      ∃ b', (∃ after, b' = b.relog after) ∧ Does a' op r b' := by
    rintro a _ op r b ⟨before, rfl⟩ hdoes
    obtain ⟨after, hafter⟩ := hdoes.relog before
    exact ⟨b.relog after, ⟨after, rfl⟩, hafter⟩
  have hstart : ∃ start, v.relog events = v.relog start := ⟨events, rfl⟩
  obtain ⟨b, ⟨events', rfl⟩, hjournal⟩ := h.of_alike hstep hstart
  exact ⟨events', hjournal⟩

/-! ### Copies hold what their histories mean -/

section Kept

variable {Id σ ι : Type} {world : Sessions σ ι} {dataError : Json → String}

/-- Saved values that are what their history means. -/
def SavedSession.Kept (dataError : Json → String) (saved : SavedSession) : Prop :=
  ∃ v, Journal Does .new saved.history v ∧
    SessionShows dataError ⟨saved.values, []⟩ (v.relog [])

/-- A page whose session is what was meant before it and by itself. -/
def SessionPage.Kept (world : Sessions σ ι) (dataError : Json → String) (page : SessionPage σ) :
    Prop :=
  ∃ loaded v, Journal Does .new page.before loaded ∧ Journal Does (loaded.relog []) page.own v ∧
    SessionShows dataError (world.shown page.session) v

/-- The history of a page as one journal.  The view it leads to is the one the session shows, but
for what was logged before the page. -/
theorem SessionPage.Kept.journal {page : SessionPage σ} (h : page.Kept world dataError) :
    ∃ v events, Journal Does .new page.history v ∧
      SessionShows dataError (world.shown page.session) (v.relog events) := by
  obtain ⟨loaded, v, hbefore, hown, hshows⟩ := h
  obtain ⟨events, hjournal⟩ := journal_relog hown loaded.logged
  exact ⟨v.relog events, v.logged, journal_append.mpr ⟨loaded, hbefore, hjournal⟩, hshows⟩

theorem SavedSession.kept_new : SavedSession.new.Kept dataError :=
  ⟨.new, .nil _, ⟨rfl, ⟨none, rfl, rfl⟩, rfl, fun _ _ => rfl, rfl⟩⟩

/-- What is loaded is what was saved. -/
theorem SavedSession.Kept.page {saved : SavedSession} (h : saved.Kept dataError) :
    (saved.page world).Kept world dataError := by
  obtain ⟨v, hjournal, hshows⟩ := h
  refine ⟨v, v.relog [], hjournal, .nil _, ?_⟩
  rw [SavedSession.page, world.shown_opened]
  exact hshows

/-- What a page does is what is meant. -/
theorem SessionPage.Kept.run {page : SessionPage σ} (h : page.Kept world dataError) (who : ℕ)
    {op : SessionOp} (hop : op.Proper) (inputs : ℕ → ι) :
    (page.run world dataError who op inputs).Kept world dataError := by
  obtain ⟨loaded, v, hbefore, hown, hshows⟩ := h
  obtain ⟨v', hdoes, hshows'⟩ := exec_of_ensures world.keeps (ensures_does hshows hop) who inputs
  exact ⟨loaded, v', hbefore, hown.concat hdoes, hshows'⟩

/-- What is saved of a page is what its history means. -/
theorem SessionPage.Kept.saved {page : SessionPage σ} (h : page.Kept world dataError) :
    (page.saved world).Kept dataError := by
  obtain ⟨v, events, hjournal, hshows⟩ := h.journal
  exact ⟨v, hjournal, hshows.token, hshows.flash, hshows.auth, hshows.others, rfl⟩

/-- **Every copy of a session holds what its history means.** -/
structure PagesKept (world : Sessions σ ι) (dataError : Json → String) (w : SessionPages Id σ) :
    Prop where
  stored : ∀ id saved, w.stored id = some saved → saved.Kept dataError
  pages : ∀ who page, w.pages who = some page → page.Kept world dataError

theorem pagesKept_new : PagesKept world dataError (SessionPages.new : SessionPages Id σ) :=
  ⟨fun _ _ h => (by cases h), fun _ _ h => (by cases h)⟩

/-- A page that begins or goes on as it should. -/
theorem PagesKept.updatePage {w : SessionPages Id σ} (h : PagesKept world dataError w) (who : ℕ)
    {page : SessionPage σ} (hpage : page.Kept world dataError) :
    PagesKept world dataError { w with pages := Function.update w.pages who (some page) } := by
  refine ⟨h.stored, fun other found hfound => ?_⟩
  simp only [Function.update_apply] at hfound
  split at hfound
  · cases hfound
    exact hpage
  · exact h.pages other found hfound

variable [DecidableEq Id]

/-- A session that is saved as it should be, or lost. -/
theorem PagesKept.updateStored {w : SessionPages Id σ} (h : PagesKept world dataError w) (id : Id)
    {saved : Option SavedSession} (hsaved : ∀ s, saved = some s → s.Kept dataError) :
    PagesKept world dataError { w with stored := Function.update w.stored id saved } := by
  refine ⟨fun other found hfound => ?_, h.pages⟩
  simp only [Function.update_apply] at hfound
  split at hfound
  · exact hsaved found hfound
  · exact h.stored other found hfound

theorem PagesKept.step {w : SessionPages Id σ} (h : PagesKept world dataError w)
    {action : PageAction Id ι} (hproper : action.Proper) :
    PagesKept world dataError (w.step world dataError action) := by
  cases action with
  | load who id =>
    refine h.updatePage who (SavedSession.Kept.page ?_)
    rcases hstored : w.stored id with _ | saved
    · exact SavedSession.kept_new
    · exact h.stored id saved hstored
  | run who op inputs =>
    rw [SessionPages.step]
    rcases hpage : w.pages who with _ | page
    · exact h
    · exact h.updatePage who ((h.pages who page hpage).run who hproper inputs)
  | save who id =>
    rw [SessionPages.step]
    rcases hpage : w.pages who with _ | page
    · exact h
    · refine h.updateStored id fun saved hsaved => ?_
      cases hsaved
      exact (h.pages who page hpage).saved
  | lose id => exact h.updateStored id fun saved hsaved => by cases hsaved

/-- **Whatever happens to the pages and to the store**, every copy holds what its history means. -/
theorem pagesKept_run {actions : List (PageAction Id ι)} (hproper : ∀ a ∈ actions, a.Proper) :
    PagesKept world dataError (SessionPages.run world dataError actions) :=
  List.foldlRecOn (motive := PagesKept world dataError) actions _ pagesKept_new
    fun _ hkept a ha => hkept.step (hproper a ha)

/-- The history of a page is a journal of what is meant, and leads to what its session shows. -/
theorem exists_journal_of_page {actions : List (PageAction Id ι)}
    (hproper : ∀ a ∈ actions, a.Proper) {who : ℕ} {page : SessionPage σ}
    (hpage : (SessionPages.run world dataError actions).pages who = some page) :
    ∃ v events, Journal Does .new page.history v ∧
      SessionShows dataError (world.shown page.session) (v.relog events) :=
  ((pagesKept_run hproper).pages who page hpage).journal

end Kept

end ActonService
