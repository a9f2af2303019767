import ActonService.Tls.Credentials

/-!
# Reloading what a listener serves

`TlsConfigSource` of `tls.rs`: the reload, the poll of its files, and the reloads that a signal or
a hook triggers.  They run side by side with whoever writes the files.  A poll task keeps the
fingerprint its last reload was made for and leaves everything alone while it finds it again, also
when another reload has installed something else in the meantime.

## Main definitions

* `TlsReload.reload`, `reloadTick`, `tick`, `fromTlsConfig` — the functions of the source.
* `TlsSource`, `tlsAnswer` — the source, its files and the calls.
* `TlsNotes` — which ticks the files have not changed under, and who has installed what.
* `Undisturbed` — a tick ends with what its task has installed.

## Main results

* `converges_of_reach` — **ticks end with the current files installed in every interleaving whose
  ticks are undisturbed.**
-/

namespace ActonService.Tls

open Effect Run

/-! ### Calls -/

/-- `ReloadTick` -/
inductive ReloadTick
  | unchanged
  | reloaded (fingerprint : UInt64)
  | readFailed
  | reloadFailed
  deriving DecidableEq, Repr

/-- The calls of the reloads: files, the cells of the source, and notes of how a program has ended.
-/
inductive TlsCall
  | read (path : String)
  /-- `origin` -/
  | origin
  /-- `current.store` -/
  | store (config : ServerConfig)
  /-- A poll task starts a tick with the fingerprint it has kept. -/
  | lastSeen
  /-- A poll task looks at what its tick has come to. -/
  | ended (outcome : ReloadTick)
  /-- A reload that was triggered returns. -/
  | returned (result : Except String Unit)
  /-- Somebody writes a file. -/
  | write (path : String) (content : FileContent)

/-- The type of an answer. -/
abbrev TlsCall.Answer : TlsCall → Type
  | .read _ => FileContent
  | .origin => Option TlsConfig
  | .lastSeen => Option UInt64
  | .store _ | .ended _ | .returned _ | .write _ _ => Unit

/-- Programs over the calls.  Errors are among their results. -/
abbrev TlsProg (α : Type) := Prog TlsCall TlsCall.Answer Empty α

namespace TlsReload

/-- Reading files, the error caught. -/
def reading {ε α : Type} (p : FileProg ε α) : TlsProg (Except ε α) :=
  p.caught (fun | .read path => .read path) fun | .read _ => id

section Functions

variable (X : TlsExterns)

/-- `from_tls_config`: the configuration and the initial fingerprint. -/
def fromTlsConfig (tls : TlsConfig) : FileProg String (ServerConfig × Option UInt64) := do
  let initial ← (fingerprintCredentials X tls).caught id fun _ => id
  let config ← loadServerConfig X tls
  .ret (config, initial.toOption)

/-- The text of the error of a source without files. -/
def staticSource : String :=
  "TLS credentials cannot be reloaded: this source was built from an already-loaded ServerConfig "
    ++ "and has no files to reread"

/-- `reload` -/
def reload : TlsProg (Except String Unit) :=
  .call .origin fun origin =>
    match origin with
    | none => .ret (.error staticSource)
    | some tls => (reading (loadServerConfig X tls)).bind fun loaded =>
      match loaded with
      | .ok config => .call (.store config) fun _ => .ret (.ok ())
      | .error e => .ret (.error e)

/-- `reload_tick` -/
def reloadTick (lastSeen : Option UInt64) : TlsProg ReloadTick :=
  .call .origin fun origin =>
    match origin with
    | none => .ret .unchanged
    | some tls => (reading (fingerprintCredentials X tls)).bind fun read =>
      match read with
      | .error _ => .ret .readFailed
      | .ok fingerprint =>
        if lastSeen = some fingerprint then .ret .unchanged
        else (reload X).bind fun result =>
          match result with
          | .ok () => .ret (.reloaded fingerprint)
          | .error _ => .ret .reloadFailed

/-- A round of the loop of `spawn_reload_poll`. -/
def tick : TlsProg Unit :=
  .call .lastSeen fun lastSeen =>
    (reloadTick X lastSeen).bind fun outcome => .call (.ended outcome) .ret

/-- A reload by `SIGHUP` or by a hook. -/
def triggered : TlsProg Unit := (reload X).bind fun result => .call (.returned result) .ret

end Functions

end TlsReload

/-- What may happen to a source and its files. -/
inductive TlsOp
  | tick
  | reload
  | write (path : String) (content : FileContent)

/-- The program of an operation: a tick of the watcher, a triggered reload, or somebody else who
writes a file. -/
def TlsOp.program (X : TlsExterns) : TlsOp → TlsProg Unit
  | .tick => TlsReload.tick X
  | .reload => TlsReload.triggered X
  | .write path content => .call (.write path content) .ret

/-! ### The source -/

/-- A `TlsConfigSource` and its files, with the fingerprint each poll task has kept. -/
structure TlsSource where
  files : Files
  origin : Option TlsConfig
  current : ServerConfig
  lastSeen : ℕ → Option UInt64

/-- What a call does to the source, and its answer. -/
def TlsSource.respond (s : TlsSource) (who : ℕ) (_ : Unit) : (c : TlsCall) → TlsSource × c.Answer
  | .read path => (s, s.files path)
  | .origin => (s, s.origin)
  | .store config => ({ s with current := config }, ())
  | .lastSeen => (s, s.lastSeen who)
  | .ended (.reloaded fingerprint) =>
    ({ s with lastSeen := Function.update s.lastSeen who (some fingerprint) }, ())
  | .ended .unchanged | .ended .readFailed | .ended .reloadFailed => (s, ())
  | .returned _ => (s, ())
  | .write path content => ({ s with files := Function.update s.files path content }, ())

/-! ### Notes -/

/-- What there was when a tick ended. -/
structure EndedTick where
  /-- The files had not changed since it began. -/
  quiet : Bool
  files : Files
  current : ServerConfig

/-- The notes of what has happened: whom no change of the files has disturbed, what was installed,
what the files have been, and which ticks have ended. -/
structure TlsNotes where
  /-- The files have not changed since the last tick of a task began. -/
  quiet : ℕ → Bool
  /-- What a reload has installed that has not returned yet, and whether the files had not changed
  then. -/
  pending : ℕ → Option (ServerConfig × Bool)
  /-- The same of the reload whose fingerprint a task has kept. -/
  own : ℕ → ServerConfig × Bool
  /-- The result of the last reload that installed one. -/
  latest : ServerConfig
  /-- Everything the files have been. -/
  history : List Files
  ended : List EndedTick

/-- The notes after a call, which knows what it was answered and what the source has become. -/
def TlsNotes.after (n : TlsNotes) (s : TlsSource) (who : ℕ) (_ : Unit) :
    (c : TlsCall) → c.Answer → TlsSource → TlsNotes
  | .read _, _, _ => n
  | .lastSeen, _, _ => { n with quiet := Function.update n.quiet who true }
  | .store config, _, _ =>
    { n with
      pending := Function.update n.pending who (some (config, n.quiet who))
      latest := config }
  | .ended (.reloaded _), _, _ =>
    { n with
      pending := Function.update n.pending who none
      own := Function.update n.own who ((n.pending who).getD (n.own who))
      ended := n.ended ++ [⟨n.quiet who, s.files, s.current⟩] }
  | .ended _, _, _ =>
    { n with
      pending := Function.update n.pending who none
      ended := n.ended ++ [⟨n.quiet who, s.files, s.current⟩] }
  | .origin, _, _ | .returned _, _, _ => { n with pending := Function.update n.pending who none }
  | .write path content, _, s' =>
    if s.files path = content then { n with pending := Function.update n.pending who none }
    else
      { n with
        pending := Function.update n.pending who none
        quiet := fun _ => false
        history := n.history ++ [s'.files] }

/-- The source answers a call, and what it comes to is noted. -/
def tlsAnswer :
    TlsSource × TlsNotes → ℕ → Unit → (c : TlsCall) → (TlsSource × TlsNotes) × c.Answer :=
  observed TlsSource.respond TlsNotes.after

/-- The reloads and the writers, side by side. -/
abbrev TlsPool := Pool (TlsSource × TlsNotes) TlsCall TlsCall.Answer Empty

/-- What `from_tls_config` returns: what it reads of the files, unless they change meanwhile. -/
inductive Built (X : TlsExterns) (tls : TlsConfig) (files : Files) :
    ServerConfig → Option UInt64 → Bool → Prop
  | steady {config : ServerConfig} {initial : Option UInt64}
      (h : (TlsReload.fromTlsConfig X tls).eval files.answer = .ok (config, initial)) :
      Built X tls files config initial true
  | changed (config : ServerConfig) (initial : Option UInt64) :
      Built X tls files config initial false

/-- A source that was built. -/
def TlsPool.built (files : Files) (tls : TlsConfig) (config : ServerConfig)
    (initial : Option UInt64) (steady : Bool) : TlsPool :=
  Pool.idle (⟨files, some tls, config, fun _ => initial⟩,
    ⟨fun _ => false, fun _ => none, fun _ => (config, steady), config, [files], []⟩)

/-- What the tick of a task is about to end with. -/
def endingTick : TlsProg Unit → Option ReloadTick
  | .call (.ended outcome) _ => some outcome
  | _ => none

/-- A tick ends with what its task has installed.  If it finds the fingerprint it has kept, that is
what was installed when it was kept, from files that had not changed since they were
fingerprinted; if it reloads, it is what this tick has installed. -/
def EndsWithOwn (s : TlsSource × TlsNotes) (who : ℕ) : ReloadTick → Prop
  | .unchanged => s.2.own who = (s.1.current, true)
  | .reloaded _ => (s.2.pending who).map Prod.fst = some s.1.current
  | .readFailed | .reloadFailed => True

/-- A tick under which the files have not changed ends with what its task has installed. -/
def Undisturbed (pool : TlsPool) : Action TlsOp Unit → Prop
  | .start _ _ => True
  | .step who _ => pool.state.2.quiet who = true →
    ∀ outcome ∈ endingTick (pool.threads who), EndsWithOwn pool.state who outcome

instance decidableEndsWithOwn (s : TlsSource × TlsNotes) (who : ℕ) :
    ∀ outcome, Decidable (EndsWithOwn s who outcome)
  | .unchanged => inferInstanceAs (Decidable (_ = _))
  | .reloaded _ => inferInstanceAs (Decidable (_ = _))
  | .readFailed => .isTrue trivial
  | .reloadFailed => .isTrue trivial

instance decidableUndisturbed (pool : TlsPool) : ∀ a : Action TlsOp Unit,
    Decidable (Undisturbed pool a)
  | .start _ _ => .isTrue trivial
  | .step who _ => inferInstanceAs (Decidable (pool.state.2.quiet who = true →
    ∀ outcome ∈ endingTick (pool.threads who), EndsWithOwn pool.state who outcome))

/-! ### What a program comes to -/

/-- The answers that stay the same while the files do. -/
def TlsSource.known (s : TlsSource) : (c : TlsCall) → Option c.Answer
  | .read path => some (s.files path)
  | .origin => some s.origin
  | _ => none

/-- What a program comes to on the files as they are: the rest of a tick, of a reload or of a
write. -/
inductive Settled (X : TlsExterns) (tls : TlsConfig) (files : Files) (lastSeen : Option UInt64)
    (pending : Option (ServerConfig × Bool)) : TlsProg Unit → Prop
  | done : Settled X tls files lastSeen pending (.ret ())
  | writes (path : String) (content : FileContent) :
      Settled X tls files lastSeen pending (.call (.write path content) .ret)
  | returns (result : Except String Unit) :
      Settled X tls files lastSeen pending (.call (.returned result) .ret)
  | stores (config : ServerConfig) : Settled X tls files lastSeen pending
      (.call (.store config) fun _ => .call (.returned (.ok ())) .ret)
  | readFailed {e : FileError}
      (h : (fingerprintCredentials X tls).eval files.answer = .error e) :
      Settled X tls files lastSeen pending (.call (.ended .readFailed) .ret)
  | unchanged {fingerprint : UInt64}
      (h : (fingerprintCredentials X tls).eval files.answer = .ok fingerprint)
      (hseen : lastSeen = some fingerprint) :
      Settled X tls files lastSeen pending (.call (.ended .unchanged) .ret)
  | reloadFailed {e : String} (h : (loadServerConfig X tls).eval files.answer = .error e) :
      Settled X tls files lastSeen pending (.call (.ended .reloadFailed) .ret)
  | reloads {fingerprint : UInt64} {config : ServerConfig}
      (h : (fingerprintCredentials X tls).eval files.answer = .ok fingerprint)
      (hload : (loadServerConfig X tls).eval files.answer = .ok config) :
      Settled X tls files lastSeen pending
        (.call (.store config) fun _ => .call (.ended (.reloaded fingerprint)) .ret)
  | reloaded {fingerprint : UInt64} {config : ServerConfig}
      (h : (fingerprintCredentials X tls).eval files.answer = .ok fingerprint)
      (hload : (loadServerConfig X tls).eval files.answer = .ok config)
      (hpending : pending = some (config, true)) :
      Settled X tls files lastSeen pending (.call (.ended (.reloaded fingerprint)) .ret)

/-- The calls a reload may make before and after it has installed something: only then it
succeeds. -/
def MayReload (installed : Bool) : TlsCall → Prop
  | .read _ | .store _ => installed = false
  | .ended (.reloaded _) | .returned (.ok _) => installed = true
  | .ended .unchanged | .ended .readFailed | .ended .reloadFailed => installed = false
  | .returned (.error _) => installed = false
  | .origin | .write _ _ => True
  | .lastSeen => False

/-- Whether it has installed something after a call. -/
def nextInstalled (installed : Bool) : (c : TlsCall) → c.Answer → Bool
  | .read _, _ | .lastSeen, _ => installed
  | .store _, _ => true
  | .origin, _ | .ended _, _ | .returned _, _ | .write _ _, _ => false

/-- A reload succeeds if it has installed something, and fails if not. -/
abbrev Reports {α : Type} (installed : Bool) (p : TlsProg α) : Prop :=
  p.Follows MayReload nextInstalled installed

section Programs

variable {X : TlsExterns} {tls : TlsConfig} {s : TlsSource} {ε α β : Type}
  {lastSeen : Option UInt64} {pending : Option (ServerConfig × Bool)}

theorem ahead_reading_bind (s : TlsSource) (p : FileProg ε α) (k : Except ε α → TlsProg β) :
    ((TlsReload.reading p).bind k).ahead s.known = (k (p.eval s.files.answer)).ahead s.known :=
  Prog.ahead_caught_bind (fun | .read path => ⟨s.files path, rfl, rfl⟩) p k

/-- What a reload comes to: looked at ahead, it goes on with what the files of this moment load to.
-/
theorem ahead_reload_bind (hs : s.origin = some tls) (k : Except String Unit → TlsProg β) :
    ((TlsReload.reload X).bind k).ahead s.known =
      match (loadServerConfig X tls).eval s.files.answer with
      | .ok config => .call (.store config) fun _ => k (.ok ())
      | .error e => (k (.error e)).ahead s.known := by
  rw [TlsReload.reload, Prog.call_bind, Prog.ahead_call_of_some (show s.known .origin = _ from rfl),
    hs]
  simp only [Prog.bind_assoc]
  rw [ahead_reading_bind]
  cases (loadServerConfig X tls).eval s.files.answer with
  | ok config => exact Prog.ahead_call_of_none rfl _
  | error e => rfl

/-- **What a tick comes to** on the files as they are. -/
theorem settled_reloadTick (hs : s.origin = some tls) (lastSeen : Option UInt64) :
    Settled X tls s.files lastSeen pending
      (((TlsReload.reloadTick X lastSeen).bind fun outcome =>
        .call (.ended outcome) .ret).ahead s.known) := by
  rw [TlsReload.reloadTick, Prog.call_bind,
    Prog.ahead_call_of_some (show s.known .origin = _ from rfl), hs]
  simp only [Prog.bind_assoc]
  rw [ahead_reading_bind]
  have hended : ∀ outcome, (Prog.call (.ended outcome) .ret : TlsProg Unit).ahead s.known
      = .call (.ended outcome) .ret := fun outcome => Prog.ahead_call_of_none rfl _
  cases hfingerprint : (fingerprintCredentials X tls).eval s.files.answer with
  | error e =>
    simp only [Prog.ret_bind, hended]
    exact .readFailed hfingerprint
  | ok fingerprint =>
    by_cases hseen : lastSeen = some fingerprint
    · simp only [if_pos hseen, Prog.ret_bind, hended]
      exact .unchanged hfingerprint hseen
    · simp only [if_neg hseen, Prog.bind_assoc]
      rw [ahead_reload_bind hs]
      cases hload : (loadServerConfig X tls).eval s.files.answer with
      | ok config => exact .reloads hfingerprint hload
      | error e =>
        simp only [Prog.ret_bind, hended]
        exact .reloadFailed hload

/-- What a reload that is triggered comes to. -/
theorem settled_triggered (hs : s.origin = some tls) :
    Settled X tls s.files lastSeen pending ((TlsReload.triggered X).ahead s.known) := by
  rw [TlsReload.triggered, ahead_reload_bind hs]
  cases (loadServerConfig X tls).eval s.files.answer with
  | ok config => exact .stores config
  | error e =>
    simp only [Prog.ahead_call_of_none (show s.known (.returned (.error e)) = none from rfl)]
    exact .returns _

/-- What a source is built with. -/
theorem fromTlsConfig_eval_eq_ok {answers : (c : FileCall) → c.Answer} {config : ServerConfig}
    {initial : Option UInt64}
    (h : (TlsReload.fromTlsConfig X tls).eval answers = .ok (config, initial)) :
    initial = ((fingerprintCredentials X tls).eval answers).toOption ∧
      (loadServerConfig X tls).eval answers = .ok config := by
  obtain ⟨read, hread, h⟩ := Prog.eval_bind_eq_ok h
  obtain ⟨loaded, hload, h⟩ := Prog.eval_bind_eq_ok h
  rw [Prog.eval_caught fun _ => rfl] at hread
  obtain rfl := Except.ok.inj hread
  cases h
  exact ⟨rfl, hload⟩

theorem reports_reading_bind (p : FileProg ε α) {k : Except ε α → TlsProg β}
    (hk : ∀ r, Reports false (k r)) : Reports false ((TlsReload.reading p).bind k) := by
  induction p with
  | ret a => exact hk _
  | fail e => exact hk _
  | call c l ih =>
    obtain ⟨path⟩ := c
    exact ⟨rfl, fun content => ih content⟩

theorem reports_reload_bind {installed : Bool} {k : Except String Unit → TlsProg β}
    (hok : Reports true (k (.ok ()))) (herror : ∀ e, Reports false (k (.error e))) :
    Reports installed ((TlsReload.reload X).bind k) := by
  refine ⟨trivial, fun origin => ?_⟩
  cases origin with
  | none => exact herror _
  | some tls =>
    simp only [Prog.bind_assoc]
    refine reports_reading_bind _ fun r => ?_
    cases r with
    | ok config => exact ⟨rfl, fun _ => hok⟩
    | error e => exact herror e

theorem reports_triggered (installed : Bool) : Reports installed (TlsReload.triggered X) :=
  reports_reload_bind ⟨rfl, fun _ => trivial⟩ fun _ => ⟨rfl, fun _ => trivial⟩

/-- A tick reports what its reload has done. -/
theorem reports_reloadTick (installed : Bool) (lastSeen : Option UInt64) :
    Reports installed ((TlsReload.reloadTick X lastSeen).bind fun outcome =>
      .call (.ended outcome) .ret) := by
  refine ⟨trivial, fun origin => ?_⟩
  cases origin with
  | none => exact ⟨rfl, fun _ => trivial⟩
  | some tls =>
    simp only [Prog.bind_assoc]
    refine reports_reading_bind _ fun r => ?_
    cases r with
    | error e => exact ⟨rfl, fun _ => trivial⟩
    | ok fingerprint =>
      by_cases hseen : lastSeen = some fingerprint
      · simp only [if_pos hseen]
        exact ⟨rfl, fun _ => trivial⟩
      · simp only [if_neg hseen, Prog.bind_assoc]
        exact reports_reload_bind ⟨rfl, fun _ => trivial⟩ fun e => ⟨rfl, fun _ => trivial⟩

/-- A reload that has not installed anything has not when it has read the files. -/
theorem Reports.ahead {p : TlsProg α} (h : Reports false p) (s : TlsSource) :
    Reports false (p.ahead s.known) := by
  induction p with
  | ret a => trivial
  | fail e => trivial
  | call c k ih =>
    cases c with
    | read path => exact ih _ (h.2 _)
    | origin => exact ih _ (h.2 _)
    | store config => exact h
    | lastSeen => exact h
    | ended outcome => exact h
    | returned result => exact h
    | write path content => exact h

end Programs

/-! ### Interleavings -/

/-- At some time the files had the fingerprint and led to the configuration. -/
def LoadedFrom (X : TlsExterns) (tls : TlsConfig) (history : List Files) (fingerprint : UInt64)
    (config : ServerConfig) : Prop :=
  ∃ files ∈ history, (fingerprintCredentials X tls).eval files.answer = .ok fingerprint ∧
    (loadServerConfig X tls).eval files.answer = .ok config

/-- The hash tells apart what was read, if it could be. -/
def TellsApart (X : TlsExterns) (read read' : Except FileError (List (String × List UInt8))) :
    Prop :=
  ∀ contents ∈ read.toOption, ∀ contents' ∈ read'.toOption,
    X.finish contents = X.finish contents' → contents = contents'

instance decidableTellsApart (X : TlsExterns)
    (read read' : Except FileError (List (String × List UInt8))) :
    Decidable (TellsApart X read read') :=
  inferInstanceAs (Decidable (∀ contents ∈ read.toOption, ∀ contents' ∈ read'.toOption,
    X.finish contents = X.finish contents' → contents = contents'))

/-- The hash tells apart everything the files have been. -/
def CollisionFree (X : TlsExterns) (tls : TlsConfig) (history : List Files) : Prop :=
  ∀ files ∈ history, ∀ files' ∈ history,
    TellsApart X ((readAll tls.paths).eval files.answer) ((readAll tls.paths).eval files'.answer)

instance decidableCollisionFree (X : TlsExterns) (tls : TlsConfig) (history : List Files) :
    Decidable (CollisionFree X tls history) :=
  inferInstanceAs (Decidable (∀ files ∈ history, ∀ files' ∈ history,
    TellsApart X ((readAll tls.paths).eval files.answer) ((readAll tls.paths).eval files'.answer)))

/-- Every tick under which the files did not change, if they can be loaded, ended with what they
lead to. -/
def TicksConverge (X : TlsExterns) (tls : TlsConfig) (ended : List EndedTick) : Prop :=
  ∀ tick ∈ ended, tick.quiet = true → ∀ config,
    (loadServerConfig X tls).eval tick.files.answer = .ok config → tick.current = config

/-- What holds of the rest of a program. -/
structure RestOk (X : TlsExterns) (tls : TlsConfig) (s : TlsSource × TlsNotes) (who : ℕ)
    (p : TlsProg Unit) : Prop where
  settled : s.2.quiet who = true →
    Settled X tls s.1.files (s.1.lastSeen who) (s.2.pending who) (p.ahead s.1.known)
  reports : Reports (s.2.pending who).isSome p
  loaded : ∀ fingerprint k config, p = .call (.ended (.reloaded fingerprint)) k →
    s.2.pending who = some (config, true) → LoadedFrom X tls s.2.history fingerprint config

/-- What holds of the source and the notes. -/
structure TlsInv (X : TlsExterns) (tls : TlsConfig) (s : TlsSource × TlsNotes) : Prop where
  origin : s.1.origin = some tls
  files : s.1.files ∈ s.2.history
  installed : s.1.current = s.2.latest
  own : ∀ who, (s.2.own who).2 = true → ∃ fingerprint, s.1.lastSeen who = some fingerprint ∧
    LoadedFrom X tls s.2.history fingerprint (s.2.own who).1
  ticks : CollisionFree X tls s.2.history → TicksConverge X tls s.2.ended

section Interleavings

variable {X : TlsExterns} {tls : TlsConfig} {s s' : TlsSource × TlsNotes} {who : ℕ}
  {p : TlsProg Unit} {c : TlsCall} {k : c.Answer → TlsProg Unit}

theorem LoadedFrom.mono {history history' : List Files} {fingerprint : UInt64}
    {config : ServerConfig} (h : LoadedFrom X tls history fingerprint config)
    (hhistory : ∀ files ∈ history, files ∈ history') :
    LoadedFrom X tls history' fingerprint config := by
  obtain ⟨files, hfiles, hboth⟩ := h
  exact ⟨files, hhistory files hfiles, hboth⟩

/-- A program that has not moved is as it was, unless the files have changed. -/
theorem RestOk.mono (h : RestOk X tls s who p)
    (hhistory : ∀ files ∈ s.2.history, files ∈ s'.2.history)
    (hpending : s'.2.pending who = s.2.pending who)
    (hquiet : s'.2.quiet who = true → s.2.quiet who = true ∧ s'.1.files = s.1.files ∧
      s'.1.origin = s.1.origin ∧ s'.1.lastSeen who = s.1.lastSeen who) :
    RestOk X tls s' who p := by
  refine ⟨fun hq => ?_, hpending ▸ h.reports, fun fingerprint k config hp hsome => ?_⟩
  · obtain ⟨hbefore, hfiles, horigin, hseen⟩ := hquiet hq
    have hknown : s'.1.known = s.1.known := by
      funext c
      cases c <;> simp [TlsSource.known, hfiles, horigin]
    rw [hfiles, hseen, hpending, hknown]
    exact h.settled hbefore
  · exact (h.loaded fingerprint k config hp (hpending ▸ hsome)).mono hhistory

/-- Files with the same fingerprint lead to the same. -/
theorem CollisionFree.eval_eq {history : List Files} (h : CollisionFree X tls history)
    {files files' : Files} (hfiles : files ∈ history) (hfiles' : files' ∈ history)
    {fingerprint : UInt64}
    (hsame : (fingerprintCredentials X tls).eval files.answer = .ok fingerprint)
    (hsame' : (fingerprintCredentials X tls).eval files'.answer = .ok fingerprint) :
    (loadServerConfig X tls).eval files.answer = (loadServerConfig X tls).eval files'.answer := by
  obtain ⟨contents, hcontents, heq⟩ := Prog.eval_bind_eq_ok hsame
  obtain ⟨contents', hcontents', heq'⟩ := Prog.eval_bind_eq_ok hsame'
  have hfinish : X.finish contents = X.finish contents' :=
    (Except.ok.inj heq).trans (Except.ok.inj heq').symm
  have hread := h files hfiles files' hfiles' contents (by rw [hcontents]; rfl) contents'
    (by rw [hcontents']; rfl) hfinish
  exact loadServerConfig_eval_congr hcontents (hread ▸ hcontents')

/-- **A tick that is undisturbed ends with the current files installed**, if they have not changed
under it. -/
theorem TlsInv.current_of_ended (h : TlsInv X tls s) (hhash : CollisionFree X tls s.2.history)
    {outcome : ReloadTick} {k : Unit → TlsProg Unit}
    (hrest : RestOk X tls s who (.call (.ended outcome) k)) (hquiet : s.2.quiet who = true)
    (hundisturbed : EndsWithOwn s who outcome)
    {config : ServerConfig} (hload : (loadServerConfig X tls).eval s.1.files.answer = .ok config) :
    s.1.current = config := by
  have hsettled := hrest.settled hquiet
  rw [Prog.ahead_call_of_none (show s.1.known (.ended outcome) = none from rfl)] at hsettled
  cases hsettled with
  | readFailed hread =>
    obtain ⟨contents, hcontents⟩ := exists_readAll_of_loadServerConfig hload
    rw [fingerprintCredentials, Prog.bind_eq, Prog.eval_bind, hcontents] at hread
    contradiction
  | reloadFailed hfailed => exact nomatch hfailed.symm.trans hload
  | unchanged hfingerprint hseen =>
    -- the fingerprint that was kept is that of the current files
    have hown : s.2.own who = (s.1.current, true) := hundisturbed
    obtain ⟨kept, hkept, files, hfiles, hsame, hloaded⟩ := h.own who (by rw [hown])
    obtain rfl := Option.some.inj (hseen.symm.trans hkept)
    rw [hhash.eval_eq hfiles h.files hsame hfingerprint, hload, hown] at hloaded
    exact (Except.ok.inj hloaded).symm
  | reloaded hfingerprint hloaded hpending =>
    have hown : (s.2.pending who).map Prod.fst = some s.1.current := hundisturbed
    rw [hpending] at hown
    rw [hload] at hloaded
    exact (Option.some.inj hown).symm.trans (Except.ok.inj hloaded).symm

/-- A call leaves what is noted of the others, unless it changes the files. -/
theorem tlsAnswer_frame (s : TlsSource × TlsNotes) (who : ℕ) (c : TlsCall) :
    (∀ files ∈ s.2.history, files ∈ (tlsAnswer s who () c).1.2.history) ∧
      ∀ j, j ≠ who → (tlsAnswer s who () c).1.2.pending j = s.2.pending j ∧
        ((tlsAnswer s who () c).1.2.quiet j = true → s.2.quiet j = true ∧
          (tlsAnswer s who () c).1.1.files = s.1.files ∧
          (tlsAnswer s who () c).1.1.origin = s.1.origin ∧
          (tlsAnswer s who () c).1.1.lastSeen j = s.1.lastSeen j) := by
  cases c with
  -- a read changes nothing at all
  | read path => exact ⟨fun _ h => h, fun j hj => ⟨rfl, fun hq => ⟨hq, rfl, rfl, rfl⟩⟩⟩
  -- these change what is noted of the caller itself
  | origin =>
    refine ⟨fun _ h => h, fun j hj => ⟨Function.update_of_ne hj _ _, fun hq => ?_⟩⟩
    exact ⟨hq, rfl, rfl, rfl⟩
  | store config =>
    refine ⟨fun _ h => h, fun j hj => ⟨Function.update_of_ne hj _ _, fun hq => ?_⟩⟩
    exact ⟨hq, rfl, rfl, rfl⟩
  | lastSeen =>
    refine ⟨fun _ h => h, fun j hj => ⟨rfl, fun hq => ?_⟩⟩
    exact ⟨(Function.update_of_ne hj _ _).symm.trans hq, rfl, rfl, rfl⟩
  | returned result =>
    refine ⟨fun _ h => h, fun j hj => ⟨Function.update_of_ne hj _ _, fun hq => ?_⟩⟩
    exact ⟨hq, rfl, rfl, rfl⟩
  -- and so does the end of a tick, which also keeps its fingerprint
  | ended outcome =>
    cases outcome with
    | reloaded fingerprint =>
      refine ⟨fun _ h => h, fun j hj => ⟨Function.update_of_ne hj _ _, fun hq => ?_⟩⟩
      exact ⟨hq, rfl, rfl, Function.update_of_ne hj _ _⟩
    | unchanged =>
      refine ⟨fun _ h => h, fun j hj => ⟨Function.update_of_ne hj _ _, fun hq => ?_⟩⟩
      exact ⟨hq, rfl, rfl, rfl⟩
    | readFailed =>
      refine ⟨fun _ h => h, fun j hj => ⟨Function.update_of_ne hj _ _, fun hq => ?_⟩⟩
      exact ⟨hq, rfl, rfl, rfl⟩
    | reloadFailed =>
      refine ⟨fun _ h => h, fun j hj => ⟨Function.update_of_ne hj _ _, fun hq => ?_⟩⟩
      exact ⟨hq, rfl, rfl, rfl⟩
  -- a write that changes a file disturbs everyone, and one that does not disturbs nobody
  | write path content =>
    by_cases hsame : s.1.files path = content
    · have hfiles : Function.update s.1.files path content = s.1.files := by
        rw [← hsame, Function.update_eq_self]
      simp only [tlsAnswer, observed, TlsSource.respond, TlsNotes.after, if_pos hsame, hfiles]
      exact ⟨fun _ h => h, fun j hj =>
        ⟨Function.update_of_ne hj _ _, fun hq => ⟨hq, trivial, trivial, trivial⟩⟩⟩
    · simp only [tlsAnswer, observed, TlsSource.respond, TlsNotes.after, if_neg hsame]
      refine ⟨fun _ h => List.mem_append_left _ h, fun j hj => ⟨Function.update_of_ne hj _ _, ?_⟩⟩
      intro hq
      contradiction

/-- Before a reload has installed something, what is noted of an earlier one does not matter. -/
theorem Settled.of_reports {files : Files} {lastSeen : Option UInt64}
    {pending pending' : Option (ServerConfig × Bool)}
    (h : Settled X tls files lastSeen pending p) (hp : Reports false p) :
    Settled X tls files lastSeen pending' p := by
  cases h with
  | done => exact .done
  | writes path content => exact .writes path content
  | returns result => exact .returns result
  | stores config => exact .stores config
  | readFailed h => exact .readFailed h
  | unchanged h hseen => exact .unchanged h hseen
  | reloadFailed h => exact .reloadFailed h
  | reloads h hload => exact .reloads h hload
  | reloaded h hload hpending => exact absurd hp.1 Bool.false_ne_true

/-- Where a reload has not installed anything yet. -/
theorem RestOk.of_none (hnone : s.2.pending who = none) (hreports : Reports false p)
    (hsettled : s.2.quiet who = true →
      Settled X tls s.1.files (s.1.lastSeen who) none (p.ahead s.1.known)) :
    RestOk X tls s who p := by
  refine ⟨fun hq => hnone ▸ hsettled hq, hnone ▸ hreports, fun _ _ _ _ hsome => ?_⟩
  rw [hnone] at hsome
  contradiction

/-- Nothing follows the end of a tick, so that what is left of its program is settled in any state.
-/
theorem settled_of_ended {outcome : ReloadTick} {k : Unit → TlsProg Unit} {pending}
    (hsettled : Settled X tls s.1.files (s.1.lastSeen who) (s.2.pending who)
      ((Prog.call (.ended outcome) k : TlsProg Unit).ahead s.1.known))
    {files : Files} {lastSeen : Option UInt64} (known : (c : TlsCall) → Option c.Answer) :
    Settled X tls files lastSeen pending ((k ()).ahead known) := by
  rw [Prog.ahead_call_of_none (show s.1.known (.ended outcome) = none from rfl)] at hsettled
  cases hsettled <;> exact .done

/-- The end of a tick is noted, and what its task has kept if it has reloaded. -/
theorem TlsInv.ended (h : TlsInv X tls s) {outcome : ReloadTick} {k : Unit → TlsProg Unit}
    (hrest : RestOk X tls s who (.call (.ended outcome) k))
    (hundisturbed : s.2.quiet who = true → EndsWithOwn s who outcome) :
    TlsInv X tls (tlsAnswer s who () (.ended outcome)).1 ∧
      RestOk X tls (tlsAnswer s who () (.ended outcome)).1 who (k ()) := by
  have hticks : CollisionFree X tls s.2.history →
      TicksConverge X tls (s.2.ended ++ [⟨s.2.quiet who, s.1.files, s.1.current⟩]) := by
    intro hhash tick htick hquiet config hload
    rcases List.mem_append.mp htick with hold | hnew
    · exact h.ticks hhash tick hold hquiet config hload
    · obtain rfl := List.mem_singleton.mp hnew
      exact h.current_of_ended hhash hrest hquiet (hundisturbed hquiet) hload
  have hreports : Reports false (k ()) := hrest.reports.2 ()
  have hnow : RestOk X tls (tlsAnswer s who () (.ended outcome)).1 who (k ()) := by
    refine .of_none ?_ hreports fun hq => ?_
    · cases outcome <;> exact Function.update_self _ _ _
    · cases outcome <;> exact settled_of_ended (hrest.settled hq) _
  cases outcome with
  | unchanged => exact ⟨⟨h.origin, h.files, h.installed, h.own, hticks⟩, hnow⟩
  | readFailed => exact ⟨⟨h.origin, h.files, h.installed, h.own, hticks⟩, hnow⟩
  | reloadFailed => exact ⟨⟨h.origin, h.files, h.installed, h.own, hticks⟩, hnow⟩
  | reloaded fingerprint =>
    refine ⟨⟨h.origin, h.files, h.installed, fun j hj => ?_, hticks⟩, hnow⟩
    show ∃ kept, Function.update s.1.lastSeen who (some fingerprint) j = some kept ∧
      LoadedFrom X tls s.2.history kept
        (Function.update s.2.own who ((s.2.pending who).getD (s.2.own who)) j).1
    change (Function.update s.2.own who ((s.2.pending who).getD (s.2.own who)) j).2 = true at hj
    -- the task now serves the fingerprint it has computed before it loaded
    by_cases hwho : j = who
    · subst hwho
      rw [Function.update_self] at hj ⊢
      rw [Function.update_self]
      obtain ⟨installed, hpending⟩ := Option.isSome_iff_exists.mp hrest.reports.1
      rw [hpending, Option.getD_some] at hj ⊢
      refine ⟨fingerprint, rfl, hrest.loaded fingerprint k installed.1 rfl ?_⟩
      rw [hpending, ← hj]
    · rw [Function.update_of_ne hwho] at hj ⊢
      rw [Function.update_of_ne hwho]
      exact h.own j hj

/-- A file is written: the invariant holds of the new files too, and whoever was undisturbed is not
so any more if one has changed. -/
theorem TlsInv.write (h : TlsInv X tls s) {path : String} {content : FileContent}
    {k : Unit → TlsProg Unit} (hrest : RestOk X tls s who (.call (.write path content) k)) :
    TlsInv X tls (tlsAnswer s who () (.write path content)).1 ∧
      RestOk X tls (tlsAnswer s who () (.write path content)).1 who (k ()) := by
  have hreports : Reports false (k ()) := hrest.reports.2 ()
  -- writing what is there changes no file, and so disturbs nobody
  by_cases hsame : s.1.files path = content
  · have hfiles : Function.update s.1.files path content = s.1.files := by
      rw [← hsame, Function.update_eq_self]
    have hanswer : (tlsAnswer s who () (.write path content)).1
        = (s.1, { s.2 with pending := Function.update s.2.pending who none }) := by
      simp only [tlsAnswer, observed, TlsSource.respond, TlsNotes.after, if_pos hsame, hfiles]
    rw [hanswer]
    refine ⟨⟨h.origin, h.files, h.installed, h.own, h.ticks⟩, .of_none ?_ hreports fun hq => ?_⟩
    · exact Function.update_self _ _ _
    · have hcome := hrest.settled hq
      rw [Prog.ahead_call_of_none (show s.1.known (.write path content) = none from rfl)] at hcome
      cases hcome
      exact .done
  · -- a file has changed: the files of this moment join the history, and no tick is quiet any
    -- more
    have hanswer : (tlsAnswer s who () (.write path content)).1
        = ({ s.1 with files := Function.update s.1.files path content },
          { s.2 with
            pending := Function.update s.2.pending who none
            quiet := fun _ => false
            history := s.2.history ++ [Function.update s.1.files path content] }) := by
      simp only [tlsAnswer, observed, TlsSource.respond, TlsNotes.after, if_neg hsame]
    have hmono : ∀ files ∈ s.2.history,
        files ∈ s.2.history ++ [Function.update s.1.files path content] :=
      fun _ hmem => List.mem_append_left _ hmem
    rw [hanswer]
    refine ⟨⟨h.origin, ?_, h.installed, fun j hj => ?_, fun hhash => ?_⟩,
      .of_none ?_ hreports fun hq => ?_⟩
    · exact List.mem_append_right _ (List.mem_singleton_self _)
    · obtain ⟨kept, hkept, hloaded⟩ := h.own j hj
      exact ⟨kept, hkept, hloaded.mono hmono⟩
    · exact h.ticks fun files hfiles files' hfiles' =>
        hhash files (hmono files hfiles) files' (hmono files' hfiles')
    · exact Function.update_self _ _ _
    · contradiction

/-- **A call keeps what holds** of the source and of the rest of its program. -/
theorem TlsInv.call (h : TlsInv X tls s) (hrest : RestOk X tls s who (.call c k))
    (hundisturbed : s.2.quiet who = true → ∀ outcome, c = .ended outcome →
      EndsWithOwn s who outcome) :
    TlsInv X tls (tlsAnswer s who () c).1 ∧
      RestOk X tls (tlsAnswer s who () c).1 who (k (tlsAnswer s who () c).2) := by
  have hsettled := hrest.settled
  have hreports := hrest.reports
  cases c with
  | lastSeen => exact hreports.1.elim
  | write path content => exact h.write hrest
  | ended outcome => exact h.ended hrest fun hq => hundisturbed hq outcome rfl
  -- a read changes nothing, and a program that reads has stored nothing yet
  | read path =>
    refine ⟨h, fun hq => hsettled hq, hreports.2 _, fun fingerprint l config _ hsome => ?_⟩
    have hnone : (s.2.pending who).isSome = false := hreports.1
    rw [show s.2.pending who = some (config, true) from hsome] at hnone
    contradiction
  -- the origin is read before anything is stored, so that nothing is pending
  | origin =>
    have hfalse : Reports false (k s.1.origin) := hreports.2 _
    refine ⟨⟨h.origin, h.files, h.installed, h.own, h.ticks⟩, .of_none ?_ hfalse fun hq => ?_⟩
    · exact Function.update_self _ _ _
    · exact (hsettled hq).of_reports (hfalse.ahead s.1)
  | returned result =>
    refine ⟨⟨h.origin, h.files, h.installed, h.own, h.ticks⟩,
      .of_none ?_ (hreports.2 ()) fun hq => ?_⟩
    · exact Function.update_self _ _ _
    · have hcome := hsettled hq
      rw [Prog.ahead_call_of_none (show s.1.known (.returned result) = none from rfl)] at hcome
      cases hcome
      exact .done
  -- what is stored is pending until the program ends
  | store config =>
    have hpending : (tlsAnswer s who () (.store config)).1.2.pending who
        = some (config, s.2.quiet who) := Function.update_self _ _ _
    refine ⟨⟨h.origin, h.files, rfl, h.own, h.ticks⟩, fun hq => ?_, ?_, ?_⟩
    · have hcome := hsettled hq
      rw [Prog.ahead_call_of_none (show s.1.known (.store config) = none from rfl)] at hcome
      have hquiet : s.2.quiet who = true := hq
      rw [hpending, hquiet]
      cases hcome with
      | stores => exact .returns _
      | reloads hfingerprint hload => exact .reloaded hfingerprint hload rfl
    · rw [hpending]
      exact hreports.2 ()
    · -- only a tick goes on to its end after the store
      intro fingerprint l config' hl hsome
      rw [hpending, Option.some.injEq, Prod.mk.injEq] at hsome
      obtain ⟨rfl, hquiet⟩ := hsome
      have hcome := hsettled hquiet
      rw [Prog.ahead_call_of_none (show s.1.known (.store config) = none from rfl)] at hcome
      cases hcome with
      | stores => simp at hl
      | reloads hfingerprint hload =>
        obtain ⟨hsame, -⟩ := Prog.call.inj hl
        cases hsame
        exact ⟨s.1.files, h.files, hfingerprint, hload⟩

/-- A task starts a tick with the fingerprint it has kept. -/
theorem TlsInv.tick (h : TlsInv X tls s) :
    TlsInv X tls (tlsAnswer s who () .lastSeen).1 ∧
      RestOk X tls (tlsAnswer s who () .lastSeen).1 who
        ((TlsReload.reloadTick X (s.1.lastSeen who)).bind fun outcome =>
          .call (.ended outcome) .ret) := by
  refine ⟨⟨h.origin, h.files, h.installed, h.own, h.ticks⟩, fun _ => ?_, reports_reloadTick _ _, ?_⟩
  · exact settled_reloadTick h.origin _
  · intro fingerprint k config hp
    simp [TlsReload.reloadTick] at hp

end Interleavings

/-- Whether a reload that is about to return, or the tick of one, has succeeded. -/
def reported : TlsProg Unit → Option Bool
  | .call (.returned (.ok _)) _ | .call (.ended (.reloaded _)) _ => some true
  | .call (.returned (.error _)) _ | .call (.ended .unchanged) _ | .call (.ended .readFailed) _
  | .call (.ended .reloadFailed) _ => some false
  | _ => none

theorem Reports.eq_of_reported {installed succeeded : Bool} {p : TlsProg Unit}
    (h : Reports installed p) (hreported : reported p = some succeeded) :
    installed = succeeded := by
  unfold reported at hreported
  split at hreported
  · exact h.1.trans (Option.some.inj hreported)
  · exact h.1.trans (Option.some.inj hreported)
  · exact h.1.trans (Option.some.inj hreported)
  · exact h.1.trans (Option.some.inj hreported)
  · exact h.1.trans (Option.some.inj hreported)
  · exact h.1.trans (Option.some.inj hreported)
  · contradiction

/-- A source that was just built. -/
theorem TlsInv.built {files : Files} {config : ServerConfig} {initial : Option UInt64}
    {steady : Bool} (hbuilt : Built X tls files config initial steady) :
    TlsInv X tls (TlsPool.built files tls config initial steady).state := by
  refine ⟨rfl, List.mem_singleton_self _, rfl, fun who hsteady => ?_, fun _ tick htick => ?_⟩
  · cases hbuilt with
    | changed => exact absurd hsteady Bool.false_ne_true
    | steady heval =>
      -- what can be loaded can be read, so it has a fingerprint
      obtain ⟨rfl, hload⟩ := fromTlsConfig_eval_eq_ok heval
      obtain ⟨contents, hcontents⟩ := exists_readAll_of_loadServerConfig hload
      have hfingerprint : (fingerprintCredentials X tls).eval files.answer
          = .ok (X.finish contents) := by
        rw [fingerprintCredentials, Prog.bind_eq, Prog.eval_bind, hcontents]
        rfl
      refine ⟨X.finish contents, ?_, files, List.mem_singleton_self _, hfingerprint, hload⟩
      show ((fingerprintCredentials X tls).eval files.answer).toOption = some _
      rw [hfingerprint]
      rfl
  · exact absurd htick List.not_mem_nil

/-- **The installed configuration converges** in every interleaving of poll ticks, triggered
reloads and writes in which the ticks are undisturbed.  What is installed is always the result of
the last reload that installed something; a reload succeeds exactly if it has; and as far as the
hash tells apart what the files have been, every tick under which the files did not change, if they
can be loaded, has ended with what they lead to. -/
theorem converges_of_reach (X : TlsExterns) (tls : TlsConfig) (files : Files)
    (config : ServerConfig) (initial : Option UInt64) (steady : Bool)
    (hbuilt : Built X tls files config initial steady) {pool : TlsPool}
    (h : Reach (Pool.step tlsAnswer (TlsOp.program X)) Undisturbed
      (TlsPool.built files tls config initial steady) pool) :
    pool.state.1.current = pool.state.2.latest ∧
      (∀ who succeeded, reported (pool.threads who) = some succeeded →
        (pool.state.2.pending who).isSome = succeeded) ∧
      (CollisionFree X tls pool.state.2.history → TicksConverge X tls pool.state.2.ended) := by
  -- a tick that has not asked for its fingerprint yet is the program it started as
  have hinv := Pool.invariant (I := TlsInv X tls)
    (T := fun s who p => p = TlsReload.tick X ∨ RestOk X tls s who p) (.built hbuilt) ?_ ?_ ?_ h
  · refine ⟨hinv.1.installed, fun who succeeded hreported => ?_, hinv.1.ticks⟩
    rcases hinv.2 who with htick | hrest
    · rw [htick] at hreported
      contradiction
    · exact hrest.reports.eq_of_reported hreported
  · -- a program that has returned
    exact fun s who => .inr ⟨fun _ => .done, trivial, fun _ _ _ hp => nomatch hp⟩
  · -- a program that begins
    intro pool who op hs _
    cases op with
    | tick => exact .inl rfl
    | reload =>
      refine .inr ⟨fun _ => settled_triggered hs.origin, reports_triggered _, ?_⟩
      intro fingerprint k config hp
      simp [TlsOp.program, TlsReload.triggered, TlsReload.reload] at hp
    | write path content =>
      refine .inr ⟨fun _ => ?_, ⟨trivial, fun _ => trivial⟩, fun _ _ _ hp => nomatch hp⟩
      exact .writes path content
  · -- a call, of a program that has begun
    intro pool who input c k hs hthread hrest hundisturbed
    have hframe := tlsAnswer_frame pool.state who c
    -- what the other programs are at stands in what this call leaves alone
    have hothers : ∀ j p, j ≠ who → (p = TlsReload.tick X ∨ RestOk X tls pool.state j p) →
        p = TlsReload.tick X ∨ RestOk X tls (tlsAnswer pool.state who () c).1 j p := by
      rintro j p hj (hp | hp)
      · exact .inl hp
      · exact .inr (hp.mono hframe.1 (hframe.2 j hj).1 (hframe.2 j hj).2)
    rcases hrest with htick | hrest
    · cases htick
      exact ⟨hs.tick.1, .inr hs.tick.2, hothers⟩
    · have hcall := hs.call hrest fun hquiet outcome hc => ?_
      · exact ⟨hcall.1, .inr hcall.2, hothers⟩
      · subst hc
        exact hundisturbed hquiet outcome (by rw [hthread]; rfl)

/-! ### Samples -/

/-- A file with the certificate and its key. -/
def sampleTlsConfig : TlsConfig := ⟨"tls.pem", "tls.pem", none, false⟩

/-- The file with the given bytes. -/
def sampleTlsFiles (bytes : List UInt8) : Files :=
  fun path => if path = "tls.pem" then .ok bytes else .error (.unopened "No such file or directory")

/-- What is loaded from the file with the given bytes. -/
def sampleServed (bytes : List UInt8) : ServerConfig := ⟨[bytes], bytes, none, ["h2", "http/1.1"]⟩

/-- A source that was built when the file held one byte. -/
def sampleTlsBuilt : TlsPool :=
  TlsPool.built (sampleTlsFiles [1]) sampleTlsConfig (sampleServed [1])
    (some (sampleTlsExterns.finish [("tls.pem", [1]), ("tls.pem", [1])])) true

theorem sampleTlsBuilt_built : Built sampleTlsExterns sampleTlsConfig (sampleTlsFiles [1])
    (sampleServed [1]) (some (sampleTlsExterns.finish [("tls.pem", [1]), ("tls.pem", [1])])) true :=
  .steady rfl

/-- An operation runs until it has returned. -/
def sampleWhole (who : ℕ) (op : TlsOp) : List (Action TlsOp Unit) :=
  .start who op :: List.replicate 9 (.step who ())

/-- What these actions come to, for a source that was built from the sample files. -/
def sampleTlsRun (as : List (Action TlsOp Unit)) : TlsPool :=
  as.foldl (Pool.step tlsAnswer (TlsOp.program sampleTlsExterns)) sampleTlsBuilt

/-- The file is written, is empty for a while, and is found by the second tick. -/
def sampleRotation : List (Action TlsOp Unit) :=
  sampleWhole 0 (.write "tls.pem" (.ok [])) ++ sampleWhole 1 .tick ++
    sampleWhole 0 (.write "tls.pem" (.ok [2])) ++ sampleWhole 1 .tick ++ sampleWhole 1 .tick

theorem converges_of_reach_sample :
    (sampleTlsRun sampleRotation).state.2.ended.map (fun tick => (tick.quiet, tick.current))
      = [(true, sampleServed [1]), (true, sampleServed [2]), (true, sampleServed [2])] ∧
    (sampleTlsRun sampleRotation).state.1.current = (sampleTlsRun sampleRotation).state.2.latest ∧
    TicksConverge sampleTlsExterns sampleTlsConfig (sampleTlsRun sampleRotation).state.2.ended := by
  have hrun : Reach (Pool.step tlsAnswer (TlsOp.program sampleTlsExterns)) Undisturbed
      sampleTlsBuilt (sampleTlsRun sampleRotation) :=
    Reach.start.foldl (by decide +kernel)
  have hconverges := converges_of_reach sampleTlsExterns sampleTlsConfig (sampleTlsFiles [1])
    (sampleServed [1]) _ true sampleTlsBuilt_built hrun
  exact ⟨by decide +kernel, hconverges.1, hconverges.2.2 (by decide +kernel)⟩

/-- The file is written, a signal reloads it, and it is written back before the next tick. -/
def sampleRollback : List (Action TlsOp Unit) :=
  sampleWhole 0 (.write "tls.pem" (.ok [2])) ++ sampleWhole 2 .reload ++
    sampleWhole 0 (.write "tls.pem" (.ok [1])) ++ sampleWhole 1 .tick

/-- A tick can leave installed what the current files do not lead to. -/
theorem not_forall_ticksConverge :
    ¬ ∀ (X : TlsExterns) (tls : TlsConfig) (files : Files) (config : ServerConfig)
      (initial : Option UInt64) (steady : Bool), Built X tls files config initial steady →
      ∀ pool, Reach (Pool.step tlsAnswer (TlsOp.program X)) (fun _ _ => True)
        (TlsPool.built files tls config initial steady) pool →
      CollisionFree X tls pool.state.2.history → TicksConverge X tls pool.state.2.ended := by
  intro h
  have hrun : Reach (Pool.step tlsAnswer (TlsOp.program sampleTlsExterns)) (fun _ _ => True)
      sampleTlsBuilt (sampleTlsRun sampleRollback) :=
    Reach.start.foldl (Allowed.of_forall (fun _ _ _ => trivial) _)
  have hticks := h sampleTlsExterns sampleTlsConfig (sampleTlsFiles [1]) (sampleServed [1]) _ true
    sampleTlsBuilt_built _ hrun (by decide +kernel)
  have hended : (sampleTlsRun sampleRollback).state.2.ended
      = [⟨true, (sampleTlsRun sampleRollback).state.1.files, sampleServed [2]⟩] := by
    rfl
  rw [hended] at hticks
  have hcurrent := hticks _ (List.mem_singleton_self _) rfl (sampleServed [1]) (by rfl)
  exact absurd hcurrent (by decide)

end ActonService.Tls
