import ActonService.Tls.Credentials

/-!
# Reloading what a client presents

`ClientIdentitySource` of `client_tls.rs`.  A reload reads and checks the certificate, its key and
the trust anchors before it stores anything, but it stores the certificate and the anchors one
after the other, and any number of reloads may run at once.

## Main definitions

* `ClientIdentitySource.prepareReload`, `reload` — the functions of the source.
* `IdentityNotes` — everything that was prepared, and which of it is installed.
* `Consistent` — what a rotation promises.
* `StoresLast` — who stores its anchors last has stored its certificate last.

## Main results

* `consistent_iff_allowed` — **a rotation is never half-applied exactly in the runs in which who
  stores its anchors last has stored its certificate last.**
-/

namespace ActonService.Tls

open Effect Run

/-! ### Calls -/

/-- The calls of the reloads: files that are read, the two cells that are stored to, and notes of
what a program is about to do. -/
inductive IdentityCall
  | read (path : String)
  /-- A reload looks at what `prepare_reload` has come to. -/
  | prepared (result : Except String (CertifiedKey × List Der))
  /-- `resolver.store` -/
  | storeKey (key : CertifiedKey)
  /-- `verifier.store` -/
  | storeVerifier (anchors : List Der)
  /-- A reload returns. -/
  | returned (result : Except String Unit)
  /-- Somebody writes a file. -/
  | write (path : String) (content : FileContent)

/-- The type of an answer. -/
abbrev IdentityCall.Answer : IdentityCall → Type
  | .read _ => FileContent
  | .prepared _ | .storeKey _ | .storeVerifier _ | .returned _ | .write _ _ => Unit

/-- Programs over the calls.  Errors are among their results. -/
abbrev IdentityProg (α : Type) := Prog IdentityCall IdentityCall.Answer Empty α

namespace ClientIdentitySource

/-- Reading files, the error caught. -/
def reading {ε α : Type} (p : FileProg ε α) : IdentityProg (Except ε α) :=
  p.caught (fun | .read path => .read path) fun | .read _ => id

/-- `prepare_reload` -/
def prepareReload (X : TlsExterns) (origin : ClientIdentityConfig) :
    FileProg String (CertifiedKey × List Der) := do
  let material ← loadIdentityMaterial X origin
  let key ← certifiedKeyFromMaterial X origin material
  let verifier ← buildPeerVerifier X origin
  .ret (key, verifier)

/-- What `reload` does with what was prepared. -/
def install : Except String (CertifiedKey × List Der) → IdentityProg (Except String Unit)
  | .ok (key, verifier) =>
    .call (.storeKey key) fun _ => .call (.storeVerifier verifier) fun _ => .ret (.ok ())
  | .error e => .ret (.error e)

/-- `reload` -/
def reload (X : TlsExterns) (origin : ClientIdentityConfig) : IdentityProg (Except String Unit) :=
  (reading (prepareReload X origin)).bind fun result =>
    .call (.prepared result) fun _ => install result

end ClientIdentitySource

open ClientIdentitySource

/-- What may happen to a source and its files. -/
inductive IdentityOp
  | reload
  | write (path : String) (content : FileContent)

/-- The end of a program that has reloaded. -/
def reportResult (result : Except String Unit) : IdentityProg Unit :=
  .call (.returned result) .ret

/-- The program of an operation: a reload, or somebody else who writes a file. -/
def IdentityOp.program (X : TlsExterns) (origin : ClientIdentityConfig) :
    IdentityOp → IdentityProg Unit
  | .reload => (ClientIdentitySource.reload X origin).bind reportResult
  | .write path content => .call (.write path content) .ret

/-! ### The source -/

/-- A `ClientIdentitySource` with its two cells, and the files it is loaded from. -/
structure ClientIdentity where
  files : Files
  resolver : CertifiedKey
  verifier : List Der

/-- What a call does to the source, and its answer. -/
def ClientIdentity.respond (s : ClientIdentity) (_ : ℕ) (_ : Unit) :
    (c : IdentityCall) → ClientIdentity × c.Answer
  | .read path => (s, s.files path)
  | .prepared _ => (s, ())
  | .storeKey key => ({ s with resolver := key }, ())
  | .storeVerifier anchors => ({ s with verifier := anchors }, ())
  | .returned _ => (s, ())
  | .write path content => ({ s with files := Function.update s.files path content }, ())

/-! ### Notes -/

/-- What the reload of a task has stored.  `serial` is the number of what it has prepared. -/
inductive Stage
  | nothing
  | prepared (serial : ℕ)
  /-- The certificate, and not the anchors yet. -/
  | half (serial : ℕ)
  | both
  deriving DecidableEq, Repr

/-- The number of what was prepared. -/
def Stage.serial : Stage → ℕ
  | .prepared serial | .half serial => serial
  | .nothing | .both => 0

/-- The reload has stored something already, one of the two or both. -/
def Stage.hasStored : Stage → Bool
  | .half _ | .both => true
  | .nothing | .prepared _ => false

/-- The notes of what has happened: how far each reload is, what was prepared, and which of it is
installed. -/
structure IdentityNotes where
  stage : ℕ → Stage
  /-- Everything that was prepared, the initial load first. -/
  prepared : List (CertifiedKey × List Der)
  /-- Whose certificate is installed. -/
  keyBy : ℕ
  /-- Whose anchors are installed. -/
  anchorsBy : ℕ

/-- The notes after a call, which knows what it was answered and what the source has become. -/
def IdentityNotes.after (n : IdentityNotes) (_ : ClientIdentity) (who : ℕ) (_ : Unit) :
    (c : IdentityCall) → c.Answer → ClientIdentity → IdentityNotes
  | .read _, _, _ | .write _ _, _, _ | .prepared (.error _), _, _ => n
  | .prepared (.ok pair), _, _ =>
    { n with
      stage := Function.update n.stage who (.prepared n.prepared.length)
      prepared := n.prepared ++ [pair] }
  | .storeKey _, _, _ =>
    { n with
      stage := Function.update n.stage who (.half (n.stage who).serial)
      keyBy := (n.stage who).serial }
  | .storeVerifier _, _, _ =>
    { n with
      stage := Function.update n.stage who .both
      anchorsBy := (n.stage who).serial }
  | .returned _, _, _ => { n with stage := Function.update n.stage who .nothing }

/-- The source answers a call, and what it comes to is noted. -/
def identityAnswer : ClientIdentity × IdentityNotes → ℕ → Unit → (c : IdentityCall) →
    (ClientIdentity × IdentityNotes) × c.Answer :=
  observed ClientIdentity.respond IdentityNotes.after

/-- The reloads and the writers, side by side. -/
abbrev IdentityPool := Pool (ClientIdentity × IdentityNotes) IdentityCall IdentityCall.Answer Empty

/-- A source that was built with what was loaded. -/
def IdentityPool.built (files : Files) (loaded : CertifiedKey × List Der) : IdentityPool :=
  Pool.idle (⟨files, loaded.1, loaded.2⟩, ⟨fun _ => .nothing, [loaded], 0, 0⟩)

/-! ### What a rotation promises -/

/-- No reload is between its two stores. -/
def NoneBetween (s : ClientIdentity × IdentityNotes) : Prop :=
  ∀ who serial, s.2.stage who ≠ .half serial

/-- The certificate and the anchors that are installed were prepared by one reload, or by the
initial load. -/
def Paired (s : ClientIdentity × IdentityNotes) : Prop :=
  s.2.keyBy = s.2.anchorsBy ∧
    s.2.prepared[s.2.keyBy]? = some (s.1.resolver, s.1.verifier)

/-- A reload that is about to return an error. -/
def failing : IdentityProg Unit → Bool
  | .call (.returned (.error _)) _ => true
  | _ => false

/-- **What a rotation promises**: a reload that fails has stored nothing, and what is installed
belongs together unless a reload is between its two stores. -/
def Consistent (pool : IdentityPool) : Prop :=
  (∀ who, failing (pool.threads who) = true → (pool.state.2.stage who).hasStored = false) ∧
    (NoneBetween pool.state → Paired pool.state)

/-- A reload that stores its anchors while no other reload is between its two stores is the one
that has stored its certificate last. -/
def StoresLast (pool : IdentityPool) : Action IdentityOp Unit → Prop
  | .start _ _ => True
  | .step who _ => ∀ serial, pool.state.2.stage who = .half serial →
    (∀ j, j ≠ who → ∀ other, pool.state.2.stage j ≠ .half other) → pool.state.2.keyBy = serial

/-! ### Where a reload is -/

/-- What is left of a program, by what its reload has stored. -/
inductive Rest (prepared : List (CertifiedKey × List Der)) : Stage → IdentityProg Unit → Prop
  | done : Rest prepared .nothing (.ret ())
  | writes (path : String) (content : FileContent) :
      Rest prepared .nothing (.call (.write path content) .ret)
  | prepares (p : FileProg String (CertifiedKey × List Der)) :
      Rest prepared .nothing (((reading p).bind fun result =>
        .call (.prepared result) fun _ => install result).bind reportResult)
  | fails (e : String) : Rest prepared .nothing (reportResult (.error e))
  | installs {serial : ℕ} {key : CertifiedKey} {anchors : List Der}
      (h : prepared[serial]? = some (key, anchors)) :
      Rest prepared (.prepared serial) ((install (.ok (key, anchors))).bind reportResult)
  | completes {serial : ℕ} {key : CertifiedKey} {anchors : List Der}
      (h : prepared[serial]? = some (key, anchors)) :
      Rest prepared (.half serial)
        (.call (.storeVerifier anchors) fun _ => reportResult (.ok ()))
  | succeeds : Rest prepared .both (reportResult (.ok ()))

/-- The invariant: what is installed was prepared by one of the reloads, the key by one and the
anchors by one, perhaps another. -/
structure IdentityInv (s : ClientIdentity × IdentityNotes) : Prop where
  key : ∃ anchors, s.2.prepared[s.2.keyBy]? = some (s.1.resolver, anchors)
  anchors : ∃ key, s.2.prepared[s.2.anchorsBy]? = some (key, s.1.verifier)

section Interleavings

variable {X : TlsExterns} {origin : ClientIdentityConfig} {s s' : ClientIdentity × IdentityNotes}
  {who : ℕ} {p : IdentityProg Unit} {c : IdentityCall} {k : c.Answer → IdentityProg Unit}
  {prepared prepared' : List (CertifiedKey × List Der)} {stage : Stage}

theorem getElem?_append_of_some {α : Type} {l : List α} {n : ℕ} {a : α} (h : l[n]? = some a)
    (l' : List α) : (l ++ l')[n]? = some a := by
  rw [List.getElem?_append_left (List.getElem?_eq_some_iff.mp h).1]
  exact h

/-- What was prepared stays so: later entries are added behind it. -/
theorem Rest.append (h : Rest prepared stage p) (new : List (CertifiedKey × List Der)) :
    Rest (prepared ++ new) stage p := by
  cases h with
  | done => exact .done
  | writes path content => exact .writes path content
  | prepares q => exact .prepares q
  | fails e => exact .fails e
  | installs h => exact .installs (getElem?_append_of_some h new)
  | completes h => exact .completes (getElem?_append_of_some h new)
  | succeeds => exact .succeeds

/-- A program that has returned has no reload. -/
theorem Rest.eq_nothing_of_returned (h : Rest prepared stage p) (hp : p.next? = none) :
    stage = .nothing := by
  cases h with
  | done => rfl
  | writes path content => rfl
  | prepares q => rfl
  | fails e => rfl
  | installs h => contradiction
  | completes h => contradiction
  | succeeds => contradiction

/-- A reload that fails has stored nothing: everything that can fail comes before its first store.
-/
theorem Rest.hasStored_of_failing (h : Rest prepared stage p) (hp : failing p = true) :
    stage.hasStored = false := by
  cases h with
  | done => rfl
  | writes path content => rfl
  | prepares q => rfl
  | fails e => rfl
  | installs h => contradiction
  | completes h => contradiction
  | succeeds => contradiction

/-- **Where a program is that an operation starts.** -/
theorem rest_program (op : IdentityOp) : Rest prepared .nothing (op.program X origin) := by
  cases op with
  | reload => exact .prepares _
  | write path content => exact .writes path content

/-- What a call of a reload does to what is installed. -/
inductive Stored (s s' : ClientIdentity × IdentityNotes) (who : ℕ) : Prop
  | nothing (hwho : ∀ serial, s.2.stage who ≠ .half serial)
      (hhalf : ∀ j serial, s'.2.stage j = .half serial ↔ s.2.stage j = .half serial)
      (hkey : s'.2.keyBy = s.2.keyBy) (hanchors : s'.2.anchorsBy = s.2.anchorsBy)
  | key (serial : ℕ) (hwho : s.2.stage who = .prepared serial)
      (hstage : s'.2.stage who = .half serial)
  | anchors (serial : ℕ) (hwho : s.2.stage who = .half serial)
      (hstage : s'.2.stage = Function.update s.2.stage who .both)
      (hkey : s'.2.keyBy = s.2.keyBy) (hanchors : s'.2.anchorsBy = serial)

/-- A call that leaves a reload where it has stored nothing or everything. -/
theorem Stored.of_update (hstage : s'.2.stage = Function.update s.2.stage who stage)
    (hbefore : ∀ serial, s.2.stage who ≠ .half serial) (hafter : ∀ serial, stage ≠ .half serial)
    (hkey : s'.2.keyBy = s.2.keyBy) (hanchors : s'.2.anchorsBy = s.2.anchorsBy) :
    Stored s s' who := by
  refine .nothing hbefore (fun j serial => ?_) hkey hanchors
  rw [hstage]
  by_cases hj : j = who
  · subst hj
    rw [Function.update_self]
    exact ⟨fun h => absurd h (hafter serial), fun h => absurd h (hbefore serial)⟩
  · rw [Function.update_of_ne hj]

/-- What a call keeps, and what it does. -/
structure Called (s s' : ClientIdentity × IdentityNotes) (who : ℕ) (p : IdentityProg Unit) :
    Prop where
  inv : IdentityInv s'
  rest : Rest s'.2.prepared (s'.2.stage who) p
  stored : Stored s s' who

/-- A call that installs nothing: the cells and their notes stay, and its program goes on. -/
theorem Called.of_quiet (files : Files) (hs : IdentityInv s) (hwho : s.2.stage who = stage)
    (hstage : ∀ serial, stage ≠ .half serial) (hrest : Rest s.2.prepared stage p) :
    Called s ({ s.1 with files := files }, s.2) who p where
  inv := ⟨hs.key, hs.anchors⟩
  rest := hwho ▸ hrest
  stored := .nothing (hwho ▸ hstage) (fun _ _ => Iff.rfl) rfl rfl

/-- **What a call of a program does** to the source, the notes and the program itself, one case for
each call. -/
theorem Rest.call (hs : IdentityInv s) (h : Rest s.2.prepared stage p)
    (hstage : s.2.stage who = stage) (hp : p = .call c k) :
    Called s (identityAnswer s who () c).1 who (k (identityAnswer s who () c).2) := by
  have hserial : ∀ serial, Stage.nothing ≠ .half serial := by
    intro serial
    exact Stage.noConfusion
  -- one case for each place a program can be at, in the order the source goes through them
  cases h with
  | done => contradiction
  -- writing a file and reading one touch neither of the two cells
  | writes path content =>
    cases hp
    exact .of_quiet _ hs hstage hserial .done
  | prepares q =>
    cases q with
    | call d l =>
      obtain ⟨path⟩ := d
      cases hp
      exact .of_quiet s.1.files hs hstage hserial (.prepares (l (s.1.files path)))
    | fail e =>
      cases hp
      exact .of_quiet s.1.files hs hstage hserial (.fails e)
    | ret pair =>
      -- what was prepared gets the next number
      cases hp
      obtain ⟨anchors, hkey⟩ := hs.key
      obtain ⟨key, hanchors⟩ := hs.anchors
      refine ⟨⟨⟨anchors, ?_⟩, ⟨key, ?_⟩⟩, ?_, ?_⟩
      · exact getElem?_append_of_some hkey [pair]
      · exact getElem?_append_of_some hanchors [pair]
      · show Rest (s.2.prepared ++ [pair]) (Function.update s.2.stage who _ who) _
        rw [Function.update_self]
        exact .installs (by simp)
      · exact .of_update rfl (hstage ▸ hserial) (fun _ => Stage.noConfusion) rfl rfl
  -- nothing was installed, and the program has nothing left to do
  | fails e =>
    cases hp
    refine ⟨⟨hs.key, hs.anchors⟩, ?_, .of_update rfl (hstage ▸ hserial) hserial rfl rfl⟩
    show Rest s.2.prepared (Function.update s.2.stage who .nothing who) (.ret ())
    rw [Function.update_self]
    exact .done
  -- the key is stored first; until the anchors follow, the program is half way
  | @installs serial key anchors h =>
    cases hp
    have hnow : (Function.update s.2.stage who (.half (s.2.stage who).serial)) who
        = .half serial := by
      rw [Function.update_self, hstage]
      rfl
    refine ⟨⟨⟨anchors, ?_⟩, hs.anchors⟩, ?_, .key serial hstage hnow⟩
    · show s.2.prepared[(s.2.stage who).serial]? = some (key, anchors)
      rw [hstage]
      exact h
    · show Rest s.2.prepared (Function.update s.2.stage who _ who) _
      rw [hnow]
      exact .completes h
  -- the anchors follow, of the same number
  | @completes serial key anchors h =>
    cases hp
    have hnow : (s.2.stage who).serial = serial := by
      rw [hstage]
      rfl
    refine ⟨⟨hs.key, ⟨key, ?_⟩⟩, ?_, .anchors serial hstage rfl rfl hnow⟩
    · show s.2.prepared[(s.2.stage who).serial]? = some (key, anchors)
      rw [hnow]
      exact h
    · show Rest s.2.prepared (Function.update s.2.stage who .both who) _
      rw [Function.update_self]
      exact .succeeds
  -- both are stored, and the program is done
  | succeeds =>
    cases hp
    have hboth : ∀ serial, s.2.stage who ≠ .half serial := by
      intro serial
      rw [hstage]
      exact Stage.noConfusion
    refine ⟨⟨hs.key, hs.anchors⟩, ?_, .of_update rfl hboth hserial rfl rfl⟩
    show Rest s.2.prepared (Function.update s.2.stage who .nothing who) (.ret ())
    rw [Function.update_self]
    exact .done

/-- A call leaves the others where they are. -/
theorem identityAnswer_frame (s : ClientIdentity × IdentityNotes) (who : ℕ) (c : IdentityCall) :
    (∃ new, (identityAnswer s who () c).1.2.prepared = s.2.prepared ++ new) ∧
      ∀ j, j ≠ who → (identityAnswer s who () c).1.2.stage j = s.2.stage j := by
  cases c with
  | read path => exact ⟨⟨[], (List.append_nil _).symm⟩, fun j hj => rfl⟩
  | write path content => exact ⟨⟨[], (List.append_nil _).symm⟩, fun j hj => rfl⟩
  | prepared result =>
    cases result with
    | error e => exact ⟨⟨[], (List.append_nil _).symm⟩, fun j hj => rfl⟩
    | ok pair => exact ⟨⟨[pair], rfl⟩, fun j hj => Function.update_of_ne hj _ _⟩
  | storeKey key =>
    exact ⟨⟨[], (List.append_nil _).symm⟩, fun j hj => Function.update_of_ne hj _ _⟩
  | storeVerifier anchors =>
    exact ⟨⟨[], (List.append_nil _).symm⟩, fun j hj => Function.update_of_ne hj _ _⟩
  | returned result =>
    exact ⟨⟨[], (List.append_nil _).symm⟩, fun j hj => Function.update_of_ne hj _ _⟩

/-- What holds of a pool in every run. -/
def IdentityRun (pool : IdentityPool) : Prop :=
  IdentityInv pool.state ∧
    ∀ who, Rest pool.state.2.prepared (pool.state.2.stage who) (pool.threads who)

/-- **It holds in every run**: a start and a step of any program keep it. -/
theorem IdentityRun.step {pool : IdentityPool} (h : IdentityRun pool)
    (a : Action IdentityOp Unit) :
    IdentityRun (pool.step identityAnswer (IdentityOp.program X origin) a) := by
  refine Pool.keeps (I := IdentityInv) (T := fun (s : ClientIdentity × IdentityNotes) who p =>
    Rest s.2.prepared (s.2.stage who) p) ?_ ?_ h
  · intro who op _ _ hreturned hrest
    rw [hrest.eq_nothing_of_returned hreturned]
    exact rest_program op
  · intro who input c k _ hs hthread hrest
    have hcall := hrest.call hs rfl rfl
    obtain ⟨⟨new, hprepared⟩, hstage⟩ := identityAnswer_frame pool.state who c
    refine ⟨hcall.inv, hcall.rest, fun j p hj hp => ?_⟩
    rw [hprepared, hstage j hj]
    exact hp.append new

theorem IdentityRun.foldl {pool : IdentityPool} (h : IdentityRun pool)
    (as : List (Action IdentityOp Unit)) :
    IdentityRun (as.foldl (Pool.step identityAnswer (IdentityOp.program X origin)) pool) := by
  induction as generalizing pool with
  | nil => exact h
  | cons a as ih => exact ih (h.step a)

theorem identityRun_built (files : Files) (loaded : CertifiedKey × List Der) :
    IdentityRun (IdentityPool.built files loaded) :=
  ⟨⟨⟨loaded.2, rfl⟩, ⟨loaded.1, rfl⟩⟩, fun _ => .done⟩

/-- What is installed belongs together if it has the same number. -/
theorem IdentityInv.paired (h : IdentityInv s) (hsame : s.2.keyBy = s.2.anchorsBy) : Paired s := by
  obtain ⟨anchors, hkey⟩ := h.key
  obtain ⟨key, hanchors⟩ := h.anchors
  rw [← hsame, hkey] at hanchors
  cases hanchors
  exact ⟨hsame, hkey⟩

/-- What is consistent of a pool in a run. -/
theorem IdentityRun.consistent_iff {pool : IdentityPool} (h : IdentityRun pool) :
    Consistent pool ↔ (NoneBetween pool.state → pool.state.2.keyBy = pool.state.2.anchorsBy) :=
  ⟨fun hconsistent hnone => (hconsistent.2 hnone).1,
    fun hsame => ⟨fun who hfailing => (h.2 who).hasStored_of_failing hfailing,
      fun hnone => h.1.paired (hsame hnone)⟩⟩

/-- A call keeps what is installed together exactly if it stores the last of both. -/
theorem Stored.storesLast_iff {pool : IdentityPool} (h : Stored pool.state s' who)
    (hsame : NoneBetween pool.state → pool.state.2.keyBy = pool.state.2.anchorsBy) :
    StoresLast pool (.step who ()) ↔ (NoneBetween s' → s'.2.keyBy = s'.2.anchorsBy) := by
  cases h with
  | nothing hwho hhalf hkey hanchors =>
    refine iff_of_true (fun serial hhalf _ => absurd hhalf (hwho serial)) fun hnone => ?_
    rw [hkey, hanchors]
    exact hsame fun j serial hj => hnone j serial ((hhalf j serial).mpr hj)
  | key serial hwho hstage =>
    refine iff_of_true (fun other hhalf _ => ?_) fun hnone => absurd hstage (hnone who serial)
    rw [hwho] at hhalf
    contradiction
  | anchors serial hwho hstage hkey hanchors =>
    -- who stores its anchors is between its stores no more
    have hnone : NoneBetween s' ↔ ∀ j, j ≠ who → ∀ other, pool.state.2.stage j ≠ .half other := by
      rw [NoneBetween, hstage]
      constructor
      · intro hnone j hj other
        rw [← Function.update_of_ne hj Stage.both pool.state.2.stage]
        exact hnone j other
      · intro hothers j other
        by_cases hj : j = who
        · subst hj
          rw [Function.update_self]
          exact Stage.noConfusion
        · rw [Function.update_of_ne hj]
          exact hothers j hj other
    rw [hnone, hkey, hanchors]
    constructor
    · intro hlast hothers
      exact hlast serial hwho hothers
    · intro hlast other hother hothers
      cases hwho.symm.trans hother
      exact hlast hothers

/-- **A step keeps the promise exactly if it stores the last of both.** -/
theorem storesLast_iff_consistent {pool : IdentityPool} (a : Action IdentityOp Unit)
    (h : IdentityRun pool) (hconsistent : Consistent pool) :
    StoresLast pool a ↔
      Consistent (pool.step identityAnswer (IdentityOp.program X origin) a) := by
  have hsame := h.consistent_iff.mp hconsistent
  rw [(h.step a).consistent_iff]
  cases a with
  | start who op =>
    rcases Pool.step_start_cases identityAnswer (IdentityOp.program X origin) pool who op with
      heq | ⟨-, heq⟩
    · rw [heq]
      exact iff_of_true trivial hsame
    · rw [heq]
      exact iff_of_true trivial hsame
  | step who input =>
    rcases Pool.step_step_cases identityAnswer (IdentityOp.program X origin) pool who input with
      ⟨hreturned, heq⟩ | ⟨c, k, hthread, heq⟩
    · rw [heq]
      refine iff_of_true (fun serial hhalf _ => ?_) hsame
      rw [(h.2 who).eq_nothing_of_returned hreturned] at hhalf
      contradiction
    · rw [heq]
      exact ((h.2 who).call h.1 rfl hthread).stored.storesLast_iff hsame

/-- **A rotation is never half-applied exactly in the runs in which who stores its anchors last has
stored its certificate last.** -/
theorem consistent_iff_allowed (X : TlsExterns) (origin : ClientIdentityConfig) (files : Files)
    (loaded : CertifiedKey × List Der) (as : List (Action IdentityOp Unit)) :
    (∀ n, Consistent ((as.take n).foldl (Pool.step identityAnswer (IdentityOp.program X origin))
      (IdentityPool.built files loaded))) ↔
    Allowed (Pool.step identityAnswer (IdentityOp.program X origin)) StoresLast
      (IdentityPool.built files loaded) as := by
  have hrun := identityRun_built files loaded
  have hinit : Consistent (IdentityPool.built files loaded) :=
    hrun.consistent_iff.mpr fun _ => rfl
  exact (allowed_iff_forall_take (J := IdentityRun) (P := Consistent) (fun _ a h => h.step a)
    (fun _ a h => storesLast_iff_consistent a h) hrun hinit).symm

/-- Where every program has returned, no reload is between its two stores. -/
theorem IdentityRun.noneBetween {pool : IdentityPool} (h : IdentityRun pool)
    (hreturned : ∀ who, (pool.threads who).next? = none) : NoneBetween pool.state := by
  intro who serial
  rw [(h.2 who).eq_nothing_of_returned (hreturned who)]
  exact Stage.noConfusion

end Interleavings

/-! ### Samples -/

/-- An identity with anchors of its own. -/
def sampleIdentityConfig : ClientIdentityConfig := ⟨"client.pem", "client.key", some "ca.pem", true⟩

/-- The files with the given certificate and the given anchor. -/
def sampleIdentityFiles (cert ca : List UInt8) : Files := fun path =>
  if path = "ca.pem" then .ok ca
  else if path = "client.pem" ∨ path = "client.key" then .ok cert
  else .error (.unopened "No such file or directory")

/-- Somebody writes a file. -/
def sampleIdentityWrite (path : String) (bytes : List UInt8) : List (Action IdentityOp Unit) :=
  [.start 0 (.write path (.ok bytes)), .step 0 ()]

/-- A reload prepares what the files held first and another one what they hold then, which stores
its certificate before and its anchors after the first. -/
def sampleOverlap : List (Action IdentityOp Unit) :=
  .start 1 .reload :: List.replicate 4 (.step 1 ()) ++
    sampleIdentityWrite "client.pem" [2] ++ sampleIdentityWrite "client.key" [2] ++
    sampleIdentityWrite "ca.pem" [8] ++
    .start 2 .reload :: List.replicate 4 (.step 2 ()) ++
    [.step 2 (), .step 1 (), .step 1 (), .step 2 (), .step 1 (), .step 2 ()]

/-- What these actions come to, for the sample configuration. -/
def sampleIdentityRun (as : List (Action IdentityOp Unit)) : IdentityPool :=
  as.foldl (Pool.step identityAnswer (IdentityOp.program sampleTlsExterns sampleIdentityConfig))
    (IdentityPool.built (sampleIdentityFiles [1] [9]) (⟨[[1]], [1]⟩, [[9]]))

/-- Two reloads at once can leave the certificate of one with the anchors of the other. -/
theorem not_forall_consistent :
    ¬ ∀ (X : TlsExterns) (origin : ClientIdentityConfig) (files : Files)
      (loaded : CertifiedKey × List Der) (as : List (Action IdentityOp Unit)),
      Consistent (as.foldl (Pool.step identityAnswer (IdentityOp.program X origin))
        (IdentityPool.built files loaded)) := by
  intro h
  have hrun : IdentityRun (sampleIdentityRun sampleOverlap) :=
    (identityRun_built _ _).foldl sampleOverlap
  have hreturned : ∀ who, ((sampleIdentityRun sampleOverlap).threads who).next? = none := by
    intro who
    -- the three programs have come to their end, and nobody else has started
    by_cases hwho : who ≤ 2
    · obtain rfl | rfl | rfl : who = 0 ∨ who = 1 ∨ who = 2 := by
        omega
      · rfl
      · rfl
      · rfl
    · have hothers : ∀ a ∈ sampleOverlap, a.who ≤ 2 := by
        decide
      have hne : ∀ a ∈ sampleOverlap, who ≠ a.who := by
        intro a ha heq
        exact hwho (heq ▸ hothers a ha)
      rw [sampleIdentityRun, Pool.foldl_threads_of_ne hne]
      rfl
  have hpaired := (h sampleTlsExterns sampleIdentityConfig _ _ sampleOverlap).2
    (hrun.noneBetween hreturned)
  have hsame : (sampleIdentityRun sampleOverlap).state.2.keyBy
      = (sampleIdentityRun sampleOverlap).state.2.anchorsBy := hpaired.1
  exact absurd hsame (by decide +kernel)

end ActonService.Tls
