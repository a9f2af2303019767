import ActonService.Lib.Ledger
import ActonService.Middleware.Authentication

/-!
# Token revocation

`RedisTokenRevocation` of `middleware/revocation.rs`, and the token middleware with it: the
identifier of a token that the validator has accepted is looked up in Redis before the request is
passed on.  A revocation is a key with a time to live, which a later revocation of the same
identifier overwrites, whether it is longer or shorter.

## Main definitions

* `RedisTokenRevocation` — the keys, and the two functions as programs.
* `TokenAuth.checkedJti`, `checkedMiddleware` — what the middleware asks, and the middleware as a
  program.
* `RevocationOp` — the clients of a server: requests, revocations, and what others do there.
* `RedisTokenRevocation.revokedAt` — what a trace says of an identifier.

## Main results

* `tokenMiddleware_revocation` — **the middleware refuses a token exactly if its last revocation
  has not run out when it is looked up.**
* `revoked_stays_out` — **once a token was revoked, no request with it gets through** before the
  first of its revocations runs out.
-/

namespace ActonService

open Effect Layers Redis Run

/-! ### The functions -/

/-- `RedisTokenRevocation`, but for its pool. -/
structure RedisTokenRevocation where
  keyPrefix : String

/-- `RedisTokenRevocation::new` -/
def RedisTokenRevocation.new : RedisTokenRevocation := ⟨"token:revoked:"⟩

/-- What happens to a token or is done to one. -/
inductive RevocationEvent (Ip : Type)
  /-- The middleware has handled a request. -/
  | handled (stamps : Stamps) (auth : TokenAuth) (r : Request Ip)
      (handling : Handling (Request Ip) Response AuditEvent)
  /-- `revoke` has returned. -/
  | revoked (jti : String) (ttlSecs : UInt64) (result : Except ServiceError Unit)

variable {τ Ip : Type}

abbrev RevocationCall (τ Ip : Type) := CellCall τ (RevocationEvent Ip)

abbrev RevocationProg (τ Ip α : Type) :=
  Prog (RevocationCall τ Ip) CellCall.Answer ServiceError α

namespace RedisTokenRevocation

variable (R : RedisTokenRevocation)

/-- `revocation_key` -/
def revocationKey (jti : String) : String := R.keyPrefix ++ jti

/-- The key is one of a revocation. -/
def IsCell (key : String) : Prop := ∃ jti, key = R.revocationKey jti

/-- `pool.get` -/
def connect : RevocationProg τ Ip Unit :=
  askCells (fun e => .internal ("Failed to get Redis connection: " ++ e)) .connect

/-- `is_revoked` -/
def isRevoked (jti : String) : RevocationProg τ Ip Bool := do
  connect
  askCells (fun e => .internal ("Failed to check revocation status: " ++ e))
    (.exists (R.revocationKey jti))

/-- `revoke` -/
def revoke (jti : String) (ttlSecs : UInt64) : RevocationProg τ Ip Unit := do
  connect
  askCells (fun e => .internal ("Failed to revoke token: " ++ e))
    (.setEx (R.revocationKey jti) (.int 1) ttlSecs.toNat)

end RedisTokenRevocation

/-! ### The middleware -/

/-- The identifier the middleware looks up for a request. -/
def TokenAuth.checkedJti (auth : TokenAuth) (r : Request Ip) : Option String :=
  if auth.asksNone r then none
  else
    match extractToken r.headers with
    | .error _ => none
    | .ok token =>
      match auth.validateToken token with
      | .error _ => none
      | .ok claims => claims.jti

/-- The middleware's state where the checker has that answer. -/
def TokenAuth.answering (auth : TokenAuth) (answer : Except ServiceError Bool) : TokenAuth :=
  { auth with isRevoked := some fun _ => answer }

/-- `middleware` with a checker that asks Redis. -/
def checkedMiddleware (A : AddrExterns Ip) (R : RedisTokenRevocation) (stamps : Stamps)
    (auth : TokenAuth) (r : Request Ip) :
    RevocationProg τ Ip (Handling (Request Ip) Response AuditEvent) :=
  match auth.checkedJti r with
  | none => .ret (tokenMiddleware A stamps auth r)
  | some jti =>
    (R.isRevoked jti).attempt.bind fun answer =>
      .ret (tokenMiddleware A stamps (auth.answering answer) r)

section Middleware

variable {A : AddrExterns Ip} {stamps : Stamps} {auth : TokenAuth} {r : Request Ip} {jti : String}

/-- What a request whose token is looked up comes with. -/
theorem exists_of_checkedJti (h : auth.checkedJti r = some jti) :
    auth.asksNone r = false ∧ ∃ token claims, extractToken r.headers = .ok token ∧
      auth.validateToken token = .ok claims ∧ claims.jti = some jti := by
  rw [TokenAuth.checkedJti] at h
  split at h
  · cases h
  · next hasks =>
    split at h
    · cases h
    · next token htoken =>
      split at h
      · cases h
      · next claims hclaims =>
        exact ⟨Bool.eq_false_iff.mpr hasks, token, claims, htoken, hclaims, h⟩

/-- **The program is the middleware**: whatever the checker is, the middleware asks it of that
identifier only. -/
theorem tokenMiddleware_eq_answering (A : AddrExterns Ip) (stamps : Stamps) {isRevoked}
    (hauth : auth.isRevoked = some isRevoked) (r : Request Ip) :
    tokenMiddleware A stamps auth r =
      match auth.checkedJti r with
      | none => tokenMiddleware A stamps { auth with isRevoked := none } r
      | some jti => tokenMiddleware A stamps (auth.answering (isRevoked jti)) r := by
  have hasks : ∀ checker, ({ auth with isRevoked := checker } : TokenAuth).asksNone r
      = auth.asksNone r := fun _ => rfl
  cases hnone : auth.asksNone r with
  | true =>
    have hchecked : auth.checkedJti r = none := by rw [TokenAuth.checkedJti, if_pos hnone]
    rw [hchecked, tokenMiddleware_of_asksNone A stamps hnone,
      tokenMiddleware_of_asksNone A stamps ((hasks none).trans hnone)]
  | false =>
    cases htoken : extractToken r.headers with
    | error e =>
      simp only [TokenAuth.checkedJti, tokenMiddleware, hasks, hnone, htoken, Bool.false_eq_true,
        if_false]
    | ok token =>
      cases hclaims : auth.validateToken token with
      | error e =>
        simp only [TokenAuth.checkedJti, tokenMiddleware, hasks, hnone, htoken, hclaims,
          Bool.false_eq_true, if_false]
      | ok claims =>
        cases hjti : claims.jti with
        | none =>
          simp only [TokenAuth.checkedJti, tokenMiddleware, TokenAuth.revokedJti, hasks, hnone,
            htoken, hclaims, hjti, hauth, Bool.false_eq_true, if_false]
        | some jti =>
          simp only [TokenAuth.checkedJti, TokenAuth.answering, tokenMiddleware,
            TokenAuth.revokedJti, hasks, hnone, htoken, hclaims, hjti, hauth, Bool.false_eq_true,
            if_false]

/-- A token that was looked up in vain is refused with the error. -/
theorem tokenMiddleware_answering_error (h : auth.checkedJti r = some jti) (e : ServiceError) :
    tokenMiddleware A stamps (auth.answering (.error e)) r = refuse [] e := by
  obtain ⟨hasks, token, claims, htoken, hclaims, hjti⟩ := exists_of_checkedJti h
  have hasks' : (auth.answering (.error e)).asksNone r = false := hasks
  have hclaims' : (auth.answering (.error e)).validateToken token = .ok claims := hclaims
  have hrevoked : (auth.answering (.error e)).revokedJti claims = .error e := by
    simp only [TokenAuth.revokedJti, TokenAuth.answering, hjti]
  simp only [tokenMiddleware, hasks', htoken, hclaims', hrevoked, Bool.false_eq_true, if_false]

/-- A token that was found among the revoked ones is refused as such. -/
theorem tokenMiddleware_answering_true (h : auth.checkedJti r = some jti) :
    ∃ events, tokenMiddleware A stamps (auth.answering (.ok true)) r
      = refuse events (.unauthorized "Token has been revoked") := by
  obtain ⟨hasks, token, claims, htoken, hclaims, hjti⟩ := exists_of_checkedJti h
  have hasks' : (auth.answering (.ok true)).asksNone r = false := hasks
  have hclaims' : (auth.answering (.ok true)).validateToken token = .ok claims := hclaims
  have hrevoked : (auth.answering (.ok true)).revokedJti claims = .ok (some jti) := by
    simp only [TokenAuth.revokedJti, TokenAuth.answering, hjti, if_true]
  simp only [tokenMiddleware, hasks', htoken, hclaims', hrevoked, Bool.false_eq_true, if_false]
  exact ⟨_, rfl⟩

/-- A token that was not found is let through, with its claims. -/
theorem tokenMiddleware_answering_false (h : auth.checkedJti r = some jti) :
    ∃ events claims, claims.jti = some jti ∧
      tokenMiddleware A stamps (auth.answering (.ok false)) r
        = forwardRequest events (r.withClaims claims) := by
  obtain ⟨hasks, token, claims, htoken, hclaims, hjti⟩ := exists_of_checkedJti h
  have hasks' : (auth.answering (.ok false)).asksNone r = false := hasks
  have hclaims' : (auth.answering (.ok false)).validateToken token = .ok claims := hclaims
  have hrevoked : (auth.answering (.ok false)).revokedJti claims = .ok none := by
    simp only [TokenAuth.revokedJti, TokenAuth.answering, hjti, Bool.false_eq_true, if_false]
  simp only [tokenMiddleware, hasks', htoken, hclaims', hrevoked, Bool.false_eq_true, if_false]
  exact ⟨_, claims, hjti, rfl⟩

end Middleware

/-! ### Clients -/

/-- What a client does: it sends a request with a token, or revokes one. -/
inductive RevocationOp (τ Ip : Type)
  | request (stamps : Stamps) (auth : TokenAuth) (r : Request Ip)
  | revoke (jti : String) (ttlSecs : UInt64)
  /-- Another client of the server makes a call. -/
  | other (c : RevocationCall τ Ip)

variable (A : AddrExterns Ip) (R : RedisTokenRevocation)

/-- What the client runs, with a note of the result behind it. -/
def RevocationOp.program : RevocationOp τ Ip → RevocationProg τ Ip Unit
  | .request stamps auth r =>
    (checkedMiddleware A R stamps auth r).bind fun handling =>
      .call (.plain (.notify (.handled stamps auth r handling))) .ret
  | .revoke jti ttlSecs =>
    (R.revoke jti ttlSecs).attempt.bind fun result =>
      .call (.plain (.notify (.revoked jti ttlSecs result))) .ret
  | .other c => .call c fun _ => .ret ()

abbrev RevocationPool (τ Ip : Type) :=
  Pool (Server τ × List (ServerLine τ (RevocationEvent Ip))) (RevocationCall τ Ip) CellCall.Answer
    ServiceError

/-- The others say nothing of requests, and write no revocation but by `SETEX`. -/
def KeepsOut (_ : RevocationPool τ Ip) : Action (RevocationOp τ Ip) Redis.Moment → Prop
  | .start _ (.other c) => c.KeepsTo R.IsCell ∧ ∀ event, c ≠ .plain (.notify event)
  | _ => True

/-- The client's call was answered with an error, and the request is refused with it. -/
def RedisTokenRevocation.Fails (jti : String) (x : (c : RevocationCall τ Ip) × c.Answer)
    (handling : Handling (Request Ip) Response AuditEvent) : Prop :=
  ∃ e,
    (x = ⟨.plain (.redis .connect), .error e⟩ ∧
      handling = refuse [] (.internal ("Failed to get Redis connection: " ++ e))) ∨
    (x = ⟨.plain (.redis (.exists (R.revocationKey jti))), .error e⟩ ∧
      handling = refuse [] (.internal ("Failed to check revocation status: " ++ e)))

/-- What a client says is what it was answered. -/
def Reports (last : Option ((c : RevocationCall τ Ip) × c.Answer)) : RevocationCall τ Ip → Prop
  | .plain (.notify (.handled stamps auth r handling)) =>
    ∀ jti, auth.checkedJti r = some jti →
      (∃ x, last = some x ∧ R.Fails jti x handling) ∨
      ∃ found, last = some ⟨.plain (.redis (.exists (R.revocationKey jti))), .ok found⟩ ∧
        handling = tokenMiddleware A stamps (auth.answering (.ok found)) r
  | .plain (.notify (.revoked jti ttlSecs result)) => result = .ok () →
    last = some ⟨.plain (.redis (.setEx (R.revocationKey jti) (.int 1) ttlSecs.toNat)), .ok ()⟩
  | c => c.KeepsTo R.IsCell

variable {A R}

theorem heeds_request (stamps : Stamps) (auth : TokenAuth) (r : Request Ip)
    (last : Option ((c : RevocationCall τ Ip) × c.Answer)) :
    (RevocationOp.program A R (.request stamps auth r)).Heeds (Reports A R) last := by
  rw [RevocationOp.program, checkedMiddleware]
  cases hjti : auth.checkedJti r with
  | none =>
    refine ⟨fun jti h => ?_, fun _ => trivial⟩
    rw [hjti] at h
    cases h
  | some jti =>
    refine ⟨fun _ _ => trivial, fun answer => ?_⟩
    cases answer with
    | error e =>
      refine ⟨fun jti' h => ?_, fun _ => trivial⟩
      exact .inl ⟨_, rfl, e, .inl ⟨rfl, tokenMiddleware_answering_error h _⟩⟩
    | ok _ =>
      refine ⟨fun _ _ => trivial, fun answer => ?_⟩
      cases answer with
      | error e =>
        refine ⟨fun jti' h => ?_, fun _ => trivial⟩
        rw [hjti] at h
        cases h
        exact .inl ⟨_, rfl, e, .inr ⟨rfl, tokenMiddleware_answering_error hjti _⟩⟩
      | ok found =>
        refine ⟨fun jti' h => ?_, fun _ => trivial⟩
        rw [hjti] at h
        cases h
        exact .inr ⟨found, rfl, rfl⟩

theorem heeds_revoke (jti : String) (ttlSecs : UInt64)
    (last : Option ((c : RevocationCall τ Ip) × c.Answer)) :
    (RevocationOp.program A R (.revoke jti ttlSecs)).Heeds (Reports A R) last := by
  refine ⟨fun _ _ => trivial, fun answer => ?_⟩
  cases answer with
  | error e => exact ⟨fun h => (by cases h), fun _ => trivial⟩
  | ok _ =>
    refine ⟨trivial, fun answer => ?_⟩
    cases answer with
    | error e => exact ⟨fun h => (by cases h), fun _ => trivial⟩
    | ok u => exact ⟨fun _ => rfl, fun _ => trivial⟩

/-- **Every client heeds what it was answered**: what it reports is what its last call before has
come to. -/
theorem heeds_program {pool : RevocationPool τ Ip} {who : ℕ} {op : RevocationOp τ Ip}
    (h : KeepsOut R pool (.start who op)) (last : Option ((c : RevocationCall τ Ip) × c.Answer)) :
    (op.program A R).Heeds (Reports A R) last := by
  cases op with
  | request stamps auth r => exact heeds_request stamps auth r last
  | revoke jti ttlSecs => exact heeds_revoke jti ttlSecs last
  | other c =>
    obtain ⟨hkeeps, hsilent⟩ := h
    refine ⟨?_, fun _ => trivial⟩
    cases c with
    | getDel key => exact hkeeps
    | plain c =>
      cases c with
      | notify event => exact (hsilent event rfl).elim
      | redis c => exact hkeeps
      | clock => exact hkeeps

/-! ### A sample -/

/-- A validator that takes every token for the one called `t`. -/
def sampleTokenAuth : TokenAuth where
  validateToken _ :=
    .ok ⟨"user:1", none, none, [], [], 3600, none, some "t", none, none, OrderedMap.empty⟩
  isRevoked := none
  publicPaths := []

def sampleBearer : Request String :=
  ⟨.get, "/orders", [("authorization", "Bearer x".toList.map fun c => c.toNat.toUInt8)],
    ⟨none, none, none, none, none, none, none, none⟩⟩

def sampleIps : AddrExterns String := ⟨fun ip => ip, fun s => some s⟩

def sampleStamps : Stamps := fun _ => (⟨List.replicate 16 0, rfl⟩, sampleTime 0)

/-- The token is revoked for a minute, and a request comes with it a second later. -/
def sampleRevocationRun : RevocationPool Unit String :=
  ([.start 0 (.revoke "t" 60), .step 0 ⟨0, .none⟩, .step 0 ⟨0, .none⟩, .step 0 ⟨0, .none⟩,
    .start 1 (.request sampleStamps sampleTokenAuth sampleBearer), .step 1 ⟨1000, .none⟩,
    .step 1 ⟨0, .none⟩, .step 1 ⟨0, .none⟩] : List (Action _ _)).foldl
    (Pool.step (traced serveCells) (RevocationOp.program sampleIps .new))
    (Pool.idle (⟨0, Keyspace.empty⟩, []))

theorem reach_sampleRevocationRun :
    Reach (Pool.step (traced serveCells) (RevocationOp.program sampleIps .new))
      (KeepsOut RedisTokenRevocation.new) (Pool.idle (⟨0, Keyspace.empty⟩, []))
      sampleRevocationRun :=
  Reach.start.foldl
    ⟨trivial, trivial, trivial, trivial, trivial, trivial, trivial, trivial, trivial⟩

/-- How the sample request is handled once its token is found to be revoked. -/
def sampleRefusal : Handling (Request String) Response AuditEvent :=
  tokenMiddleware sampleIps sampleStamps (sampleTokenAuth.answering (.ok true)) sampleBearer

/-! ### What the middleware decides -/

/-- The last revocation of the identifier has not run out. -/
def RedisTokenRevocation.revokedAt (R : RedisTokenRevocation)
    (lines : List (ServerLine τ (RevocationEvent Ip))) (now : ℕ) (jti : String) : Bool :=
  match Ledger.standing (ledger lines) (R.revocationKey jti) with
  | some (_, expiry) => decide (now < expiry)
  | none => false

/-- The lines of a reached pool keep the server and the ledger together. -/
theorem keepsTo_of_reports {last : Option ((c : RevocationCall τ Ip) × c.Answer)}
    {c : RevocationCall τ Ip} (h : Reports A R last c) : c.KeepsTo R.IsCell := by
  cases c with
  | getDel key => exact h
  | plain c =>
    cases c with
    | notify event => trivial
    | redis c => exact h
    | clock => exact h

section Runs

variable {now : ℕ} {keys : Keyspace τ} {pool : RevocationPool τ Ip}

/-- **Looking an identifier up** tells whether it is revoked. -/
theorem found_eq_revokedAt (hkeys : ∀ key, R.IsCell key → keys.entries key = none)
    (h : Reach (Pool.step (traced serveCells) (RevocationOp.program A R)) (KeepsOut R)
      (Pool.idle (⟨now, keys⟩, [])) pool)
    {pre post : List (ServerLine τ (RevocationEvent Ip))}
    {l : ServerLine τ (RevocationEvent Ip)} (heq : pool.state.2 = pre ++ l :: post) {jti : String}
    {found : Bool} (hl : (⟨l.call, l.answer⟩ : (c : RevocationCall τ Ip) × c.Answer)
      = ⟨.plain (.redis (.exists (R.revocationKey jti))), .ok found⟩) :
    found = R.revokedAt pre (time l) jti := by
  have hgenuine := genuine_of_reach h heq
  have hshows : Shows R.IsCell (replay serveCells ⟨now, keys⟩ pre).keys (ledger pre) := by
    refine shows_replay hkeys fun pre' l' post' hpre => ?_
    have hsplit : pool.state.2 = pre' ++ l' :: (post' ++ l :: post) := by
      rw [heq, hpre]
      simp
    exact ⟨genuine_of_reach h hsplit,
      keepsTo_of_reports (allowed_of_heeds (fun _ _ _ last h => heeds_program h last) h hsplit)⟩
  rw [← hgenuine.before_eq] at hshows
  obtain ⟨who, before, input, call, a⟩ := l
  cases hl
  have hcarry := carryOut_of_answer_ok hgenuine.answer_eq.symm
  obtain ⟨-, hfound⟩ := Prod.mk.inj (Except.ok.inj hcarry)
  rw [← hfound, hshows.find? ⟨jti, rfl⟩, RedisTokenRevocation.revokedAt]
  cases Ledger.standing (ledger pre) (R.revocationKey jti) with
  | none => rfl
  | some c =>
    by_cases hlt : before.now + input.elapsed < c.2 <;> simp [time, hlt]

/-- A request whose token is looked up was handled on what its client was answered last: an error,
or whether the identifier is revoked at that moment. -/
theorem answered_of_handled (hkeys : ∀ key, R.IsCell key → keys.entries key = none)
    (h : Reach (Pool.step (traced serveCells) (RevocationOp.program A R)) (KeepsOut R)
      (Pool.idle (⟨now, keys⟩, [])) pool)
    {pre post : List (ServerLine τ (RevocationEvent Ip))}
    {l : ServerLine τ (RevocationEvent Ip)} (heq : pool.state.2 = pre ++ l :: post)
    {stamps : Stamps} {auth : TokenAuth} {r : Request Ip}
    {handling : Handling (Request Ip) Response AuditEvent}
    (hl : l.call = .plain (.notify (.handled stamps auth r handling))) {jti : String}
    (hjti : auth.checkedJti r = some jti) :
    ∃ before asked between, pre = before ++ asked :: between ∧ asked.who = l.who ∧
      (∀ l' ∈ between, l'.who ≠ l.who) ∧
      (R.Fails jti ⟨asked.call, asked.answer⟩ handling ∨
        handling = tokenMiddleware A stamps
          (auth.answering (.ok (R.revokedAt before (time asked) jti))) r) := by
  have hreports := allowed_of_heeds (fun _ _ _ last h => heeds_program h last) h heq
  rw [hl] at hreports
  rcases hreports jti hjti with ⟨x, hlast, hfails⟩ | ⟨found, hlast, hhandling⟩
  · obtain ⟨before, asked, between, rfl, hwho, rfl, hbetween⟩ := exists_of_last? hlast
    exact ⟨before, asked, between, rfl, hwho, hbetween, .inl hfails⟩
  · obtain ⟨before, asked, between, rfl, hwho, hasked, hbetween⟩ := exists_of_last? hlast
    have hsplit : pool.state.2 = before ++ asked :: (between ++ l :: post) := by
      rw [heq]
      simp
    have hfound := found_eq_revokedAt hkeys h hsplit hasked
    exact ⟨before, asked, between, rfl, hwho, hbetween, .inr (hfound ▸ hhandling)⟩

/-- **The middleware refuses a token exactly if its last revocation has not run out** at the moment
it is looked up, which is while the request is handled, and lets it through otherwise.  It refuses a
token that it cannot look up, with the error that its own connection or command was answered
with. -/
theorem tokenMiddleware_revocation (hkeys : ∀ key, R.IsCell key → keys.entries key = none)
    (h : Reach (Pool.step (traced serveCells) (RevocationOp.program A R)) (KeepsOut R)
      (Pool.idle (⟨now, keys⟩, [])) pool)
    {pre post : List (ServerLine τ (RevocationEvent Ip))}
    {l : ServerLine τ (RevocationEvent Ip)} (heq : pool.state.2 = pre ++ l :: post)
    {stamps : Stamps} {auth : TokenAuth} {r : Request Ip}
    {handling : Handling (Request Ip) Response AuditEvent}
    (hl : l.call = .plain (.notify (.handled stamps auth r handling))) {jti : String}
    (hjti : auth.checkedJti r = some jti) :
    ∃ before asked between, pre = before ++ asked :: between ∧ asked.who = l.who ∧
      (∀ l' ∈ between, l'.who ≠ l.who) ∧
      (R.Fails jti ⟨asked.call, asked.answer⟩ handling ∨
        if R.revokedAt before (time asked) jti then
          ∃ events, handling = refuse events (.unauthorized "Token has been revoked")
        else
          ∃ events claims, claims.jti = some jti ∧
            handling = forwardRequest events (r.withClaims claims)) := by
  obtain ⟨before, asked, between, hpre, hwho, hbetween, hanswered⟩ :=
    answered_of_handled hkeys h heq hl hjti
  refine ⟨before, asked, between, hpre, hwho, hbetween, hanswered.imp_right ?_⟩
  rintro rfl
  cases R.revokedAt before (time asked) jti with
  | true => exact tokenMiddleware_answering_true hjti
  | false => exact tokenMiddleware_answering_false hjti

theorem tokenMiddleware_revocation_sample :
    ∃ before asked between, sampleRevocationRun.state.2.take 5 = before ++ asked :: between ∧
      asked.who = 1 ∧ (∀ l' ∈ between, l'.who ≠ 1) ∧
      (RedisTokenRevocation.new.Fails "t" ⟨asked.call, asked.answer⟩ sampleRefusal ∨
        if RedisTokenRevocation.new.revokedAt before (time asked) "t" then
          ∃ events, sampleRefusal = refuse events (.unauthorized "Token has been revoked")
        else
          ∃ events claims, claims.jti = some "t" ∧
            sampleRefusal = forwardRequest events (sampleBearer.withClaims claims)) := by
  have hlines : sampleRevocationRun.state.2 = sampleRevocationRun.state.2.take 5
      ++ ⟨1, _, _, .plain (.notify (.handled _ _ _ _)), ()⟩ :: [] := rfl
  exact tokenMiddleware_revocation (fun _ _ => rfl) reach_sampleRevocationRun hlines rfl rfl

/-- **Once a token was revoked, no request with it gets through**: `revoke` has returned, the
request comes to Redis after that, and it is answered before the first of the token's revocations
runs out. -/
theorem revoked_stays_out (hkeys : ∀ key, R.IsCell key → keys.entries key = none)
    (h : Reach (Pool.step (traced serveCells) (RevocationOp.program A R)) (KeepsOut R)
      (Pool.idle (⟨now, keys⟩, [])) pool)
    {pre mid post : List (ServerLine τ (RevocationEvent Ip))}
    {revoked l : ServerLine τ (RevocationEvent Ip)}
    (heq : pool.state.2 = pre ++ revoked :: (mid ++ l :: post)) {jti : String} {ttlSecs : UInt64}
    (hrevoked : revoked.call = .plain (.notify (.revoked jti ttlSecs (.ok ())))) {stop : ℕ}
    (hstop : ∀ e ∈ ledger pool.state.2, e.key = R.revocationKey jti →
      ∃ v expiry, e = .put (R.revocationKey jti) v expiry ∧ stop ≤ expiry)
    {stamps : Stamps} {auth : TokenAuth} {r : Request Ip}
    {handling : Handling (Request Ip) Response AuditEvent}
    (hl : l.call = .plain (.notify (.handled stamps auth r handling)))
    (hjti : auth.checkedJti r = some jti) (hmid : ∃ l' ∈ mid, l'.who = l.who)
    (htime : time l < stop) :
    ∃ events e, handling = refuse events e ∧
      (e = .unauthorized "Token has been revoked" ∨ ∃ text, e = .internal text) := by
  have hsplit : pool.state.2 = (pre ++ revoked :: mid) ++ l :: post := by
    rw [heq]
    simp
  -- the token was looked up in between, and what came of that look decides the request
  obtain ⟨before, check, between, hpre, hwho, hbetween, hfails | hhandling⟩ :=
    answered_of_handled hkeys h hsplit hl hjti
  · obtain ⟨e, ⟨-, hrefused⟩ | ⟨-, hrefused⟩⟩ := hfails
    · exact ⟨[], _, hrefused, .inr ⟨_, rfl⟩⟩
    · exact ⟨[], _, hrefused, .inr ⟨_, rfl⟩⟩
  -- the look lies behind the end of `revoke`, since the caller had a line of its own in between
  obtain ⟨rest, rfl⟩ := eq_append_of_between (P := fun l' => l'.who = l.who) hpre hmid hbetween
  -- the command of `revoke` has written the cell before the token is looked up
  have hreports := allowed_of_heeds (fun _ _ _ last h => heeds_program h last) h heq
  rw [hrevoked] at hreports
  obtain ⟨first, set, then', rfl, -, hset, -⟩ := exists_of_last? (hreports rfl)
  have hsetSplit : pool.state.2
      = first ++ set :: (then' ++ revoked :: (mid ++ l :: post)) := by
    rw [heq]
    simp
  -- the line of that command puts an entry into the ledger, with the deadline of its own clock
  have hgenuineSet := genuine_of_reach h hsetSplit
  have hentry : set.call.ledgerEntry set.before set.input
      = some (.put (R.revocationKey jti) (.int 1)
      (deadline (set.before.now + set.input.elapsed) ttlSecs.toNat)) := by
    obtain ⟨who, s, input, call, a⟩ := set
    cases hset
    exact ledgerEntry_of_setEx hgenuineSet.answer_eq.symm
  have hwritten : ∃ e ∈ ledger (first ++ set :: then' ++ revoked :: rest),
      e.key = R.revocationKey jti :=
    ⟨_, mem_ledger (by simp) hentry, rfl⟩
  have hcheckSplit : pool.state.2
      = (first ++ set :: then' ++ revoked :: rest) ++ check :: (between ++ l :: post) := by
    rw [hsplit, hpre]
    simp
  -- everything the ledger holds of the cell until the look keeps it until `stop`
  have hall : ∀ e ∈ ledger (first ++ set :: then' ++ revoked :: rest),
      e.key = R.revocationKey jti →
        ∃ v expiry, e = .put (R.revocationKey jti) v expiry ∧ stop ≤ expiry := by
    intro e he
    refine hstop e ?_
    rw [hcheckSplit, ledger_append]
    exact List.mem_append_left _ he
  -- so one entry stands, and it has not run out at the time of the look
  obtain ⟨v, expiry, hstanding, hexpiry⟩ := Ledger.exists_standing hall hwritten
  have hlt : time check < expiry := by
    have hle := time_le (genuine_of_reach h hcheckSplit) (hpre ▸ genuine_of_reach h hsplit)
    omega
  have htrue : R.revokedAt (first ++ set :: then' ++ revoked :: rest) (time check) jti = true := by
    rw [RedisTokenRevocation.revokedAt, hstanding]
    exact decide_eq_true hlt
  rw [htrue] at hhandling
  obtain ⟨events, hrefused⟩ := tokenMiddleware_answering_true hjti
  exact ⟨events, _, hhandling.trans hrefused, .inl rfl⟩

theorem revoked_stays_out_sample :
    ∃ events e, sampleRefusal = refuse events e ∧
      (e = .unauthorized "Token has been revoked" ∨ ∃ text, e = .internal text) := by
  have hledger : ledger sampleRevocationRun.state.2
      = [.put "token:revoked:t" (.int 1) 60000] := rfl
  have hlines : sampleRevocationRun.state.2 = sampleRevocationRun.state.2.take 2
      ++ ⟨0, _, _, .plain (.notify (.revoked "t" 60 (.ok ()))), ()⟩
        :: ((sampleRevocationRun.state.2.drop 3).take 2
          ++ ⟨1, ⟨1000, _⟩, ⟨0, .none⟩, .plain (.notify (.handled _ _ _ _)), ()⟩ :: []) := rfl
  have hstop : ∀ e ∈ ledger sampleRevocationRun.state.2, e.key = "token:revoked:t" →
      ∃ v expiry, e = .put "token:revoked:t" v expiry ∧ 60000 ≤ expiry := by
    intro e he _
    rw [hledger, List.mem_singleton] at he
    exact ⟨.int 1, 60000, he, Nat.le_refl _⟩
  exact revoked_stays_out (fun _ _ => rfl) reach_sampleRevocationRun hlines rfl hstop rfl rfl
    ⟨_, List.mem_cons_self, rfl⟩ (by decide)

end Runs

end ActonService
