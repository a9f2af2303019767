import ActonService.Accounts.Handlers
import ActonService.Auth.JwtTokens
import ActonService.Lib.Ledger

/-!
# OAuth states

`RedisOAuthStateManager` of `auth/oauth/state.rs`.  `create_state` stores some data under a random
name, for a while; `validate_state` takes it out again with `GETDEL`, so that a name is good for one
validation.  A reply that is lost on the way, or a text that cannot be read, uses the name up too.

## Main definitions

* `StateData`, `StateData.json`, `StateData.ofJson` — the data and its JSON.
* `RedisOAuthStateManager` — the keys, and the two functions as programs.
* `OAuthStateOp` — the clients of a server.

## Main results

* `StateData.ofJson_json` — what is read back.
* `createState_outcome` — a name that was returned was stored.
* `validateState_outcome` — **what a validation returns**: what stands under the name at the moment
  it is taken, or that there is nothing.
* `validated_le_stored` — **in every run a name is accepted no more often than it was stored.**
-/

namespace ActonService

open Effect Redis Run

/-! ### The data -/

/-- `StateData` -/
structure StateData where
  provider : String
  redirectUri : Option String
  createdAt : Int64
  extra : Option Json

/-- `Serialize for StateData` -/
def StateData.json (data : StateData) : Json :=
  .object
    [("provider", .string data.provider),
     ("redirect_uri", optionJson .string data.redirectUri),
     ("created_at", Json.ofInt64 data.createdAt),
     ("extra", optionJson (fun v => v) data.extra)]

/-- The fields of a `StateData`. -/
def StateData.ofFields (provider redirectUri createdAt extra : Option Json) : Option StateData := do
  let provider ← provider.bind stringOfJson
  let redirectUri ← optionField stringOfJson redirectUri
  let createdAt ← createdAt.bind Json.asI64
  let extra ← optionField some extra
  some { provider, redirectUri, createdAt, extra }

/-- `Deserialize for StateData`, where it succeeds.  An array has the fields in their order. -/
def StateData.ofJson : Json → Option StateData
  | .object entries =>
    ofFields (entries.lookup "provider") (entries.lookup "redirect_uri")
      (entries.lookup "created_at") (entries.lookup "extra")
  | .array [provider, redirectUri, createdAt, extra] =>
    ofFields (some provider) (some redirectUri) (some createdAt) (some extra)
  | _ => none

/-- The value is not `null`. -/
def Json.notNull : Json → Bool
  | .null => false
  | _ => true

/-- The data as it is read back: an `extra` of `null` is none. -/
def StateData.readBack (data : StateData) : StateData :=
  { data with extra := data.extra.filter Json.notNull }

theorem optionOfJson_optionJson_string (value : Option String) :
    optionOfJson stringOfJson (optionJson .string value) = some value := by
  cases value <;> rfl

/-- **What is read back of the JSON** is the data, but for an `extra` of `null`. -/
theorem StateData.ofJson_json (data : StateData) : ofJson data.json = some data.readBack := by
  have hextra : optionOfJson some (optionJson (fun v => v) data.extra)
      = some data.readBack.extra := by
    rcases hdata : data.extra with _ | v
    · simp only [readBack, hdata]
      rfl
    · cases v <;> simp only [readBack, hdata] <;> rfl
  have hprovider : data.json = .object
    [("provider", .string data.provider), ("redirect_uri", optionJson .string data.redirectUri),
     ("created_at", Json.ofInt64 data.createdAt),
     ("extra", optionJson (fun v => v) data.extra)] := rfl
  rw [hprovider, ofJson, ofFields]
  simp only [List.lookup_cons, beq_self_eq_true,
    show ("redirect_uri" == "provider") = false by decide,
    show ("created_at" == "provider") = false by decide,
    show ("created_at" == "redirect_uri") = false by decide,
    show ("extra" == "provider") = false by decide,
    show ("extra" == "redirect_uri") = false by decide,
    show ("extra" == "created_at") = false by decide, Option.bind_some, optionField, stringOfJson,
    optionOfJson_optionJson_string, Json.asI64_ofInt64, hextra]
  rfl

/-! ### The manager -/

/-- `Error`, as far as the manager returns it. -/
inductive StateError
  | badRequest (message : String)
  | internal (message : String)
  deriving DecidableEq, Repr

/-- What the manager uses of other crates. -/
structure StateExterns where
  /-- `URL_SAFE_NO_PAD.encode` -/
  base64UrlEncode : List UInt8 → String
  /-- `serde_json::to_string` -/
  toText : Json → String
  /-- `serde_json::from_str`, into a value, or the text of its error. -/
  fromText : String → Except String Json
  /-- The text of the error of a value that is no `StateData`. -/
  dataError : Json → String

variable (X : StateExterns)

/-- `serde_json::to_string(data)` -/
def StateData.write (data : StateData) : String := X.toText data.json

/-- `serde_json::from_str` into a `StateData`. -/
def StateData.read (text : String) : Except StateError StateData :=
  let failed (e : String) : Except StateError StateData :=
    .error (.internal ("Failed to deserialize state data: " ++ e))
  match X.fromText text with
  | .error e => failed e
  | .ok v =>
    match StateData.ofJson v with
    | some data => .ok data
    | none => failed (X.dataError v)

/-- `RedisOAuthStateManager`, but for its pool. -/
structure RedisOAuthStateManager where
  keyPrefix : String
  ttlSecs : UInt64

/-- `RedisOAuthStateManager::new` -/
def RedisOAuthStateManager.new (ttlSecs : UInt64) : RedisOAuthStateManager :=
  ⟨"oauth:state:", ttlSecs⟩

/-- What a manager's functions have returned. -/
inductive OAuthStateEvent
  | created (data : StateData) (result : Except StateError String)
  | validated (state : String) (result : Except StateError StateData)

abbrev OAuthStateCall := CellCall String OAuthStateEvent

abbrev OAuthStateProg (α : Type) := Prog OAuthStateCall CellCall.Answer StateError α

/-- The text a client gets of a value. -/
def textOfValue : Value String → String
  | .text v => v
  | .int n => toString n
  | .set _ => ""

/-- What `validate_state` makes of what it took. -/
def validateReply : Option (Value String) → Except StateError StateData
  | some v => StateData.read X (textOfValue v)
  | none => .error (.badRequest "Invalid or expired OAuth state")

namespace RedisOAuthStateManager

variable (M : RedisOAuthStateManager)

/-- `state_key` -/
def stateKey (state : String) : String := M.keyPrefix ++ state

/-- The key is one of a state. -/
def IsCell (key : String) : Prop := ∃ state, key = M.stateKey state

/-- `pool.get` -/
def connect : OAuthStateProg Unit :=
  askCells (fun e => .internal ("Failed to get Redis connection: " ++ e)) .connect

/-- `create_state`, where `generate_state` draws those bytes. -/
def createState (data : StateData) (bytes : List UInt8) : OAuthStateProg String := do
  let state := X.base64UrlEncode bytes
  connect
  askCells (fun e => .internal ("Failed to store OAuth state: " ++ e))
    (.setEx (M.stateKey state) (.text (data.write X)) M.ttlSecs.toNat)
  pure state

/-- `validate_state` -/
def validateState (state : String) : OAuthStateProg StateData := do
  connect
  .call (.getDel (M.stateKey state)) fun reply =>
    match reply with
    | .error e => .fail (.internal ("Failed to retrieve OAuth state: " ++ e))
    | .ok taken => .ofExcept (validateReply X taken)

end RedisOAuthStateManager

/-! ### Clients -/

/-- What a client does: it creates a state for its data, or validates one that it was sent. -/
inductive OAuthStateOp
  | create (data : StateData) (bytes : List UInt8)
  | validate (state : String)
  /-- Another client of the server makes a call. -/
  | other (c : OAuthStateCall)

variable (M : RedisOAuthStateManager)

/-- What the client runs, with a note of the result behind it. -/
def OAuthStateOp.program : OAuthStateOp → OAuthStateProg Unit
  | .create data bytes =>
    (M.createState X data bytes).attempt.bind fun result =>
      .call (.plain (.notify (.created data result))) .ret
  | .validate state =>
    (M.validateState X state).attempt.bind fun result =>
      .call (.plain (.notify (.validated state result))) .ret
  | .other c => .call c fun _ => .ret ()

/-- The call is not about a state. -/
def RedisOAuthStateManager.Foreign : OAuthStateCall → Prop
  | .plain (.redis c) => ∀ key, M.IsCell key → c.leaves key
  | .plain .clock => True
  | .plain (.notify _) => False
  | .getDel key => ¬ M.IsCell key

abbrev OAuthStatePool :=
  Pool (Server String × List (ServerLine String OAuthStateEvent)) OAuthStateCall CellCall.Answer
    StateError

/-- The others leave the states alone: what else is done in Redis is done under other keys. -/
def LeavesStates (_ : OAuthStatePool) : Action OAuthStateOp Redis.Moment → Prop
  | .start _ (.other c) => M.Foreign c
  | _ => True

/-- The client's call was answered with an error, and the validation returns it. -/
def RedisOAuthStateManager.Fails (state : String) (x : (c : OAuthStateCall) × c.Answer)
    (result : Except StateError StateData) : Prop :=
  ∃ e,
    (x = ⟨.plain (.redis .connect), .error e⟩ ∧
      result = .error (.internal ("Failed to get Redis connection: " ++ e))) ∨
    (x = ⟨.getDel (M.stateKey state), .error e⟩ ∧
      result = .error (.internal ("Failed to retrieve OAuth state: " ++ e)))

/-- What a client says is what it was answered, and what is stored is the data of a state. -/
def ReportsStates (last : Option ((c : OAuthStateCall) × c.Answer)) : OAuthStateCall → Prop
  | .plain (.notify (.created data (.ok state))) =>
    last = some ⟨.plain (.redis (.setEx (M.stateKey state) (.text (data.write X)) M.ttlSecs.toNat)),
      .ok ()⟩
  | .plain (.notify (.created _ (.error _))) => True
  | .plain (.notify (.validated state result)) =>
    (∃ x, last = some x ∧ M.Fails state x result) ∨
      ∃ taken, last = some ⟨.getDel (M.stateKey state), .ok taken⟩ ∧ result = validateReply X taken
  | .plain (.redis (.setEx key v _)) => M.IsCell key → ∃ data : StateData, v = .text (data.write X)
  | c => c.KeepsTo M.IsCell

section Heeds

variable {X M}

theorem heeds_create (data : StateData) (bytes : List UInt8)
    (last : Option ((c : OAuthStateCall) × c.Answer)) :
    (OAuthStateOp.program X M (.create data bytes)).Heeds (ReportsStates X M) last := by
  refine ⟨fun _ _ => trivial, fun answer => ?_⟩
  cases answer with
  | error e => exact ⟨trivial, fun _ => trivial⟩
  | ok _ =>
    refine ⟨fun _ => ⟨data, rfl⟩, fun answer => ?_⟩
    cases answer with
    | error e => exact ⟨trivial, fun _ => trivial⟩
    | ok u => exact ⟨rfl, fun _ => trivial⟩

theorem heeds_validate (state : String) (last : Option ((c : OAuthStateCall) × c.Answer)) :
    (OAuthStateOp.program X M (.validate state)).Heeds (ReportsStates X M) last := by
  refine ⟨fun _ _ => trivial, fun answer => ?_⟩
  cases answer with
  | error e => exact ⟨.inl ⟨_, rfl, e, .inl ⟨rfl, rfl⟩⟩, fun _ => trivial⟩
  | ok _ =>
    refine ⟨trivial, fun answer => ?_⟩
    cases answer with
    | error e => exact ⟨.inl ⟨_, rfl, e, .inr ⟨rfl, rfl⟩⟩, fun _ => trivial⟩
    | ok taken =>
      show ((Prog.ofExcept (validateReply X taken) : OAuthStateProg StateData).attempt.bind
        fun result => .call (.plain (.notify (.validated state result))) .ret).Heeds
          (ReportsStates X M) (some ⟨.getDel (M.stateKey state), .ok taken⟩)
      cases hreply : validateReply X taken with
      | error e => exact ⟨.inr ⟨taken, rfl, hreply.symm⟩, fun _ => trivial⟩
      | ok data => exact ⟨.inr ⟨taken, rfl, hreply.symm⟩, fun _ => trivial⟩

/-- **Every client heeds what it was answered**: what it reports is what its last call before has
come to. -/
theorem heeds_stateProgram {pool : OAuthStatePool} {who : ℕ} {op : OAuthStateOp}
    (h : LeavesStates M pool (.start who op)) (last : Option ((c : OAuthStateCall) × c.Answer)) :
    (op.program X M).Heeds (ReportsStates X M) last := by
  cases op with
  | create data bytes => exact heeds_create data bytes last
  | validate state => exact heeds_validate state last
  | other c =>
    refine ⟨?_, fun _ => trivial⟩
    cases c with
    | getDel key => trivial
    | plain c =>
      cases c with
      | notify event => exact h.elim
      | clock => trivial
      | redis c =>
        cases c with
        | setEx key v secs => exact fun hkey => (h key hkey rfl).elim
        | _ => exact h

/-- Every call that is allowed keeps to the cells. -/
theorem keepsTo_of_reportsStates {last : Option ((c : OAuthStateCall) × c.Answer)}
    {c : OAuthStateCall} (h : ReportsStates X M last c) : c.KeepsTo M.IsCell := by
  cases c with
  | getDel key => trivial
  | plain c =>
    cases c with
    | notify event => trivial
    | clock => trivial
    | redis c =>
      cases c with
      | setEx key v secs => trivial
      | _ => exact h

end Heeds

/-! ### A sample -/

def sampleStateData : StateData := ⟨"google", some "https://example.com", 1234567890, none⟩

/-- What the validation of the sample state returns: its data. -/
def sampleValidation : Except StateError StateData := .ok sampleStateData

/-- The text `serde_json` writes of it. -/
def sampleStateText : String :=
  "\x7b\"provider\":\"google\",\"redirect_uri\":\"https://example.com\"," ++
    "\"created_at\":1234567890,\"extra\":null\x7d"

/-- The crates at the sample. -/
def sampleStateExterns : StateExterns where
  base64UrlEncode _ := "c3RhdGU"
  toText _ := sampleStateText
  fromText text :=
    if text = sampleStateText then .ok sampleStateData.json else .error "expected value"
  dataError _ := "invalid type"

/-- The steps of a client whose commands come through, a second apart. -/
def sampleStateSteps (who : ℕ) (op : OAuthStateOp) : List (Action OAuthStateOp Redis.Moment) :=
  [.start who op, .step who ⟨1000, .none⟩, .step who ⟨1000, .none⟩, .step who ⟨1000, .none⟩]

/-- A state is created and validated twice. -/
def sampleStateRun : OAuthStatePool :=
  (sampleStateSteps 0 (.create sampleStateData (List.replicate 32 0)) ++
    sampleStateSteps 1 (.validate "c3RhdGU") ++ sampleStateSteps 2 (.validate "c3RhdGU")).foldl
    (Pool.step (traced serveCells) (OAuthStateOp.program sampleStateExterns (.new 600)))
    (Pool.idle (⟨0, Keyspace.empty⟩, []))

theorem reach_sampleStateRun :
    Reach (Pool.step (traced serveCells) (OAuthStateOp.program sampleStateExterns (.new 600)))
      (LeavesStates (.new 600)) (Pool.idle (⟨0, Keyspace.empty⟩, [])) sampleStateRun :=
  Reach.start.foldl ⟨trivial, trivial, trivial, trivial, trivial, trivial, trivial, trivial,
    trivial, trivial, trivial, trivial, trivial⟩

/-! ### What a validation returns -/

section Runs

variable {X M} {now : ℕ} {keys : Keyspace String} {pool : OAuthStatePool}
  {pre post : List (ServerLine String OAuthStateEvent)} {l : ServerLine String OAuthStateEvent}

/-- Every line of a reached pool is genuine and allowed. -/
theorem stateLines_of_reach
    (h : Reach (Pool.step (traced serveCells) (OAuthStateOp.program X M)) (LeavesStates M)
      (Pool.idle (⟨now, keys⟩, [])) pool) (heq : pool.state.2 = pre ++ l :: post) :
    Genuine serveCells ⟨now, keys⟩ pre l ∧ ReportsStates X M (last? l.who pre) l.call :=
  ⟨genuine_of_reach h heq, allowed_of_heeds (fun _ _ _ last h => heeds_stateProgram h last) h heq⟩

/-- What stands in a cell is the data of a state. -/
theorem exists_data_of_standing
    (h : Reach (Pool.step (traced serveCells) (OAuthStateOp.program X M)) (LeavesStates M)
      (Pool.idle (⟨now, keys⟩, [])) pool) (heq : pool.state.2 = pre ++ post) {state : String}
    {v : Value String} {expiry : ℕ}
    (hstanding : Ledger.standing (ledger pre) (M.stateKey state) = some (v, expiry)) :
    ∃ data : StateData, v = .text (data.write X) := by
  obtain ⟨before, after, hledger, -⟩ := Ledger.standing_eq_some_iff.mp hstanding
  have hmem : Ledger.Entry.put (M.stateKey state) v expiry ∈ ledger pre := by
    rw [hledger]
    simp
  obtain ⟨l, hl, hentry⟩ := List.mem_flatMap.mp hmem
  obtain ⟨pre', post', rfl⟩ := List.mem_iff_append.mp hl
  have hsplit : pool.state.2 = pre' ++ l :: (post' ++ post) := by
    rw [heq]
    simp
  have hreports := (stateLines_of_reach h hsplit).2
  obtain ⟨secs, hcall⟩ := exists_setEx_of_ledgerEntry (Option.mem_toList.mp hentry)
  rw [hcall] at hreports
  exact hreports ⟨state, rfl⟩

/-- The lines of a reached pool keep the server and the ledger together. -/
theorem statesShow_of_reach (hkeys : ∀ key, M.IsCell key → keys.entries key = none)
    (h : Reach (Pool.step (traced serveCells) (OAuthStateOp.program X M)) (LeavesStates M)
      (Pool.idle (⟨now, keys⟩, [])) pool) (heq : pool.state.2 = pre ++ post) :
    Shows M.IsCell (replay serveCells ⟨now, keys⟩ pre).keys (ledger pre) := by
  refine shows_replay hkeys fun pre' l' post' hpre => ?_
  have hsplit : pool.state.2 = pre' ++ l' :: (post' ++ post) := by
    rw [heq, hpre]
    simp
  have hline := stateLines_of_reach h hsplit
  exact ⟨hline.1, keepsTo_of_reportsStates hline.2⟩

/-- **A name that was returned was stored**, with its data and for the manager's time to live. -/
theorem createState_outcome
    (h : Reach (Pool.step (traced serveCells) (OAuthStateOp.program X M)) (LeavesStates M)
      (Pool.idle (⟨now, keys⟩, [])) pool) (heq : pool.state.2 = pre ++ l :: post)
    {data : StateData} {state : String}
    (hl : l.call = .plain (.notify (.created data (.ok state)))) :
    ∃ before store between, pre = before ++ store :: between ∧ store.who = l.who ∧
      (∀ l' ∈ between, l'.who ≠ l.who) ∧
      store.call.ledgerEntry store.before store.input = some (.put (M.stateKey state)
        (.text (data.write X)) (deadline (time store) M.ttlSecs.toNat)) := by
  have hreports := (stateLines_of_reach h heq).2
  rw [hl] at hreports
  obtain ⟨before, store, between, rfl, hwho, hstore, hbetween⟩ := exists_of_last? hreports
  have hsplit : pool.state.2 = before ++ store :: (between ++ l :: post) := by
    rw [heq]
    simp
  have hgenuine := (stateLines_of_reach h hsplit).1
  refine ⟨before, store, between, rfl, hwho, hbetween, ?_⟩
  obtain ⟨who, s, input, call, a⟩ := store
  cases hstore
  exact ledgerEntry_of_setEx hgenuine.answer_eq.symm

/-- **What a validation returns.**  It is decided by the last command of its client, at the moment
that is carried out: an internal error if its connection or its `GETDEL` was answered with an error,
else the data that was stored last under the name, if it was left alone since and has not run out,
and a bad request otherwise. -/
theorem validateState_outcome (hkeys : ∀ key, M.IsCell key → keys.entries key = none)
    (h : Reach (Pool.step (traced serveCells) (OAuthStateOp.program X M)) (LeavesStates M)
      (Pool.idle (⟨now, keys⟩, [])) pool) (heq : pool.state.2 = pre ++ l :: post) {state : String}
    {result : Except StateError StateData}
    (hl : l.call = .plain (.notify (.validated state result))) :
    ∃ before take between, pre = before ++ take :: between ∧ take.who = l.who ∧
      (∀ l' ∈ between, l'.who ≠ l.who) ∧
      (M.Fails state ⟨take.call, take.answer⟩ result ∨
        (∃ (data : StateData) (expiry : ℕ), time take < expiry ∧
          Ledger.standing (ledger before) (M.stateKey state)
            = some (.text (data.write X), expiry) ∧
          result = StateData.read X (data.write X)) ∨
        (∀ v expiry, Ledger.standing (ledger before) (M.stateKey state) = some (v, expiry) →
            expiry ≤ time take) ∧
          result = .error (.badRequest "Invalid or expired OAuth state")) := by
  have hreports := (stateLines_of_reach h heq).2
  rw [hl] at hreports
  -- the last thing the caller did before was to fail, or to take the cell with `GETDEL`
  rcases hreports with ⟨x, hlast, hfails⟩ | ⟨taken, hlast, hresult⟩
  · obtain ⟨before, take, between, rfl, hwho, rfl, hbetween⟩ := exists_of_last? hlast
    exact ⟨before, take, between, rfl, hwho, hbetween, .inl hfails⟩
  obtain ⟨before, take, between, rfl, hwho, htake, hbetween⟩ := exists_of_last? hlast
  have hsplit : pool.state.2 = before ++ take :: (between ++ l :: post) := by
    rw [heq]
    simp
  have hgenuine := (stateLines_of_reach h hsplit).1
  have hshows := statesShow_of_reach hkeys h hsplit
  rw [← hgenuine.before_eq] at hshows
  refine ⟨before, take, between, rfl, hwho, hbetween, .inr ?_⟩
  -- what `GETDEL` found is what stands in the ledger
  have hfind := hshows.find? ⟨state, rfl⟩ (time take)
  have hget : ∃ taken', take.before.keys.getDel (time take) (M.stateKey state)
      = .ok (taken', taken) := by
    obtain ⟨who, s, input, call, a⟩ := take
    cases htake
    exact (getDel_of_serveGetDel hgenuine.answer_eq.symm).2
  obtain ⟨taken', hget⟩ := hget
  cases hstanding : Ledger.standing (ledger before) (M.stateKey state) with
  -- nothing stands in the ledger, so nothing was there to take
  | none =>
    rw [hstanding] at hfind
    refine .inr ⟨fun v expiry hsome => (by cases hsome), ?_⟩
    rw [Keyspace.getDel, hfind] at hget
    cases hget
    exact hresult
  -- what stands there is a data that `generate` has written, and it is taken if it has not run
  -- out
  | some c =>
    obtain ⟨v, expiry⟩ := c
    rw [hstanding, Option.filter_some] at hfind
    obtain ⟨data, rfl⟩ := exists_data_of_standing h hsplit hstanding
    by_cases hlt : time take < expiry
    · rw [if_pos (decide_eq_true hlt)] at hfind
      rw [Keyspace.getDel, hfind] at hget
      cases hget
      exact .inl ⟨data, expiry, hlt, rfl, hresult⟩
    · rw [if_neg (by simpa using hlt)] at hfind
      rw [Keyspace.getDel, hfind] at hget
      cases hget
      refine .inr ⟨fun w t hsome => ?_, hresult⟩
      cases hsome
      exact Nat.le_of_not_lt hlt

theorem validateState_outcome_sample :
    ∃ before take between, sampleStateRun.state.2.take 5 = before ++ take :: between ∧
      take.who = 1 ∧ (∀ l' ∈ between, l'.who ≠ 1) ∧
      ((RedisOAuthStateManager.new 600).Fails "c3RhdGU" ⟨take.call, take.answer⟩ sampleValidation ∨
        (∃ (data : StateData) (expiry : ℕ), time take < expiry ∧
          Ledger.standing (ledger before) "oauth:state:c3RhdGU"
            = some (.text (data.write sampleStateExterns), expiry) ∧
          sampleValidation = StateData.read sampleStateExterns (data.write sampleStateExterns)) ∨
        (∀ v expiry, Ledger.standing (ledger before) "oauth:state:c3RhdGU" = some (v, expiry) →
            expiry ≤ time take) ∧
          sampleValidation = .error (.badRequest "Invalid or expired OAuth state")) := by
  have hlines : sampleStateRun.state.2 = sampleStateRun.state.2.take 5
      ++ ⟨1, _, _, .plain (.notify (.validated "c3RhdGU" sampleValidation)), ()⟩
        :: sampleStateRun.state.2.drop 6 := rfl
  exact validateState_outcome (fun _ _ => rfl) reach_sampleStateRun hlines rfl

/-- A validation that has accepted the name. -/
def accepts (state : String) : ((c : OAuthStateCall) × c.Answer) → Bool
  | ⟨.plain (.notify (.validated s (.ok _))), _⟩ => decide (s = state)
  | _ => false

/-- What is accepted was taken: the last call of its caller is the `GETDEL` that has found it. -/
theorem takes_of_accepts {last : Option ((c : OAuthStateCall) × c.Answer)} {state : String}
    {c : OAuthStateCall} {a : c.Answer} (hreports : ReportsStates X M last c)
    (haccepts : accepts state ⟨c, a⟩ = true) :
    ∃ x, last = some x ∧ takes (M.stateKey state) x = true := by
  have hcall : ∃ data, c = .plain (.notify (.validated state (.ok data))) := by
    cases c with
    | getDel key => cases haccepts
    | plain c =>
      rcases c with c | _ | ⟨data, r⟩ | ⟨s, e | data⟩
      · cases haccepts
      · cases haccepts
      · cases haccepts
      · cases haccepts
      · have hs : s = state := of_decide_eq_true haccepts
        exact ⟨data, by rw [hs]⟩
  obtain ⟨data, rfl⟩ := hcall
  rcases hreports with ⟨x, -, e, ⟨-, hresult⟩ | ⟨-, hresult⟩⟩ | ⟨taken, hlast, hresult⟩
  · cases hresult
  · cases hresult
  · cases taken with
    | none => cases hresult
    | some v => exact ⟨_, hlast, decide_eq_true rfl⟩

/-- **In every run a name is accepted no more often than it was stored**: however validations race,
whatever replies are lost. -/
theorem validated_le_stored (hkeys : ∀ key, M.IsCell key → keys.entries key = none)
    (h : Reach (Pool.step (traced serveCells) (OAuthStateOp.program X M)) (LeavesStates M)
      (Pool.idle (⟨now, keys⟩, [])) pool) (state : String) :
    pool.state.2.countP (fun l => accepts state ⟨l.call, l.answer⟩)
      ≤ (ledger pool.state.2).countP (Ledger.Entry.isPut (M.stateKey state)) := by
  have hlines : ∀ pre l post, pool.state.2 = pre ++ l :: post →
      Genuine serveCells ⟨now, keys⟩ pre l ∧ l.call.KeepsTo M.IsCell := by
    intro pre l post heq
    have hline := stateLines_of_reach h heq
    exact ⟨hline.1, keepsTo_of_reportsStates hline.2⟩
  refine Nat.le_trans (countP_le_of_last? (g := takes (M.stateKey state)) ?_ ?_)
    (countP_takes_le ?_ hlines ⟨state, rfl⟩)
  · rintro ⟨c, a⟩ haccepts
    cases c with
    | plain c => rfl
    | getDel key => cases haccepts
  · intro pre l post heq haccepts
    exact takes_of_accepts (stateLines_of_reach h heq).2 haccepts
  · exact hkeys

theorem validated_le_stored_sample :
    sampleStateRun.state.2.countP (fun l => accepts "c3RhdGU" ⟨l.call, l.answer⟩)
      ≤ (ledger sampleStateRun.state.2).countP
        (Ledger.Entry.isPut ((RedisOAuthStateManager.new 600).stateKey "c3RhdGU")) :=
  validated_le_stored (fun _ _ => rfl) reach_sampleStateRun "c3RhdGU"

end Runs

end ActonService
