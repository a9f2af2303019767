import ActonService.Accounts.Handlers
import ActonService.Lib.Contracts
import ActonService.Middleware.Request

/-!
# Values of a session

`tower_sessions::Session` keeps JSON values under names and is known by its contract only.  What the
framework keeps in a session goes through `get`, `insert` and `remove` at a type, which write and
read the JSON of it; a call may fail, and a value that cannot be read is removed all the same.

`rand` and the audit logger are calls beside those of the session.

## Main definitions

* `SessionCall`, `SessionRecord`, `sessionContract` — the calls, and what is known of them.
* `Codec` — a type with its JSON.
* `Session.get`, `Session.insert`, `Session.remove` — the calls at a type.
* `HoldsValue` — a name at which nothing, or a value of the type, is kept.

## Main results

* `ensures_get`, `ensures_insert`, `ensures_remove` — the calls at a type keep a register.
-/

namespace ActonService

open Effect

/-! ### Calls -/

/-- The calls on a session, with those for random characters and for audit events. -/
inductive SessionCall
  | get (key : String)
  | insert (key : String) (v : Json)
  | remove (key : String)
  | flush
  | cycleId
  /-- So many characters of `rand::distr::Alphanumeric`. -/
  | sample (length : ℕ)
  /-- The identifier and the time of a new audit event. -/
  | stamp
  /-- `logger.log` -/
  | log (event : AuditEvent)

/-- What they are answered.  The error of a session is its text. -/
def SessionCall.Answer : SessionCall → Type
  | .get _ => Except String (Option Json)
  | .insert _ _ => Except String Unit
  | .remove _ => Except String (Option Json)
  | .flush => Except String Unit
  | .cycleId => Except String Unit
  | .sample _ => List Char
  | .stamp => Uuid × DateTime
  | .log _ => Unit

/-- `Error::Session` -/
structure SessionError where
  message : String
  deriving DecidableEq, Repr

/-- `into_response` -/
def SessionError.intoResponse (_ : SessionError) : Response :=
  .withCode 500 "SESSION_ERROR" "Session operation failed"

abbrev SessionProg (α : Type) := Prog SessionCall SessionCall.Answer SessionError α

/-- What a session keeps, and the events that were logged. -/
structure SessionRecord where
  values : String → Option Json
  logged : List AuditEvent

/-- The record with something else, or nothing, under a name. -/
def SessionRecord.set (r : SessionRecord) (key : String) (v : Option Json) : SessionRecord :=
  { r with values := Function.update r.values key v }

/-- The record with nothing left in the session. -/
def SessionRecord.flushed (r : SessionRecord) : SessionRecord := { r with values := fun _ => none }

/-- So many letters and digits. -/
def IsSample (length : ℕ) (s : List Char) : Prop :=
  s.length = length ∧ ∀ c ∈ s, c.isAlphanum = true

/-- What the calls do.  One that fails has done nothing, but for `flush`, which may have emptied the
session before its store failed. -/
def sessionContract : CallContract SessionRecord SessionCall SessionCall.Answer := fun r c a r' =>
  match c, a with
  | .get key, .ok v => v = r.values key ∧ r' = r
  | .get _, .error _ => r' = r
  | .insert key v, .ok _ => r' = r.set key (some v)
  | .insert _ _, .error _ => r' = r
  | .remove key, .ok v => v = r.values key ∧ r' = r.set key none
  | .remove _, .error _ => r' = r
  | .flush, .ok _ => r' = r.flushed
  | .flush, .error _ => r' = r ∨ r' = r.flushed
  | .cycleId, _ => r' = r
  | .sample n, s => IsSample n s ∧ r' = r
  | .stamp, _ => r' = r
  | .log event, _ => r' = { r with logged := r.logged ++ [event] }

/-! ### Types -/

/-- A type with `Serialize` and `Deserialize`, each with the text of its error. -/
structure Codec (α : Type) where
  write : α → Except String Json
  read : Json → Except String α
  read_write : ∀ a v, write a = .ok v → read v = .ok a

/-- A type that is always written, and read where `ofJson` reads it. -/
def Codec.ofOption {α : Type} (dataError : Json → String) (json : α → Json)
    (ofJson : Json → Option α) (h : ∀ a, ofJson (json a) = some a) : Codec α where
  write a := .ok (json a)
  read v :=
    match ofJson v with
    | some a => .ok a
    | none => .error (dataError v)
  read_write a v hv := by
    cases hv
    rw [h]

variable (dataError : Json → String)

/-- `String` -/
def stringCodec : Codec String := .ofOption dataError .string stringOfJson fun _ => rfl

/-- `serde_json::Value` -/
def valueCodec : Codec Json := .ofOption dataError id some fun _ => rfl

/-! ### The calls at a type -/

namespace Session

variable {α : Type} (codec : Codec α) (failed : String)

/-- `Error::Session(format!("…: {e}"))` -/
def error (e : String) : SessionError := ⟨failed ++ ": " ++ e⟩

/-- What was found, read as a value of the type. -/
def readFound : Option Json → SessionProg (Option α)
  | none => .ret none
  | some v =>
    match codec.read v with
    | .ok a => .ret (some a)
    | .error e => .fail (error failed e)

/-- `session.get::<T>(key)` -/
def get (key : String) : SessionProg (Option α) :=
  .call (.get key) fun
    | .ok v => readFound codec failed v
    | .error e => .fail (error failed e)

/-- `session.insert(key, value)` -/
def insert (key : String) (a : α) : SessionProg Unit :=
  match codec.write a with
  | .error e => .fail (error failed e)
  | .ok v =>
    .call (.insert key v) fun
      | .ok _ => .ret ()
      | .error e => .fail (error failed e)

/-- `session.remove::<T>(key)` -/
def remove (key : String) : SessionProg (Option α) :=
  .call (.remove key) fun
    | .ok v => readFound codec failed v
    | .error e => .fail (error failed e)

/-- `session.flush()` -/
def flush : SessionProg Unit :=
  .call .flush fun
    | .ok _ => .ret ()
    | .error e => .fail (error failed e)

/-- `session.cycle_id()` -/
def cycleId : SessionProg Unit :=
  .call .cycleId fun
    | .ok _ => .ret ()
    | .error e => .fail (error failed e)

end Session

/-! ### Registers -/

section Registers

variable {α : Type} {codec : Codec α} {failed : String} {r : SessionRecord} {key : String}
  {x : Option α}

/-- Nothing is kept under the name, or a value of the type. -/
def HoldsValue (codec : Codec α) (r : SessionRecord) (key : String) (x : Option α) : Prop :=
  match x with
  | none => r.values key = none
  | some a => ∃ v, codec.write a = .ok v ∧ r.values key = some v

@[simp] theorem SessionRecord.set_self (r : SessionRecord) (key : String) (v : Option Json) :
    (r.set key v).values key = v := by
  simp [SessionRecord.set]

theorem SessionRecord.set_of_ne (r : SessionRecord) {key other : String} (h : other ≠ key)
    (v : Option Json) : (r.set key v).values other = r.values other := by
  simp [SessionRecord.set, h]

/-- The other names are left alone. -/
theorem HoldsValue.set {other : String} (h : HoldsValue codec r other x) (hne : other ≠ key)
    (v : Option Json) : HoldsValue codec (r.set key v) other x := by
  cases x with
  | none => exact (r.set_of_ne hne v).trans h
  | some a =>
    obtain ⟨w, hw, hvalue⟩ := h
    exact ⟨w, hw, (r.set_of_ne hne v).trans hvalue⟩

theorem holdsValue_set_some {a : α} {v : Json} (h : codec.write a = .ok v) :
    HoldsValue codec (r.set key (some v)) key (some a) :=
  ⟨v, h, r.set_self key (some v)⟩

theorem holdsValue_set_none : HoldsValue codec (r.set key none) key none := r.set_self key none

/-- What is read of a register is what it holds. -/
theorem readFound_of_holdsValue (h : HoldsValue codec r key x) :
    Session.readFound codec failed (r.values key) = .ret x := by
  cases x with
  | none => rw [show r.values key = none from h, Session.readFound]
  | some a =>
    obtain ⟨v, hwrite, hvalue⟩ := h
    rw [hvalue, Session.readFound, codec.read_write a v hwrite]

/-- A call comes to a value, or to an error. -/
def ReturnsValue (result : Except SessionError α) (a : α) : Prop :=
  result = .ok a ∨ ∃ e, result = .error e

theorem ensures_get (h : HoldsValue codec r key x) :
    (Session.get codec failed key).Ensures sessionContract
      (fun result r' => r' = r ∧ ReturnsValue result x) r := by
  intro answer r' hcall
  cases answer with
  | error e => exact ⟨hcall, .inr ⟨_, rfl⟩⟩
  | ok v =>
    obtain ⟨rfl, rfl⟩ := hcall
    simp only [readFound_of_holdsValue h]
    exact ⟨rfl, .inl rfl⟩

theorem ensures_insert (a : α) :
    (Session.insert codec failed key a).Ensures sessionContract
      (fun result r' => (result = .ok () ∧ ∃ v, codec.write a = .ok v ∧ r' = r.set key (some v)) ∨
        ((∃ e, result = .error e) ∧ r' = r)) r := by
  rw [Session.insert]
  split
  · exact .inr ⟨⟨_, rfl⟩, rfl⟩
  · next v hwrite =>
    intro answer r' hcall
    cases answer with
    | error e => exact .inr ⟨⟨_, rfl⟩, hcall⟩
    | ok u => exact .inl ⟨rfl, v, hwrite, hcall⟩

theorem ensures_remove (h : HoldsValue codec r key x) :
    (Session.remove codec failed key).Ensures sessionContract
      (fun result r' => (result = .ok x ∧ r' = r.set key none) ∨
        ((∃ e, result = .error e) ∧ r' = r)) r := by
  intro answer r' hcall
  cases answer with
  | error e => exact .inr ⟨⟨_, rfl⟩, hcall⟩
  | ok v =>
    obtain ⟨rfl, rfl⟩ := hcall
    simp only [readFound_of_holdsValue h]
    exact .inl ⟨rfl, rfl⟩

theorem ensures_flush :
    (Session.flush failed).Ensures sessionContract
      (fun result r' => (result = .ok () ∧ r' = r.flushed) ∨
        ((∃ e, result = .error e) ∧ (r' = r ∨ r' = r.flushed))) r := by
  intro answer r' hcall
  cases answer with
  | error e => exact .inr ⟨⟨_, rfl⟩, hcall⟩
  | ok u => exact .inl ⟨rfl, hcall⟩

theorem ensures_cycleId :
    (Session.cycleId failed).Ensures sessionContract
      (fun result r' => r' = r ∧ ReturnsValue result ()) r := by
  intro answer r' hcall
  cases answer with
  | error e => exact ⟨hcall, .inr ⟨_, rfl⟩⟩
  | ok u => exact ⟨hcall, .inl rfl⟩

end Registers

end ActonService
