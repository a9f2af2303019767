import ActonService.Session.Store

/-!
# Flash messages

`session/flash.rs`: messages are put into a list in the session, and the next page takes the whole
list out.

## Main definitions

* `FlashMessage` — a message, with its JSON.
* `FlashMessages.pushMany`, `FlashMessages.clear`, `FlashMessages.fromRequestParts` — putting
  messages in, dropping them and taking them.

## Main results

* `FlashMessage.ofJson_json` — a message is read back.
* `ensures_pushMany`, `ensures_clear`, `ensures_extract` — what the functions do with the messages
  of a session.
-/

namespace ActonService

open Effect

/-! ### Messages -/

/-- `FlashKind` -/
inductive FlashKind
  | success
  | info
  | warning
  | error
  deriving DecidableEq, Repr

/-- The name of a kind in JSON. -/
def FlashKind.name : FlashKind → String
  | .success => "success"
  | .info => "info"
  | .warning => "warning"
  | .error => "error"

/-- The kind of that name; `none` for a name that no kind has. -/
def FlashKind.ofName (name : String) : Option FlashKind :=
  [FlashKind.success, .info, .warning, .error].find? fun kind => kind.name == name

/-- `Deserialize for FlashKind`, where it succeeds.  A variant without data may be an object. -/
def FlashKind.ofJson : Json → Option FlashKind
  | .string name => ofName name
  | .object [(name, .null)] => ofName name
  | _ => none

/-- `FlashMessage` -/
structure FlashMessage where
  kind : FlashKind
  message : String
  deriving DecidableEq, Repr

/-- `Serialize for FlashMessage` -/
def FlashMessage.json (m : FlashMessage) : Json :=
  .object [("kind", .string m.kind.name), ("message", .string m.message)]

/-- The fields of a `FlashMessage`. -/
def FlashMessage.ofFields (kind message : Option Json) : Option FlashMessage := do
  let kind ← kind.bind FlashKind.ofJson
  let message ← message.bind stringOfJson
  some { kind, message }

/-- `Deserialize for FlashMessage`, where it succeeds.  An array has the fields in their order. -/
def FlashMessage.ofJson : Json → Option FlashMessage
  | .object entries => ofFields (entries.lookup "kind") (entries.lookup "message")
  | .array [kind, message] => ofFields (some kind) (some message)
  | _ => none

/-- A `Vec<FlashMessage>` -/
def flashesJson (messages : List FlashMessage) : Json := .array (messages.map FlashMessage.json)

/-- A `Vec<FlashMessage>`, where the value is one. -/
def flashesOfJson : Json → Option (List FlashMessage)
  | .array items => items.mapM FlashMessage.ofJson
  | _ => none

@[simp] theorem FlashKind.ofName_name (kind : FlashKind) : ofName kind.name = some kind := by
  cases kind <;> decide

/-- **A message is read back** as it was written: with the same kind and text. -/
theorem FlashMessage.ofJson_json (m : FlashMessage) : ofJson m.json = some m := by
  have hmessage : ([("kind", Json.string m.kind.name), ("message", .string m.message)]).lookup
      "message" = some (.string m.message) := by
    simp [List.lookup_cons]
  rw [json, ofJson, hmessage, List.lookup_cons_self, ofFields, Option.bind_some, FlashKind.ofJson,
    FlashKind.ofName_name]
  rfl

theorem flashesOfJson_flashesJson (messages : List FlashMessage) :
    flashesOfJson (flashesJson messages) = some messages := by
  show (messages.map FlashMessage.json).mapM FlashMessage.ofJson = some messages
  induction messages with
  | nil => rfl
  | cons m messages ih =>
    rw [List.map_cons, List.mapM_cons, ih, m.ofJson_json]
    rfl

/-! ### The list in a session -/

/-- `FLASH_SESSION_KEY` -/
def flashSessionKey : String := "_flash_messages"

/-- `Vec<FlashMessage>` -/
def flashCodec (dataError : Json → String) : Codec (List FlashMessage) :=
  .ofOption dataError flashesJson flashesOfJson flashesOfJson_flashesJson

namespace FlashMessages

variable (dataError : Json → String)

/-- `FlashMessages::push_many` -/
def pushMany (messages : List FlashMessage) : SessionProg Unit := do
  let found ← Session.get (flashCodec dataError) "Failed to read flash messages" flashSessionKey
  Session.insert (flashCodec dataError) "Failed to write flash messages" flashSessionKey
    (found.getD [] ++ messages)

/-- `FlashMessages::push` -/
def push (message : FlashMessage) : SessionProg Unit := do
  let found ← Session.get (flashCodec dataError) "Failed to read flash messages" flashSessionKey
  Session.insert (flashCodec dataError) "Failed to write flash messages" flashSessionKey
    (found.getD [] ++ [message])

/-- `FlashMessages::clear` -/
def clear : SessionProg Unit := do
  let _ ← Session.remove (flashCodec dataError) "Failed to clear flash messages" flashSessionKey
  pure ()

/-- The extractor, on a request with or without a session. -/
def fromRequestParts (hasSession : Bool) : SessionProg (List FlashMessage) :=
  if hasSession then do
    let found ← Session.remove (flashCodec dataError) "Failed to read flash messages"
      flashSessionKey
    pure (found.getD [])
  else .fail ⟨"Session not found in request extensions for flash messages"⟩

/-- One message is pushed as many are. -/
theorem push_eq_pushMany (message : FlashMessage) :
    push dataError message = pushMany dataError [message] := rfl

end FlashMessages

section Specifications

variable {dataError : Json → String} {r : SessionRecord} {x : Option (List FlashMessage)}

/-- Messages are put behind those that are there, or nothing has changed. -/
theorem ensures_pushMany (h : HoldsValue (flashCodec dataError) r flashSessionKey x)
    (messages : List FlashMessage) :
    (FlashMessages.pushMany dataError messages).Ensures sessionContract
      (fun result r' => (result = .ok () ∧
          r' = r.set flashSessionKey (some (flashesJson (x.getD [] ++ messages)))) ∨
        ((∃ e, result = .error e) ∧ r' = r)) r := by
  refine (ensures_get h).bind ?_ ?_
  · rintro found r' ⟨rfl, hfound | ⟨e, he⟩⟩
    · cases hfound
      refine (ensures_insert _).mono ?_
      rintro result r' (⟨rfl, v, hwrite, rfl⟩ | ⟨herror, rfl⟩)
      · cases hwrite
        exact .inl ⟨rfl, rfl⟩
      · exact .inr ⟨herror, rfl⟩
    · cases he
  · rintro e r' ⟨rfl, -⟩
    exact .inr ⟨⟨e, rfl⟩, rfl⟩

/-- The messages are dropped, or nothing has changed. -/
theorem ensures_clear (h : HoldsValue (flashCodec dataError) r flashSessionKey x) :
    (FlashMessages.clear dataError).Ensures sessionContract
      (fun result r' => (result = .ok () ∧ r' = r.set flashSessionKey none) ∨
        ((∃ e, result = .error e) ∧ r' = r)) r := by
  refine (ensures_remove h).bind ?_ ?_
  · rintro found r' (⟨-, rfl⟩ | ⟨⟨e, he⟩, -⟩)
    · exact .inl ⟨rfl, rfl⟩
    · cases he
  · rintro e r' (⟨he, -⟩ | ⟨-, rfl⟩)
    · cases he
    · exact .inr ⟨⟨e, rfl⟩, rfl⟩

/-- The messages are taken, or nothing has changed. -/
theorem ensures_extract (h : HoldsValue (flashCodec dataError) r flashSessionKey x) :
    (FlashMessages.fromRequestParts dataError true).Ensures sessionContract
      (fun result r' => (result = .ok (x.getD []) ∧ r' = r.set flashSessionKey none) ∨
        ((∃ e, result = .error e) ∧ r' = r)) r := by
  refine (ensures_remove h).bind ?_ ?_
  · rintro found r' (⟨hfound, rfl⟩ | ⟨⟨e, he⟩, -⟩)
    · cases hfound
      exact .inl ⟨rfl, rfl⟩
    · cases he
  · rintro e r' (⟨he, -⟩ | ⟨-, rfl⟩)
    · cases he
    · exact .inr ⟨⟨e, rfl⟩, rfl⟩

end Specifications

end ActonService
