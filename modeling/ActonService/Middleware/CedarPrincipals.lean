import ActonService.Middleware.Authorization

/-!
# The principal of a request

`build_principal` of `middleware/cedar.rs` puts the subject of a token into the text of an
`EntityUid`, as it is, and has it parsed; `build_entities` adds an entity with the subject as its
id.  The first knows three types of principals and the second two.

Cedar parses normalized texts only: it writes the uid it has read, escaping the id as
`str::escape_debug` does, and accepts the text if that gives it back.  So a text that is accepted
determines its id, and the id is the text between the quotes exactly if no character of it is
escaped.

## Main definitions

* `CharTables`, `escapeDebug` — how an id is written between quotes.
* `CedarUids`, `CedarUids.Documented` — the uids of Cedar, and what is relied on of them.
* `Claims.FindsEntity` — the principal of a request is the entity that is added for it.
* `Claims.PlainSubject` — a user or a client without a character that is escaped.

## Main results

* `escapeDebug_eq_self_iff` — when a text is its own escape.
* `findsEntity_iff` — **when the principal is the entity.**
* `buildPrincipal_inj` — different subjects never have the same principal.
* `principals_iff` — **when principals are the entities, and different for different subjects.**
-/

namespace ActonService

/-! ### Escapes -/

/-- The tables of the standard library that `escape_debug` looks characters up in. -/
structure CharTables where
  isPrintable : Char → Bool
  isGraphemeExtended : Char → Bool

section Escapes

variable (C : CharTables)

/-- `\u` and the code of a character in braces. -/
def unicodeEscape (c : Char) : List Char :=
  ['\\', 'u', '\x7b'] ++ Nat.toDigits 16 c.toNat ++ ['\x7d']

/-- `char::escape_debug_ext` with both quotes escaped, and with characters that extend the one
before them escaped if `extended`. -/
def escapeDebugChar (extended : Bool) (c : Char) : List Char :=
  if c = '\x00' then ['\\', '0']
  else if c = '\t' then ['\\', 't']
  else if c = '\r' then ['\\', 'r']
  else if c = '\n' then ['\\', 'n']
  else if c = '\\' then ['\\', '\\']
  else if c = '"' then ['\\', '"']
  else if c = '\'' then ['\\', '\'']
  else if extended && C.isGraphemeExtended c then unicodeEscape c
  else if C.isPrintable c then [c]
  else unicodeEscape c

/-- `str::escape_debug`: only the first character is escaped for extending another. -/
def escapeDebug : List Char → List Char
  | [] => []
  | c :: s => escapeDebugChar C true c ++ s.flatMap (escapeDebugChar C false)

/-- The characters with an escape of their own. -/
def specialChars : List Char := ['\x00', '\t', '\r', '\n', '\\', '"', '\'']

/-- **A character that stands for itself between quotes.** -/
def isPlainChar (c : Char) : Bool := decide (c ∉ specialChars) && C.isPrintable c

variable {C}

theorem length_unicodeEscape (c : Char) : 1 < (unicodeEscape c).length := by
  simp [unicodeEscape]

/-- An escape is the character itself, or has two characters at least. -/
theorem escapeDebugChar_cases (extended : Bool) (c : Char) :
    (isPlainChar C c = true ∧ (extended && C.isGraphemeExtended c) = false ∧
        escapeDebugChar C extended c = [c]) ∨
      ¬ (isPlainChar C c = true ∧ (extended && C.isGraphemeExtended c) = false) ∧
        1 < (escapeDebugChar C extended c).length := by
  have hunicode := length_unicodeEscape c
  by_cases hspecial : c ∈ specialChars
  · right
    refine ⟨by simp [isPlainChar, hspecial], ?_⟩
    simp only [specialChars, List.mem_cons, List.not_mem_nil, or_false] at hspecial
    rcases hspecial with rfl | rfl | rfl | rfl | rfl | rfl | rfl <;> simp [escapeDebugChar]
  · have hne := hspecial
    simp only [specialChars, List.mem_cons, List.not_mem_nil, or_false, not_or] at hne
    have hescape : escapeDebugChar C extended c
        = if extended && C.isGraphemeExtended c then unicodeEscape c
          else if C.isPrintable c then [c] else unicodeEscape c := by
      simp [escapeDebugChar, hne]
    rw [hescape]
    cases hextended : (extended && C.isGraphemeExtended c) with
    | true => exact .inr ⟨by simp, hunicode⟩
    | false =>
      cases hprintable : C.isPrintable c with
      | true => exact .inl ⟨by simp [isPlainChar, hspecial, hprintable], rfl, rfl⟩
      | false => exact .inr ⟨by simp [isPlainChar, hprintable], hunicode⟩

theorem length_le_flatMap_escapeDebugChar (s : List Char) :
    s.length ≤ (s.flatMap (escapeDebugChar C false)).length := by
  induction s with
  | nil => exact le_rfl
  | cons c s ih =>
    rw [List.flatMap_cons, List.length_append, List.length_cons]
    rcases escapeDebugChar_cases (C := C) false c with ⟨-, -, hself⟩ | ⟨-, hlength⟩
    · rw [hself, List.length_singleton]
      omega
    · omega

/-- A text is its own escape where every character stands for itself. -/
theorem flatMap_escapeDebugChar_eq_self_iff {s : List Char} :
    s.flatMap (escapeDebugChar C false) = s ↔ ∀ c ∈ s, isPlainChar C c = true := by
  induction s with
  | nil => simp
  | cons c s ih =>
    rw [List.flatMap_cons, List.forall_mem_cons]
    rcases escapeDebugChar_cases (C := C) false c with ⟨hplain, -, hself⟩ | ⟨hnot, hlength⟩
    · rw [hself, List.singleton_append, List.cons.injEq, ih]
      simp [hplain]
    · -- a longer escape makes the whole longer
      have hrest := length_le_flatMap_escapeDebugChar (C := C) s
      refine iff_of_false (fun heq => ?_) fun h => hnot ⟨h.1, rfl⟩
      have := congrArg List.length heq
      rw [List.length_append, List.length_cons] at this
      omega

/-- **A text is its own escape** exactly if every character stands for itself and the first extends
none. -/
theorem escapeDebug_eq_self_iff {s : List Char} :
    escapeDebug C s = s
      ↔ (∀ c ∈ s, isPlainChar C c = true) ∧ ∀ c ∈ s.head?, C.isGraphemeExtended c = false := by
  cases s with
  | nil => simp [escapeDebug]
  | cons c s =>
    simp only [escapeDebug, List.forall_mem_cons, List.head?_cons, Option.mem_some_iff, forall_eq']
    rcases escapeDebugChar_cases (C := C) true c with ⟨hplain, hextends, hself⟩ | ⟨hnot, hlength⟩
    · rw [Bool.true_and] at hextends
      rw [hself, List.singleton_append, List.cons.injEq, flatMap_escapeDebugChar_eq_self_iff]
      simp [hplain, hextends]
    · have hrest := length_le_flatMap_escapeDebugChar (C := C) s
      refine iff_of_false (fun heq => ?_) fun h => hnot ⟨h.1.1, by rw [Bool.true_and]; exact h.2⟩
      have := congrArg List.length heq
      rw [List.length_append, List.length_cons] at this
      omega

end Escapes

/-! ### Cedar -/

/-- The uids of the Cedar library. -/
structure CedarUids (Uid : Type) extends CharTables where
  /-- `str::parse::<EntityUid>`, or the text of its error. -/
  parseUid : String → Except String Uid
  /-- `EntityUid::from_type_name_and_id` -/
  uid : String → String → Uid
  /-- The uid of an entity that `Entities::from_json_value` reads. -/
  entityUid : Json → Option Uid

/-- The types of principals. -/
def principalTypes : List String := ["User", "Client", "Principal"]

/-- **What is relied on of the uids**: a type and an id make one uid, the text of a uid is accepted
exactly if its id is written as it is escaped, the id of an entity is the string as it is, and no
character of ASCII extends another. -/
structure CedarUids.Documented {Uid : Type} (U : CedarUids Uid) : Prop where
  uid_inj : ∀ {T T' id id' : String}, U.uid T id = U.uid T' id' → T = T' ∧ id = id'
  parse : ∀ T ∈ principalTypes, ∀ (text : String) (uid : Uid),
    U.parseUid (T ++ "::\"" ++ text ++ "\"") = .ok uid
      ↔ ∃ id : String, escapeDebug U.toCharTables id.toList = text.toList ∧ uid = U.uid T id
  entityUid : ∀ (T id : String) (attrs parents : Json),
    U.entityUid (.object [("uid", .object [("type", .string T), ("id", .string id)]),
      ("attrs", attrs), ("parents", parents)]) = some (U.uid T id)
  ascii : ∀ c : Char, c.toNat < 128 → U.isGraphemeExtended c = false

/-- `build_principal` -/
def buildPrincipal {Uid : Type} (parseUid : String → Except String Uid) (claims : Claims) :
    Except ServiceError Uid :=
  (parseUid (principalText claims)).mapError fun e => .internal ("Invalid principal" ++ ": " ++ e)

namespace Claims

variable {Uid : Type}

/-- **The principal of a request is the entity that is added for it.** -/
def FindsEntity (U : CedarUids Uid) (claims : Claims) : Prop :=
  ∃ uid, buildPrincipal U.parseUid claims = .ok uid ∧
    U.entityUid (principalEntity claims) = some uid

/-- **A user or a client without a character that is escaped.** -/
def PlainSubject (C : CharTables) (claims : Claims) : Prop :=
  (claims.isUser = true ∨ claims.isClient = true) ∧ ∀ c ∈ claims.sub.toList, isPlainChar C c = true

instance (C : CharTables) (claims : Claims) : Decidable (claims.PlainSubject C) :=
  inferInstanceAs (Decidable (_ ∧ _))

/-- The type of the principal of a request. -/
def principalType (claims : Claims) : String :=
  if claims.isUser then "User" else if claims.isClient then "Client" else "Principal"

/-- The type of the entity that is added. -/
def entityType (claims : Claims) : String := if claims.isUser then "User" else "Client"

theorem principalType_mem (claims : Claims) : claims.principalType ∈ principalTypes := by
  rw [principalType]
  split_ifs <;> decide

theorem principalText_eq (claims : Claims) :
    principalText claims = claims.principalType ++ "::\"" ++ claims.sub ++ "\"" := by
  rw [principalText, principalType]
  split_ifs <;> rfl

theorem principalType_eq_entityType_iff (claims : Claims) :
    claims.principalType = claims.entityType ↔ claims.isUser = true ∨ claims.isClient = true := by
  rw [principalType, entityType]
  cases claims.isUser <;> cases claims.isClient <;> decide

variable {U : CedarUids Uid}

theorem buildPrincipal_eq_ok_iff {claims : Claims} {uid : Uid} :
    buildPrincipal U.parseUid claims = .ok uid ↔ U.parseUid (principalText claims) = .ok uid := by
  rw [buildPrincipal]
  cases U.parseUid (principalText claims) with
  | ok uid' => simp [Except.mapError]
  | error e => exact iff_of_false (fun h => nomatch h) fun h => nomatch h

theorem entityUid_principalEntity (hU : U.Documented) (claims : Claims) :
    U.entityUid (principalEntity claims) = some (U.uid claims.entityType claims.sub) :=
  hU.entityUid _ _ _ _

/-- The principal of a request has the id that its subject is the escape of. -/
theorem buildPrincipal_eq_ok_iff_exists (hU : U.Documented) {claims : Claims} {uid : Uid} :
    buildPrincipal U.parseUid claims = .ok uid
      ↔ ∃ id : String, escapeDebug U.toCharTables id.toList = claims.sub.toList ∧
        uid = U.uid claims.principalType id := by
  rw [buildPrincipal_eq_ok_iff, principalText_eq]
  exact hU.parse _ claims.principalType_mem _ _

/-- The subject of a user or a client starts with a letter. -/
theorem escapeDebug_sub_iff (hU : U.Documented) {claims : Claims}
    (h : claims.isUser = true ∨ claims.isClient = true) :
    escapeDebug U.toCharTables claims.sub.toList = claims.sub.toList
      ↔ ∀ c ∈ claims.sub.toList, isPlainChar U.toCharTables c = true := by
  have hhead : ∀ c ∈ claims.sub.toList.head?, U.isGraphemeExtended c = false := by
    have hstart : claims.sub.toList.head? = some 'u' ∨ claims.sub.toList.head? = some 'c' := by
      rcases h with huser | hclient
      · obtain ⟨rest, hrest⟩ := List.isPrefixOf_iff_prefix.mp huser
        exact .inl (by rw [← hrest]; rfl)
      · obtain ⟨rest, hrest⟩ := List.isPrefixOf_iff_prefix.mp hclient
        exact .inr (by rw [← hrest]; rfl)
    intro c hc
    rcases hstart with hu | hc'
    · rw [hu, Option.mem_some_iff] at hc
      exact hc ▸ hU.ascii _ (by decide)
    · rw [hc', Option.mem_some_iff] at hc
      exact hc ▸ hU.ascii _ (by decide)
  rw [escapeDebug_eq_self_iff]
  exact and_iff_left hhead

/-- **When the principal is the entity**: the subject is a user or a client, and each of its
characters stands for itself. -/
theorem findsEntity_iff (hU : U.Documented) (claims : Claims) :
    claims.FindsEntity U ↔ claims.PlainSubject U.toCharTables := by
  simp only [FindsEntity, entityUid_principalEntity hU, PlainSubject,
    buildPrincipal_eq_ok_iff_exists hU]
  constructor
  · rintro ⟨uid, ⟨id, hid, rfl⟩, hentity⟩
    obtain ⟨htype, rfl⟩ := hU.uid_inj (Option.some.inj hentity)
    have hkind := claims.principalType_eq_entityType_iff.mp htype.symm
    exact ⟨hkind, (escapeDebug_sub_iff hU hkind).mp hid⟩
  · rintro ⟨hkind, hplain⟩
    refine ⟨_, ⟨claims.sub, (escapeDebug_sub_iff hU hkind).mpr hplain, rfl⟩, ?_⟩
    rw [claims.principalType_eq_entityType_iff.mpr hkind]

/-- **Different subjects never have the same principal**: its id has one escape. -/
theorem buildPrincipal_inj (hU : U.Documented) {claims claims' : Claims} {uid : Uid}
    (h : buildPrincipal U.parseUid claims = .ok uid)
    (h' : buildPrincipal U.parseUid claims' = .ok uid) : claims.sub = claims'.sub := by
  obtain ⟨id, hid, rfl⟩ := (buildPrincipal_eq_ok_iff_exists hU).mp h
  obtain ⟨id', hid', heq⟩ := (buildPrincipal_eq_ok_iff_exists hU).mp h'
  obtain ⟨-, rfl⟩ := hU.uid_inj heq
  rw [← String.toList_inj, ← hid, ← hid']

/-- **When principals are the entities, and different for different subjects.** -/
theorem principals_iff (hU : U.Documented) (claims claims' : Claims) :
    claims.FindsEntity U ∧ claims'.FindsEntity U ∧
        (claims.sub ≠ claims'.sub →
          buildPrincipal U.parseUid claims ≠ buildPrincipal U.parseUid claims')
      ↔ claims.PlainSubject U.toCharTables ∧ claims'.PlainSubject U.toCharTables := by
  rw [← findsEntity_iff hU, ← findsEntity_iff hU]
  constructor
  · rintro ⟨h, h', -⟩
    exact ⟨h, h'⟩
  · rintro ⟨h, h'⟩
    refine ⟨h, h', fun hne hsame => hne ?_⟩
    obtain ⟨uid, hbuild, -⟩ := h
    exact buildPrincipal_inj hU hbuild (hsame ▸ hbuild)

end Claims

/-! ### A sample -/

/-- What stands between quotes, with the escapes of the special characters. -/
def sampleUnescape : List Char → Option (List Char)
  | [] => some []
  | '\\' :: '0' :: s => (sampleUnescape s).map ('\x00' :: ·)
  | '\\' :: 't' :: s => (sampleUnescape s).map ('\t' :: ·)
  | '\\' :: 'r' :: s => (sampleUnescape s).map ('\r' :: ·)
  | '\\' :: 'n' :: s => (sampleUnescape s).map ('\n' :: ·)
  | '\\' :: c :: s =>
    if c ∈ ['\\', '"', '\''] then (sampleUnescape s).map (c :: ·) else none
  | c :: s => (sampleUnescape s).map (c :: ·)

/-- Tables in which every character is printable. -/
def sampleChars : CharTables := ⟨fun _ => true, fun _ => false⟩

/-- The uids at those tables: a text is accepted if its id is written as it is escaped. -/
def sampleUids : CedarUids (String × String) where
  toCharTables := sampleChars
  parseUid text :=
    match Text.splitOnce ':' text.toList with
    | some (T, ':' :: '"' :: body) =>
      match sampleUnescape body.dropLast with
      | some id =>
        if escapeDebug sampleChars id ++ ['"'] = body then .ok (String.ofList T, String.ofList id)
        else .error "the input is not in normalized form"
      | none => .error "invalid escape"
    | _ => .error "unexpected token"
  uid T id := (T, id)
  entityUid
    | .object (("uid", .object [("type", .string T), ("id", .string id)]) :: _) => some (T, id)
    | _ => none

theorem sampleUnescape_escapeDebugChar (extended : Bool) (c : Char) (s : List Char) :
    sampleUnescape (escapeDebugChar sampleChars extended c ++ s)
      = (sampleUnescape s).map (c :: ·) := by
  by_cases hspecial : c ∈ specialChars
  · simp only [specialChars, List.mem_cons, List.not_mem_nil, or_false] at hspecial
    rcases hspecial with rfl | rfl | rfl | rfl | rfl | rfl | rfl <;> rfl
  · have hne := hspecial
    simp only [specialChars, List.mem_cons, List.not_mem_nil, or_false, not_or] at hne
    have hself : escapeDebugChar sampleChars extended c = [c] := by
      simp [escapeDebugChar, hne, sampleChars]
    rw [hself, List.singleton_append, sampleUnescape.eq_7]
    all_goals
      intros
      exact hne.2.2.2.2.1 ‹c = '\\'›

theorem sampleUnescape_escapeDebug (s : List Char) :
    sampleUnescape (escapeDebug sampleChars s) = some s := by
  have hrest : ∀ s : List Char,
      sampleUnescape (s.flatMap (escapeDebugChar sampleChars false)) = some s := by
    intro s
    induction s with
    | nil => rfl
    | cons c s ih => rw [List.flatMap_cons, sampleUnescape_escapeDebugChar, ih, Option.map_some]
  cases s with
  | nil => rfl
  | cons c s =>
    rw [escapeDebug, sampleUnescape_escapeDebugChar, hrest, Option.map_some]

theorem sampleUids_documented : sampleUids.Documented where
  uid_inj := by
    intro T T' id id' h
    exact Prod.mk.injEq .. ▸ h
  parse := by
    intro T hT text uid
    have hcolon : ∀ T ∈ principalTypes, ':' ∉ T.toList := by decide
    have hlist : (T ++ "::\"" ++ text ++ "\"").toList
        = T.toList ++ ':' :: ':' :: '"' :: (text.toList ++ ['"']) := by
      simp [String.toList_append]
    simp only [sampleUids, hlist, Text.splitOnce_append (hcolon T hT), List.dropLast_concat,
      String.ofList_toList, List.append_left_inj]
    constructor
    · intro h
      cases hid : sampleUnescape text.toList with
      | none => simp [hid] at h
      | some id =>
        by_cases hnormal : escapeDebug sampleChars id = text.toList
        · simp only [hid, if_pos hnormal, Except.ok.injEq] at h
          exact ⟨String.ofList id, by rw [String.toList_ofList, hnormal], h.symm⟩
        · simp [hid, hnormal] at h
    · rintro ⟨id, hid, rfl⟩
      rw [← hid, sampleUnescape_escapeDebug]
      simp
  entityUid := by
    intro T id attrs parents
    rfl
  ascii := fun _ _ => rfl

theorem principals_iff_sample : (sampleClaims [] .empty).FindsEntity sampleUids :=
  ((Claims.principals_iff sampleUids_documented (sampleClaims [] .empty)
    (sampleClaims [] .empty)).mpr
      ⟨⟨by decide, List.forall_iff_forall_mem.mp (by decide)⟩,
        by decide, List.forall_iff_forall_mem.mp (by decide)⟩).1

/-- The claims of a subject. -/
def sampleSubject (sub : String) : Claims := { sampleClaims [] .empty with sub := sub }

/-- A subject that is neither a user nor a client is not the entity that is added, and a user whose
name has an apostrophe has no principal at all. -/
theorem not_forall_principals :
    ¬ (sampleSubject "service").FindsEntity sampleUids ∧
      ∀ uid, buildPrincipal sampleUids.parseUid (sampleSubject "user:o'neill") ≠ .ok uid := by
  constructor
  · rw [Claims.findsEntity_iff sampleUids_documented]
    decide
  · intro uid hok
    have herror : buildPrincipal sampleUids.parseUid (sampleSubject "user:o'neill")
        = .error (.internal "Invalid principal: the input is not in normalized form") := by
      decide +kernel
    rw [herror] at hok
    contradiction

end ActonService
