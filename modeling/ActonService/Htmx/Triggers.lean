import ActonService.Json
import ActonService.Lib.OrderedMap
import ActonService.Lib.Segments
import ActonService.Lib.Text
import Mathlib.Data.Bool.AllAny
import Mathlib.Tactic.IntervalCases

/-!
# Events in the trigger header

`HxTriggerEvents` of `htmx/responders.rs` writes a list of events into one header of the response:
their names, or a JSON object once one of them has data.  htmx reads the header back.

## Main definitions

* `HxTriggerEvents`, `HxTriggerEvents.intoResponseParts` — the events, and the header.
* `readTrigger` — what htmx reads.
* `HxTriggerEvents.Survive` — the events are read as they were added.
* `HxTriggerEvents.Fit` — the header can carry them.

## Main results

* `headerChars_writeValue_iff` — which JSON texts a header can carry.
* `readTrigger_join` — a list of names is read back.
* `survive_iff` — **when the events survive the header.**
-/

namespace ActonService

open PrefixCode

/-! ### The header -/

/-- `HxEventEntry` -/
inductive HxEventEntry
  | simple (name : String)
  | withData (name : String) (data : Json)

/-- `TriggerTiming` -/
inductive TriggerTiming
  | immediate
  | afterSettle
  | afterSwap
  deriving DecidableEq, Repr

/-- `HxTriggerEvents` -/
structure HxTriggerEvents where
  events : List HxEventEntry
  timing : TriggerTiming

/-- What the header needs from elsewhere: how JSON numbers are written, the order in which the map
of a build keeps its entries, and how htmx parses JSON. -/
structure TriggerExterns where
  num : Number → List Char
  num_chars : ∀ n, ∀ d ∈ num n, NumberChar d
  arrange : List (String × Json) → List (String × Json)
  arrange_perm : ∀ entries, (arrange entries).Perm entries
  parse : List Char → Option Json

/-- The headers of a response, each with the characters of its value. -/
abbrev ResponseHeaders := OrderedMap String (List Char)

/-- A character of a header value: visible ASCII, a space or a tab. -/
def HeaderChar (c : Char) : Prop := (32 ≤ c.toNat ∧ c.toNat < 127) ∨ c = '\t'

instance : DecidablePred HeaderChar :=
  fun c => inferInstanceAs (Decidable ((32 ≤ c.toNat ∧ c.toNat < 127) ∨ c = '\t'))

/-- The name of an event. -/
def HxEventEntry.name : HxEventEntry → String
  | .simple name => name
  | .withData name _ => name

/-- The data of an event, `null` where it has none. -/
def HxEventEntry.data : HxEventEntry → Json
  | .simple _ => .null
  | .withData _ data => data

/-- `matches!(e, HxEventEntry::Simple(_))` -/
def HxEventEntry.isSimple : HxEventEntry → Bool
  | .simple _ => true
  | .withData _ _ => false

namespace HxTriggerEvents

/-- `new` -/
def new : HxTriggerEvents := ⟨[], .immediate⟩

/-- `event` -/
def event (h : HxTriggerEvents) (name : String) : HxTriggerEvents :=
  { h with events := h.events ++ [.simple name] }

/-- `event_with_data` -/
def eventWithData (h : HxTriggerEvents) (name : String) (data : Json) : HxTriggerEvents :=
  { h with events := h.events ++ [.withData name data] }

/-- `header_name` -/
def headerName (h : HxTriggerEvents) : String :=
  match h.timing with
  | .immediate => "hx-trigger"
  | .afterSettle => "hx-trigger-after-settle"
  | .afterSwap => "hx-trigger-after-swap"

/-- The events as entries of an object. -/
def entries (h : HxTriggerEvents) : List (String × Json) := h.events.map fun e => (e.name, e.data)

/-- `all_simple` -/
def allSimple (h : HxTriggerEvents) : Bool := h.events.all HxEventEntry.isSimple

variable (X : TriggerExterns)

/-- The object of events: each name with its data, the later one of two of a name, arranged as the
map arranges it. -/
def object (h : HxTriggerEvents) : Json :=
  .object (X.arrange ((OrderedMap.empty : OrderedMap String Json).insertAll h.entries).entries)

/-- `header_value` -/
def headerValue (h : HxTriggerEvents) : List Char :=
  if h.allSimple then [',', ' '].intercalate (h.events.map (·.name.toList))
  else writeValue X.num id (h.object X)

/-- `into_response_parts` -/
def intoResponseParts (h : HxTriggerEvents) (headers : ResponseHeaders) : ResponseHeaders :=
  if h.events.isEmpty then headers
  else if (h.headerValue X).all fun c => decide (HeaderChar c) then
    headers.insert h.headerName (h.headerValue X)
  else headers

end HxTriggerEvents

/-! ### Reading the header -/

/-- What htmx reads: an object from names to data, or names between commas. -/
def readTrigger (X : TriggerExterns) (value : List Char) : Option (List (String × Json)) :=
  if value.head? = some '{' then
    match X.parse value with
    | some (.object entries) => some entries
    | _ => none
  else some ((value.splitOn ',').map fun part => (String.ofList (Text.trim part), .null))

/-- A name that the format provides for. -/
structure ValidName (name : String) : Prop where
  ne_empty : name.toList ≠ []
  no_comma : ',' ∉ name.toList
  trimmed : Text.trim name.toList = name.toList
  no_brace : name.toList.head? ≠ some '{'

/-- The same events, in any order, with the same data up to the order of keys. -/
def SameEvents (entries entries' : List (String × Json)) : Prop :=
  SameUpToKeyOrder (.object entries) (.object entries')

/-- The text of a value is parsed to the value, up to the order of keys. -/
def ParsesBack (X : TriggerExterns) (v : Json) : Prop :=
  ∃ w, X.parse (writeValue X.num id v) = some w ∧ SameUpToKeyOrder v w

/-- The response to any other parts carries the header, and the events are read from it. -/
def HxTriggerEvents.Survive (X : TriggerExterns) (h : HxTriggerEvents) : Prop :=
  h.events ≠ [] → ∃ value,
    (∀ headers, (h.intoResponseParts X headers).get? h.headerName = some value) ∧
      ∃ entries, readTrigger X value = some entries ∧ SameEvents h.entries entries

mutual

/-- The strings of a value, its keys among them. -/
def jsonStrings : Json → List String
  | .null => []
  | .bool _ => []
  | .number _ => []
  | .string s => [s]
  | .array items => itemStrings items
  | .object entries => entryStrings entries

/-- The strings of the items of an array. -/
def itemStrings : List Json → List String
  | [] => []
  | v :: vs => jsonStrings v ++ itemStrings vs

/-- The keys of an object, and the strings of its values. -/
def entryStrings : List (String × Json) → List String
  | [] => []
  | (k, v) :: es => k :: (jsonStrings v ++ entryStrings es)

end

/-- A string that is written without a character beyond visible ASCII. -/
def AsciiString (s : String) : Prop := ∀ c ∈ s.toList, c.toNat < 127

/-- The header can carry the events: names alone need characters a header takes; names with data
need to be different, and they and all strings of the data need ASCII. -/
def HxTriggerEvents.Fit (h : HxTriggerEvents) : Prop :=
  if h.allSimple then ∀ e ∈ h.events, ∀ c ∈ e.name.toList, HeaderChar c
  else (h.events.map (·.name)).Nodup ∧ ∀ s ∈ entryStrings h.entries, AsciiString s

/-! ### Characters of JSON texts -/

theorem headerChar_of_numberChar : ∀ c, NumberChar c → HeaderChar c := by
  intro c hc
  unfold NumberChar at hc
  fin_cases hc <;> decide

theorem headerChar_hexDigit : ∀ n < 16, HeaderChar (Bytes.hexDigit n) := by
  decide

/-- Control characters are escaped, so only what lies beyond visible ASCII is left as it is. -/
theorem forall_mem_escapeChar (c : Char) : (∀ d ∈ escapeChar c, HeaderChar d) ↔ c.toNat < 127 := by
  unfold escapeChar
  split_ifs with h₁ h₂ h₃ h₄ h₅ h₆ h₇ h₈
  iterate 7 · subst c; rw [← List.all_iff_forall_prop]; decide
  · have hhigh := headerChar_hexDigit (c.toNat / 16) (by omega)
    have hlow := headerChar_hexDigit (c.toNat % 16) (by omega)
    have hu : HeaderChar '\\' ∧ HeaderChar 'u' ∧ HeaderChar '0' := by decide
    simp only [List.forall_mem_cons, hhigh, hlow, hu, true_and, List.not_mem_nil, false_implies,
      implies_true, true_iff]
    omega
  · rw [List.forall_mem_singleton, HeaderChar]
    constructor
    · rintro (h | h)
      · exact h.2
      · exact absurd h h₄
    · intro h
      exact .inl ⟨Nat.not_lt.mp h₈, h⟩

theorem forall_mem_quote (s : String) : (∀ d ∈ quote s, HeaderChar d) ↔ AsciiString s := by
  have hquote : HeaderChar '"' := by decide
  rw [quote, List.forall_mem_cons, List.forall_mem_append, List.forall_mem_singleton,
    List.forall_mem_flatMap, and_iff_right hquote, and_iff_left hquote]
  exact forall₂_congr fun c _ => forall_mem_escapeChar c

theorem itemStrings_eq (items : List Json) : itemStrings items = items.flatMap jsonStrings := by
  induction items with
  | nil => rfl
  | cons v vs ih => rw [itemStrings, ih, List.flatMap_cons]

theorem entryStrings_eq (entries : List (String × Json)) :
    entryStrings entries = entries.flatMap fun e => e.1 :: jsonStrings e.2 := by
  induction entries with
  | nil => rfl
  | cons e es ih =>
    obtain ⟨k, v⟩ := e
    rw [entryStrings, ih, List.flatMap_cons, List.cons_append]

/-- **Which JSON texts a header can carry**: those of the values whose strings are ASCII. -/
theorem headerChars_writeValue_iff {num : Number → List Char}
    (hnum : ∀ n, ∀ c ∈ num n, NumberChar c) (v : Json) :
    (∀ c ∈ writeValue num id v, HeaderChar c) ↔ ∀ s ∈ jsonStrings v, AsciiString s := by
  induction v using Json.induction with
  | null =>
    have hword : ∀ c ∈ ['n', 'u', 'l', 'l'], HeaderChar c :=
      List.all_iff_forall_prop.mp (by decide)
    exact iff_of_true (by rwa [writeValue]) fun _ hs => absurd hs List.not_mem_nil
  | bool b =>
    have hfalse : ∀ c ∈ ['f', 'a', 'l', 's', 'e'], HeaderChar c :=
      List.all_iff_forall_prop.mp (by decide)
    have htrue : ∀ c ∈ ['t', 'r', 'u', 'e'], HeaderChar c :=
      List.all_iff_forall_prop.mp (by decide)
    refine iff_of_true ?_ fun _ hs => absurd hs List.not_mem_nil
    cases b with
    | false => rwa [writeValue]
    | true => rwa [writeValue]
  | number n =>
    refine iff_of_true ?_ fun _ hs => absurd hs List.not_mem_nil
    rw [writeValue]
    exact fun c hc => headerChar_of_numberChar c (hnum n c hc)
  | string s =>
    rw [writeValue, jsonStrings, List.forall_mem_singleton]
    exact forall_mem_quote s
  | array items ih =>
    rw [writeValue_array, forall_mem_bracketed (by decide) (by decide) (by decide), jsonStrings,
      itemStrings_eq, List.forall_mem_flatMap]
    exact forall₂_congr ih
  | object entries ih =>
    have hcolon : HeaderChar ':' := by decide
    rw [writeValue, writeEntries_eq_map, id, bracketed_map,
      forall_mem_bracketed (by decide) (by decide) (by decide), jsonStrings, entryStrings_eq,
      List.forall_mem_flatMap]
    refine forall₂_congr fun e he => ?_
    rw [Function.comp_apply, writeEntry, List.forall_mem_append, List.forall_mem_cons,
      List.forall_mem_cons, and_iff_right hcolon, Prod.map_fst, Prod.map_snd, ih e he]
    exact and_congr_left' (forall_mem_quote e.1)

/-! ### Names between commas -/

open Segments

/-- `join(", ")` puts a space in front of every name but the first. -/
theorem intercalate_eq_join (name : List Char) (names : List (List Char)) :
    [',', ' '].intercalate (name :: names) = join ',' (name :: names.map (' ' :: ·)) := by
  induction names generalizing name with
  | nil => simp
  | cons next names ih =>
    rw [List.intercalate_cons_of_ne_nil (List.cons_ne_nil _ _), ih, List.map_cons,
      join_cons (List.cons_ne_nil _ _), join_cons_eq, join_cons_eq]
    simp

theorem trim_space (s : List Char) : Text.trim (' ' :: s) = Text.trim s := by
  rw [Text.trim, List.dropWhile_cons_of_pos (by decide), Text.trim]

/-- **A list of names is read back**, name by name. -/
theorem readTrigger_join (X : TriggerExterns) {names : List String} (hne : names ≠ [])
    (h : ∀ name ∈ names, ValidName name) :
    readTrigger X ([',', ' '].intercalate (names.map String.toList))
      = some (names.map (·, .null)) := by
  obtain ⟨name, names, rfl⟩ := List.exists_cons_of_ne_nil hne
  rw [List.forall_mem_cons] at h
  have hbrace : ([',', ' '].intercalate ((name :: names).map String.toList)).head? ≠ some '{' := by
    rw [List.map_cons, intercalate_eq_join, join_cons_eq,
      List.head?_append_of_ne_nil _ h.1.ne_empty]
    exact h.1.no_brace
  have hcomma : ∀ part ∈ name.toList :: (names.map String.toList).map (' ' :: ·), ',' ∉ part := by
    rw [List.forall_mem_cons]
    refine ⟨h.1.no_comma, fun part hpart => ?_⟩
    simp only [List.mem_map] at hpart
    obtain ⟨_, ⟨other, hother, rfl⟩, rfl⟩ := hpart
    simpa using (h.2 other hother).no_comma
  have hsplit : ([',', ' '].intercalate ((name :: names).map String.toList)).splitOn ','
      = name.toList :: (names.map String.toList).map (' ' :: ·) := by
    rw [List.map_cons, intercalate_eq_join]
    exact (splitOn_eq_iff (List.cons_ne_nil _ _) hcomma).mpr rfl
  have hread : ∀ other ∈ names, String.ofList (Text.trim (' ' :: other.toList)) = other := by
    intro other hother
    rw [trim_space, (h.2 other hother).trimmed, String.ofList_toList]
  rw [readTrigger, if_neg hbrace, hsplit, List.map_cons, List.map_cons, h.1.trimmed,
    String.ofList_toList, List.map_map, List.map_map]
  congr 2
  apply List.map_congr_left
  intro other hother
  exact congrArg (·, Json.null) (hread other hother)

/-- The characters of names between commas. -/
theorem forall_mem_intercalate {p : Char → Prop} (hcomma : p ',') (hspace : p ' ')
    (names : List (List Char)) :
    (∀ c ∈ [',', ' '].intercalate names, p c) ↔ ∀ name ∈ names, ∀ c ∈ name, p c := by
  induction names with
  | nil => simp
  | cons name names ih =>
    cases names with
    | nil => simp
    | cons next names =>
      rw [List.intercalate_cons_of_ne_nil (List.cons_ne_nil _ _), List.forall_mem_append,
        List.forall_mem_append, ih, List.forall_mem_cons (a := name)]
      simp [hcomma, hspace]

/-! ### The events of a response -/

/-- Two lists of the same events are of the same length. -/
theorem SameEvents.length_eq {es es' : List (String × Json)} (h : SameEvents es es') :
    es.length = es'.length := by
  cases h with
  | object hm hn hkeys _ =>
    rw [← hm.length_eq, ← hn.length_eq, ← List.length_map (f := Prod.fst), hkeys, List.length_map]

theorem SameEvents.of_perm_left {es es₁ es' : List (String × Json)} (h : SameEvents es₁ es')
    (hperm : es₁.Perm es) : SameEvents es es' := by
  cases h with
  | object hm hn hkeys hvals => exact .object (hm.trans hperm) hn hkeys hvals

theorem mem_entryStrings_of_perm {es es' : List (String × Json)} (hperm : es.Perm es') {s : String}
    (hs : s ∈ entryStrings es) : s ∈ entryStrings es' := by
  rw [entryStrings_eq, List.mem_flatMap] at hs ⊢
  obtain ⟨e, he, hs⟩ := hs
  exact ⟨e, hperm.mem_iff.mp he, hs⟩

namespace HxTriggerEvents

variable {X : TriggerExterns} {h : HxTriggerEvents}

/-- The response carries a value, whatever it held before, exactly if a header takes it. -/
theorem get?_intoResponseParts (hne : h.events ≠ []) (value : List Char) :
    (∀ headers, (h.intoResponseParts X headers).get? h.headerName = some value)
      ↔ value = h.headerValue X ∧ ∀ c ∈ h.headerValue X, HeaderChar c := by
  have hempty : h.events.isEmpty = false := by simpa using hne
  have hparts (headers : ResponseHeaders) : h.intoResponseParts X headers
      = if (h.headerValue X).all fun c => decide (HeaderChar c) then
          headers.insert h.headerName (h.headerValue X)
        else headers := by
    rw [intoResponseParts, hempty, if_neg Bool.false_ne_true]
  have hall : ((h.headerValue X).all fun c => decide (HeaderChar c)) = true
      ↔ ∀ c ∈ h.headerValue X, HeaderChar c := by
    simp only [List.all_eq_true, decide_eq_true_eq]
  constructor
  · intro hget
    have hfresh := hget OrderedMap.empty
    rw [hparts] at hfresh
    split at hfresh
    · next hchars =>
      rw [OrderedMap.get?_insert, if_pos rfl, Option.some.injEq] at hfresh
      exact ⟨hfresh.symm, hall.mp hchars⟩
    · cases hfresh
  · rintro ⟨rfl, hchars⟩ headers
    rw [hparts, if_pos (hall.mpr hchars), OrderedMap.get?_insert, if_pos rfl]

/-- Events without data are entries with `null`. -/
theorem entries_of_allSimple (hsimple : h.allSimple = true) :
    h.entries = (h.events.map (·.name)).map (·, .null) := by
  rw [entries, List.map_map]
  apply List.map_congr_left
  intro e he
  have := List.all_eq_true.mp hsimple e he
  cases e with
  | simple name => rfl
  | withData name data => cases this

/-- **Events without data** survive if a header takes their names. -/
theorem survive_of_allSimple (hsimple : h.allSimple = true)
    (hnames : ∀ e ∈ h.events, ValidName e.name) :
    h.Survive X ↔ ∀ e ∈ h.events, ∀ c ∈ e.name.toList, HeaderChar c := by
  have hvalue : h.headerValue X
      = [',', ' '].intercalate ((h.events.map (·.name)).map String.toList) := by
    rw [headerValue, if_pos hsimple, List.map_map]
    rfl
  have hchars : (∀ c ∈ h.headerValue X, HeaderChar c)
      ↔ ∀ e ∈ h.events, ∀ c ∈ e.name.toList, HeaderChar c := by
    rw [hvalue, forall_mem_intercalate (by decide) (by decide), List.map_map, List.forall_mem_map]
    rfl
  rw [← hchars]
  constructor
  · intro hsurvive
    by_cases hne : h.events = []
    · rw [hvalue, hne]
      exact fun c hc => absurd hc List.not_mem_nil
    · obtain ⟨value, hget, -⟩ := hsurvive hne
      exact ((get?_intoResponseParts hne value).mp hget).2
  · intro hall hne
    refine ⟨h.headerValue X, (get?_intoResponseParts hne _).mpr ⟨rfl, hall⟩, h.entries, ?_,
      .refl _⟩
    rw [hvalue, entries_of_allSimple hsimple]
    exact readTrigger_join X (by simpa using hne) (List.forall_mem_map.mpr hnames)

theorem head?_writeValue_object (num : Number → List Char) (entries : List (String × Json)) :
    (writeValue num id (.object entries)).head? = some '{' := by
  rw [writeValue]
  cases id (writeEntries num id entries) <;> rfl

theorem map_fst_entries : h.entries.map Prod.fst = h.events.map (·.name) := by
  rw [entries, List.map_map]
  rfl

/-- Events with different names are all entries of the object. -/
theorem perm_arrange (X : TriggerExterns) (hnodup : (h.entries.map Prod.fst).Nodup) :
    (X.arrange ((OrderedMap.empty : OrderedMap String Json).insertAll h.entries).entries).Perm
      h.entries := by
  refine (X.arrange_perm _).trans ?_
  rw [OrderedMap.entries_insertAll hnodup]
  rfl

/-- **Events of which one has data** survive if their names are different and a header takes the
text of the object. -/
theorem survive_of_not_allSimple (hsimple : h.allSimple ≠ true)
    (hparse : ParsesBack X (h.object X)) :
    h.Survive X ↔ (h.events.map (·.name)).Nodup ∧ ∀ s ∈ entryStrings h.entries, AsciiString s := by
  have hne : h.events ≠ [] := by
    intro hnil
    apply hsimple
    rw [allSimple, hnil]
    rfl
  have hvalue : h.headerValue X = writeValue X.num id (h.object X) := by
    rw [headerValue, if_neg hsimple]
  obtain ⟨w, hw, hsame⟩ := hparse
  -- what is parsed is an object with the same entries
  obtain ⟨read, rfl, hread⟩ : ∃ read, w = .object read ∧
      SameEvents (X.arrange ((OrderedMap.empty : OrderedMap String Json).insertAll
        h.entries).entries) read := by
    rw [object] at hsame
    cases hsame with
    | object hm hn hkeys hvals => exact ⟨_, rfl, .object hm hn hkeys hvals⟩
  have htrigger : readTrigger X (h.headerValue X) = some read := by
    rw [readTrigger, hvalue, object, if_pos (head?_writeValue_object _ _), ← object, hw]
  have hchars : (∀ c ∈ h.headerValue X, HeaderChar c)
      ↔ ∀ s ∈ jsonStrings (h.object X), AsciiString s := by
    rw [hvalue, headerChars_writeValue_iff X.num_chars]
  rw [← map_fst_entries]
  constructor
  · intro hsurvive
    obtain ⟨value, hget, entries, hentries, hevents⟩ := hsurvive hne
    obtain ⟨rfl, hall⟩ := (get?_intoResponseParts hne value).mp hget
    obtain rfl : read = entries := Option.some.inj (htrigger.symm.trans hentries)
    -- as many entries are read as events were added, so no two had one name
    have hlength : ((OrderedMap.empty : OrderedMap String Json).insertAll
        h.entries).entries.length = h.entries.length := by
      rw [← (X.arrange_perm _).length_eq, hread.length_eq, hevents.length_eq]
    have hnodup := OrderedMap.nodup_of_length_insertAll hlength
    refine ⟨hnodup, ?_⟩
    rw [hchars] at hall
    intro s hs
    apply hall
    rw [object, jsonStrings]
    exact mem_entryStrings_of_perm (perm_arrange X hnodup).symm hs
  · rintro ⟨hnodup, hascii⟩ -
    refine ⟨h.headerValue X, (get?_intoResponseParts hne _).mpr ⟨rfl, ?_⟩, read, htrigger, ?_⟩
    · rw [hchars]
      intro s hs
      rw [object, jsonStrings] at hs
      exact hascii s (mem_entryStrings_of_perm (perm_arrange X hnodup) hs)
    · exact hread.of_perm_left (perm_arrange X hnodup)

end HxTriggerEvents

/-- **When the events survive the header**: names alone if a header takes their characters, names
with data if the names are different and all strings are ASCII. -/
theorem survive_iff (X : TriggerExterns) (h : HxTriggerEvents)
    (hnames : ∀ e ∈ h.events, ValidName e.name) (hparse : ParsesBack X (h.object X)) :
    h.Survive X ↔ h.Fit := by
  rw [HxTriggerEvents.Fit]
  split
  · next hsimple => exact HxTriggerEvents.survive_of_allSimple hsimple hnames
  · next hsimple => exact HxTriggerEvents.survive_of_not_allSimple hsimple hparse

theorem numberChar_of_mem_repr {n : ℕ} : ∀ c ∈ n.repr.toList, NumberChar c := by
  intro c hc
  have hdigit := Text.isDigit_of_mem_repr hc
  rw [Char.isDigit, Bool.and_eq_true, decide_eq_true_eq, decide_eq_true_eq] at hdigit
  have hlow : 48 ≤ c.toNat := hdigit.1
  have hhigh : c.toNat ≤ 57 := hdigit.2
  rw [← Char.ofNat_toNat c]
  generalize c.toNat = n at hlow hhigh
  interval_cases n <;> decide

theorem numberChar_zero : ∀ c ∈ ['0'], NumberChar c :=
  List.all_iff_forall_prop.mp (by decide)

/-- Decimal numbers, a map in the order of insertion, and a parser for three texts. -/
def sampleTriggerExterns : TriggerExterns where
  num
    | .posInt n => n.toNat.repr.toList
    | _ => ['0']
  num_chars
    | .posInt _ => numberChar_of_mem_repr
    | .negInt _ _ => numberChar_zero
    | .float _ _ => numberChar_zero
  arrange entries := entries
  arrange_perm _ := .refl _
  parse text :=
    [("\x7b\"itemUpdated\":null,\"notification\":\x7b\"message\":\"Saved!\"\x7d\x7d".toList,
        Json.object [("itemUpdated", .null),
          ("notification", .object [("message", .string "Saved!")])]),
      ("\x7b\"n\":null\x7d".toList, .object [("n", .null)]),
      ("\x7b\"é\":null\x7d".toList, .object [("é", .null)])].lookup text

/-- Two events, the second with data. -/
def sampleTriggers : HxTriggerEvents :=
  (HxTriggerEvents.new.event "itemUpdated").eventWithData "notification"
    (.object [("message", .string "Saved!")])

theorem survive_iff_sample : sampleTriggers.Survive sampleTriggerExterns := by
  refine (survive_iff sampleTriggerExterns sampleTriggers ?_ ⟨_, rfl, .refl _⟩).mpr ?_
  · intro e he
    rcases List.mem_cons.mp he with rfl | he
    · exact ⟨by decide, by decide, by decide, by decide⟩
    · rw [List.mem_singleton.mp he]
      exact ⟨by decide, by decide, by decide, by decide⟩
  · have hnodup : (sampleTriggers.events.map (·.name)).Nodup := by decide
    have hascii : ∀ s ∈ entryStrings sampleTriggers.entries,
        s.toList.all (·.toNat < 127) = true := by
      decide
    exact ⟨hnodup, fun s hs => List.all_iff_forall_prop.mp (hascii s hs)⟩

/-- Two events with data under one name, and a name that no header takes. -/
theorem not_forall_survive :
    (¬ ∀ (X : TriggerExterns) (h : HxTriggerEvents), h.allSimple = false →
      (∀ e ∈ h.events, ValidName e.name) → ParsesBack X (h.object X) → h.Survive X) ∧
      ¬ ∀ (X : TriggerExterns) (h : HxTriggerEvents), h.allSimple = true →
        (∀ e ∈ h.events, ValidName e.name) → ParsesBack X (h.object X) → h.Survive X := by
  constructor
  · intro h
    have hsurvive := h sampleTriggerExterns
      ((HxTriggerEvents.new.eventWithData "n" .null).eventWithData "n" .null) rfl (by
        intro e he
        rcases List.mem_cons.mp he with rfl | he
        · exact ⟨by decide, by decide, by decide, by decide⟩
        · rw [List.mem_singleton.mp he]
          exact ⟨by decide, by decide, by decide, by decide⟩) ⟨_, rfl, .refl _⟩
    rw [HxTriggerEvents.survive_of_not_allSimple (by decide) ⟨_, rfl, .refl _⟩] at hsurvive
    exact absurd hsurvive.1 (by decide)
  · intro h
    have hsurvive := h sampleTriggerExterns (HxTriggerEvents.new.event "é") rfl (by
      intro e he
      rw [List.mem_singleton.mp he]
      exact ⟨by decide, by decide, by decide, by decide⟩) ⟨_, rfl, .refl _⟩
    obtain ⟨value, hget, -⟩ := hsurvive (by decide)
    have hchars := ((HxTriggerEvents.get?_intoResponseParts (by decide) value).mp hget).2
    rw [← List.all_iff_forall_prop] at hchars
    revert hchars
    decide

end ActonService
