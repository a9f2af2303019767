import ActonService.Json
import ActonService.Lib.OrderedMap

/-!
# JSON objects read back

What `serde_json` reads of an object that it wrote.  It reads the object entry by entry, and
what it reads of a value (`reads`) is most often the value itself: a text, an integer and a
list of texts come back as they were written.  Of other values nothing is taken for granted.
A decimal of many digits may be read as the double next to the one that was written, and a
value that is nested too deep is refused.

## Main definitions

* `ReadsBack` — the values that are known to be read as they were written.
* `readEntries`, `readObject` — what is read of the entries of an object, and of the object.

## Main results

* `lookup_readEntries` — what is read under a key is read of what was written there.
* `readEntries_eq_self` — entries whose values come back are read as they were written.
-/

namespace ActonService

/-- An integer as JSON. -/
def Json.ofInt64 (n : Int64) : Json :=
  .number (if h : n < 0 then .negInt n h else .posInt n.toUInt64)

/-- `serde_json` reads a text, an integer and an array of texts as they were written. -/
structure ReadsBack (reads : Json → Option Json) : Prop where
  text : ∀ s, reads (.string s) = some (.string s)
  integer : ∀ n, reads (Json.ofInt64 n) = some (Json.ofInt64 n)
  texts : ∀ texts : List String,
    reads (.array (texts.map .string)) = some (.array (texts.map .string))

/-- What `serde_json` reads of entries it wrote, at what it reads of values it wrote. -/
def readEntries (reads : Json → Option Json) (entries : List (String × Json)) :
    Option (List (String × Json)) :=
  entries.mapM fun e => (reads e.2).map fun v => (e.1, v)

/-- What `serde_json` reads of an object it wrote, entry by entry, and of any other value. -/
def readObject (reads : Json → Option Json) : Json → Option Json
  | .object entries => (readEntries reads entries).map .object
  | v => reads v

section Reading

variable {reads : Json → Option Json}

theorem readEntries_append (es es' : List (String × Json)) :
    readEntries reads (es ++ es')
      = (readEntries reads es).bind fun rs => (readEntries reads es').map (rs ++ ·) := by
  simp only [readEntries, List.mapM_append, bind, pure, Option.map_eq_bind, Function.comp_def]

/-- Entries whose values are all read as they were written are read so themselves. -/
theorem readEntries_eq_self {es : List (String × Json)} (h : ∀ e ∈ es, reads e.2 = some e.2) :
    readEntries reads es = some es := by
  induction es with
  | nil => rfl
  | cons e es ih =>
    rw [List.forall_mem_cons] at h
    have hrest : es.mapM (fun e => (reads e.2).map fun v => (e.1, v)) = some es := ih h.2
    simp [readEntries, h.1, hrest]

/-- What is read under a key is read of what was written there. -/
theorem lookup_readEntries {es es' : List (String × Json)} (h : readEntries reads es = some es')
    (key : String) :
    es'.map Prod.fst = es.map Prod.fst ∧ es'.lookup key = (es.lookup key).bind reads := by
  induction es generalizing es' with
  | nil =>
    cases h
    exact ⟨rfl, rfl⟩
  | cons e es ih =>
    rw [readEntries, List.mapM_cons] at h
    obtain ⟨r, hr, h⟩ := Option.bind_eq_some_iff.mp h
    obtain ⟨rs, hrs, h⟩ := Option.bind_eq_some_iff.mp h
    obtain ⟨v, hv, rfl⟩ := Option.map_eq_some_iff.mp hr
    cases h
    obtain ⟨hkeys, hlookup⟩ := ih hrs
    refine ⟨by simp [hkeys], ?_⟩
    rw [OrderedMap.lookup_cons, OrderedMap.lookup_cons]
    by_cases hkey : key = e.1
    · simp [hkey, hv]
    · simp [hkey, hlookup]

end Reading

end ActonService
