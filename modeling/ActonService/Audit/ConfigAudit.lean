import ActonService.Audit.Commitment
import ActonService.Lib.OrderedMap
import ActonService.Lib.Text

/-!
# Auditing the configuration

The redaction, the fingerprint and the comparison of configurations in `audit/config_audit.rs`.  A
configuration is a JSON value.  Whether a field is sensitive depends on its name in lower case,
and how `str::to_lowercase` makes it is a parameter.

The fingerprint is a hash of the text of a redacted configuration, with the keys in map order.  The
comparison by sections is one of values, and values are equal whatever the order of their keys.

## Main definitions

* `isSensitiveField`, `redactConfig`, `computeConfigFingerprint` — redaction and fingerprint.
* `valueEq`, `findChangedSections` — the comparison.
* `DifferInSecrets` — configurations that differ in sensitive values only.
* `SectionChanged` — a top-level section was changed, removed or added.

## Main results

* `redactConfig_nonInterfering` — **a redacted configuration tells nothing of sensitive values,
  and of everything that is under no sensitive key it tells all.**
* `drift_agrees_iff` — **fingerprints and sections agree exactly on configurations that are written
  alike if they are equal.**
-/

namespace ActonService

/-! ### Redaction -/

/-- `REDACTED` -/
def redactedText : String := "[REDACTED]"

/-- `SENSITIVE_PATTERNS` -/
def sensitivePatterns : List String :=
  ["password", "secret", "key", "token", "auth_token", "encryption_key", "url", "key_path"]

section Redact

variable (toLowercase : String → String)

/-- `is_sensitive_field` -/
def isSensitiveField (fieldName : String) : Bool :=
  let lower := toLowercase fieldName
  sensitivePatterns.any fun pattern =>
    decide (lower = pattern) || Text.endsWith lower.toList ("_" ++ pattern).toList

mutual

/-- `redact_config`.  The keys of a map are distinct, so inserting them one after the other keeps
their order. -/
def redactConfig : Json → Json
  | .object map => .object (redactFields map)
  | .array arr => .array (redactItems arr)
  | .null => .null
  | .bool b => .bool b
  | .number n => .number n
  | .string s => .string s

/-- The loop over an object: a sensitive value is replaced, or redacted inside if it is an object,
and any other is redacted by its kind. -/
def redactFields : List (String × Json) → List (String × Json)
  | [] => []
  | (key, val) :: map =>
    (key,
      if isSensitiveField toLowercase key then
        match val with
        | .object inner => .object (redactFields inner)
        | _ => .string redactedText
      else redactConfig val) :: redactFields map

/-- The items of an array, each of which is redacted. -/
def redactItems : List Json → List Json
  | [] => []
  | v :: arr => redactConfig v :: redactItems arr

end

/-- `is_object` -/
def Json.isObject : Json → Bool
  | .object _ => true
  | _ => false

/-- What a field of a name is redacted to. -/
def redactField (key : String) (val : Json) : Json :=
  if isSensitiveField toLowercase key = true ∧ val.isObject = false then .string redactedText
  else redactConfig toLowercase val

end Redact

section Redaction

variable {toLowercase : String → String}

@[simp] theorem redactConfig_array (items : List Json) :
    redactConfig toLowercase (.array items) = .array (items.map (redactConfig toLowercase)) := by
  have hitems : redactItems toLowercase items = items.map (redactConfig toLowercase) := by
    induction items with
    | nil => rfl
    | cons v items ih => rw [redactItems, ih, List.map_cons]
  rw [redactConfig, hitems]

@[simp] theorem redactConfig_object (map : List (String × Json)) :
    redactConfig toLowercase (.object map)
      = .object (map.map fun e => (e.1, redactField toLowercase e.1 e.2)) := by
  have hfields : redactFields toLowercase map
      = map.map fun e => (e.1, redactField toLowercase e.1 e.2) := by
    induction map with
    | nil => rfl
    | cons e map ih =>
      obtain ⟨key, val⟩ := e
      rw [redactFields.eq_def, List.map_cons, ← ih, redactField]
      cases hkey : isSensitiveField toLowercase key <;> cases val <;>
        simp [hkey, Json.isObject, redactConfig]
  rw [redactConfig, hfields]

/-- **Configurations that differ in sensitive values only**: values that are not objects, stored
under sensitive names at any depth, are replaced by others, one after the other. -/
inductive DifferInSecrets (toLowercase : String → String) : Json → Json → Prop
  | refl (v : Json) : DifferInSecrets toLowercase v v
  /-- A sensitive value. -/
  | secret {key : String} {v w : Json} (before behind : List (String × Json))
      (hkey : isSensitiveField toLowercase key = true) (hv : v.isObject = false)
      (hw : w.isObject = false) :
      DifferInSecrets toLowercase (.object (before ++ (key, v) :: behind))
        (.object (before ++ (key, w) :: behind))
  /-- Inside an object. -/
  | field {v w : Json} (key : String) (before behind : List (String × Json))
      (h : DifferInSecrets toLowercase v w) :
      DifferInSecrets toLowercase (.object (before ++ (key, v) :: behind))
        (.object (before ++ (key, w) :: behind))
  /-- Inside an array. -/
  | item {v w : Json} (before behind : List Json) (h : DifferInSecrets toLowercase v w) :
      DifferInSecrets toLowercase (.array (before ++ v :: behind)) (.array (before ++ w :: behind))
  | trans {u v w : Json} (h : DifferInSecrets toLowercase u v)
      (h' : DifferInSecrets toLowercase v w) : DifferInSecrets toLowercase u w

/-- Values that differ in secrets only are both objects, or neither is. -/
theorem DifferInSecrets.isObject_eq {v w : Json} (h : DifferInSecrets toLowercase v w) :
    v.isObject = w.isObject := by
  induction h with
  | refl v => rfl
  | secret => rfl
  | field => rfl
  | item => rfl
  | trans _ _ ih ih' => exact ih.trans ih'

/-- **Redaction tells nothing of sensitive values**: two configurations that differ in these only
are redacted alike. -/
theorem DifferInSecrets.redactConfig_eq {v w : Json} (h : DifferInSecrets toLowercase v w) :
    redactConfig toLowercase v = redactConfig toLowercase w := by
  induction h with
  | refl v => rfl
  | secret before behind hkey hv hw => simp [redactField, hkey, hv, hw]
  | field key before behind h ih => simp [redactField, ih, h.isObject_eq]
  | item before behind _ ih => simp [ih]
  | trans _ _ ih ih' => exact ih.trans ih'

theorem isObject_redactConfig (v : Json) : (redactConfig toLowercase v).isObject = v.isObject := by
  cases v <;> rfl

/-- **Redacting again changes nothing**: what was redacted is redacted to itself. -/
theorem redactConfig_idem (v : Json) :
    redactConfig toLowercase (redactConfig toLowercase v) = redactConfig toLowercase v := by
  induction v using Json.induction with
  | null => rfl
  | bool b => rfl
  | number n => rfl
  | string s => rfl
  | array items ih =>
    rw [redactConfig_array, redactConfig_array, List.map_map]
    exact congrArg Json.array (List.map_congr_left ih)
  | object entries ih =>
    rw [redactConfig_object, redactConfig_object, List.map_map]
    refine congrArg Json.object (List.map_congr_left fun e he => Prod.ext rfl ?_)
    show redactField toLowercase e.1 (redactField toLowercase e.1 e.2)
      = redactField toLowercase e.1 e.2
    by_cases hsecret : isSensitiveField toLowercase e.1 = true ∧ e.2.isObject = false
    · have htext : redactField toLowercase e.1 e.2 = .string redactedText := by
        rw [redactField, if_pos hsecret]
      rw [htext, redactField, if_pos ⟨hsecret.1, rfl⟩]
    · have hrec : redactField toLowercase e.1 e.2 = redactConfig toLowercase e.2 := by
        rw [redactField, if_neg hsecret]
      rw [hrec, redactField, isObject_redactConfig, if_neg hsecret]
      exact ih e he

/-! ### What is under no sensitive name -/

/-- A step into a value: to the field of an object, or to the item of an array. -/
inductive PathStep
  | key (name : String)
  | index (i : ℕ)
  deriving DecidableEq, Repr

/-- What one step into a value comes to. -/
def Json.child : Json → PathStep → Option Json
  | .object map, .key name => map.lookup name
  | .array items, .index i => items[i]?
  | _, _ => none

/-- What stands at the end of a path. -/
def Json.at (v : Json) : List PathStep → Option Json
  | [] => some v
  | step :: path => (v.child step).bind fun w => w.at path

/-- A path through no sensitive name: what it leads to is shown. -/
def Insensitive (toLowercase : String → String) (path : List PathStep) : Prop :=
  ∀ name, .key name ∈ path → isSensitiveField toLowercase name = false

/-- Neither an object nor an array. -/
def Json.isLeaf : Json → Bool
  | .object _ => false
  | .array _ => false
  | _ => true

theorem child_redactConfig (v : Json) {step : PathStep}
    (h : ∀ name, step = .key name → isSensitiveField toLowercase name = false) :
    (redactConfig toLowercase v).child step = (v.child step).map (redactConfig toLowercase) := by
  cases v with
  | object map =>
    rw [redactConfig_object]
    cases step with
    | index i => rfl
    | key name =>
      have hlookup : (map.map fun e => (e.1, redactField toLowercase e.1 e.2)).lookup name
          = (map.lookup name).map (redactField toLowercase name) :=
        OrderedMap.lookup_map_snd (redactField toLowercase) name map
      have hfield : redactField toLowercase name = redactConfig toLowercase := by
        funext v
        rw [redactField, if_neg (by simp [h name rfl])]
      rw [Json.child, Json.child, hlookup, hfield]
  | array items =>
    rw [redactConfig_array]
    cases step with
    | key name => rfl
    | index i => rw [Json.child, Json.child, List.getElem?_map]
  | null => cases step <;> rfl
  | bool b => cases step <;> rfl
  | number n => cases step <;> rfl
  | string s => cases step <;> rfl

/-- **What is under no sensitive name is redacted on its own.** -/
theorem at_redactConfig (v : Json) {path : List PathStep} (h : Insensitive toLowercase path) :
    (redactConfig toLowercase v).at path = (v.at path).map (redactConfig toLowercase) := by
  induction path generalizing v with
  | nil => rfl
  | cons step path ih =>
    have hstep : ∀ name, step = .key name → isSensitiveField toLowercase name = false :=
      fun name hname => h name (by simp [hname])
    have hpath : Insensitive toLowercase path := fun name hname => h name (by simp [hname])
    rw [Json.at, Json.at, child_redactConfig v hstep]
    cases v.child step with
    | none => rfl
    | some w => exact ih w hpath

theorem redactConfig_of_isLeaf {v : Json} (h : v.isLeaf = true) :
    redactConfig toLowercase v = v := by
  cases v <;> first | rfl | contradiction

/-! ### Fingerprints -/

/-- `compute_config_fingerprint` -/
def computeConfigFingerprint (X : HashExterns) (redactedConfig : Json) : String :=
  (X.blake3 (strBytes (jsonText X.numberText redactedConfig))).toHex

/-- **A redacted configuration tells nothing of sensitive values, and of everything that is under
no sensitive key it tells all**: configurations that differ in sensitive values only are redacted to
the same and have the same fingerprint, redacting again changes nothing, and every leaf that is
under no sensitive name is left as it is. -/
theorem redactConfig_nonInterfering (X : HashExterns) (toLowercase : String → String) (v w : Json)
    (h : DifferInSecrets toLowercase v w) :
    redactConfig toLowercase v = redactConfig toLowercase w ∧
      computeConfigFingerprint X (redactConfig toLowercase v)
        = computeConfigFingerprint X (redactConfig toLowercase w) ∧
      redactConfig toLowercase (redactConfig toLowercase v) = redactConfig toLowercase v ∧
      ∀ path leaf, Insensitive toLowercase path → leaf.isLeaf = true → v.at path = some leaf →
        (redactConfig toLowercase v).at path = some leaf := by
  refine ⟨h.redactConfig_eq, by rw [h.redactConfig_eq], redactConfig_idem v, ?_⟩
  intro path leaf hpath hleaf hat
  rw [at_redactConfig v hpath, hat, Option.map_some, redactConfig_of_isLeaf hleaf]

end Redaction

/-! ### Comparing configurations -/

/-- `==` of numbers: doubles are equal if they are the same, or both zero. -/
def Number.valueEq : Number → Number → Bool
  | .posInt m, .posInt n => decide (m = n)
  | .negInt i _, .negInt j _ => decide (i = j)
  | .float a _, .float b _ =>
    decide (a = b) || decide (a.toNat % 2 ^ 63 = 0 ∧ b.toNat % 2 ^ 63 = 0)
  | _, _ => false

mutual

/-- `==` of values.  Maps are equal whatever the order of their keys. -/
def valueEq : Json → Json → Bool
  | .null, .null => true
  | .bool a, .bool b => decide (a = b)
  | .number m, .number n => m.valueEq n
  | .string s, .string t => decide (s = t)
  | .array xs, .array ys => itemsEq xs ys
  | .object m, .object n => decide (m.length = n.length) && fieldsEq m n
  | _, _ => false

/-- The items of two arrays are equal one by one, and there are as many. -/
def itemsEq : List Json → List Json → Bool
  | [], [] => true
  | x :: xs, y :: ys => valueEq x y && itemsEq xs ys
  | _, _ => false

/-- Every field is found in the other map, with an equal value. -/
def fieldsEq : List (String × Json) → List (String × Json) → Bool
  | [], _ => true
  | (key, v) :: m, n =>
    (match n.lookup key with
      | some w => valueEq v w
      | none => false) && fieldsEq m n

end

/-- How a section is different on disk. -/
inductive SectionChange
  | modified
  | removed
  | added
  deriving DecidableEq, Repr

/-- What `find_changed_sections` calls a section that is different. -/
def SectionChange.label (change : SectionChange) (key : String) : String :=
  match change with
  | .modified => key
  | .removed => key ++ " (removed from disk)"
  | .added => key ++ " (new on disk)"

/-- `find_changed_sections` -/
def findChangedSections : Json → Json → List String
  | .object activeMap, .object diskMap =>
    (activeMap.filterMap fun e =>
      match diskMap.lookup e.1 with
      | some diskVal =>
        if valueEq e.2 diskVal then none else some (SectionChange.modified.label e.1)
      | none => some (SectionChange.removed.label e.1))
    ++ (diskMap.filter fun e => decide (e.1 ∉ activeMap.map Prod.fst)).map fun e =>
      SectionChange.added.label e.1
  | _, _ => []

/-- The configuration on disk has another fingerprint than the one in force. -/
def driftDetected (X : HashExterns) (active disk : Json) : Bool :=
  decide (computeConfigFingerprint X active ≠ computeConfigFingerprint X disk)

/-- `DriftCheckResult` -/
structure DriftCheckResult where
  driftDetected : Bool
  activeHash : String
  diskHash : String
  changedSections : List String
  deriving DecidableEq, Repr

/-- `drift_check_handler`, on the configuration of the state with its fingerprint and the one on
disk, as they are serialised. -/
def driftCheck (X : HashExterns) (toLowercase : String → String) (activeHash : String)
    (active disk : Json) : DriftCheckResult :=
  let diskRedacted := redactConfig toLowercase disk
  let diskHash := computeConfigFingerprint X diskRedacted
  let drift := decide (activeHash ≠ diskHash)
  ⟨drift, activeHash, diskHash,
    if drift then findChangedSections (redactConfig toLowercase active) diskRedacted else []⟩

/-- The keys of every map in a value are distinct. -/
inductive Json.DistinctKeys : Json → Prop
  | null : DistinctKeys .null
  | bool (b : Bool) : DistinctKeys (.bool b)
  | number (n : Number) : DistinctKeys (.number n)
  | string (s : String) : DistinctKeys (.string s)
  | array {items : List Json} (h : ∀ v ∈ items, DistinctKeys v) : DistinctKeys (.array items)
  | object {map : List (String × Json)} (hkeys : (map.map Prod.fst).Nodup)
      (h : ∀ e ∈ map, DistinctKeys e.2) : DistinctKeys (.object map)

section Compare

variable {m n : List (String × Json)}

theorem lookup_eq_some_iff_mem (hkeys : (m.map Prod.fst).Nodup) {key : String} {v : Json} :
    m.lookup key = some v ↔ (key, v) ∈ m :=
  OrderedMap.get?_eq_some_iff (m := ⟨m, hkeys⟩)

theorem fieldsEq_iff : fieldsEq m n = true ↔
    ∀ e ∈ m, ∃ w, n.lookup e.1 = some w ∧ valueEq e.2 w = true := by
  induction m with
  | nil => simp [fieldsEq]
  | cons e m ih =>
    obtain ⟨key, v⟩ := e
    rw [fieldsEq, Bool.and_eq_true, ih, List.forall_mem_cons]
    refine and_congr_left fun _ => ?_
    cases n.lookup key <;> simp

theorem Number.valueEq_self (n : Number) : n.valueEq n = true := by
  cases n <;> simp [Number.valueEq]

/-- A value equals itself in the sense of `==`, if no object in it has a key twice. -/
theorem valueEq_self {v : Json} (h : v.DistinctKeys) : valueEq v v = true := by
  induction v using Json.induction with
  | null => rfl
  | bool b => simp [valueEq]
  | number n => exact n.valueEq_self
  | string s => simp [valueEq]
  | array items ih =>
    cases h with
    | array h =>
      rw [valueEq]
      induction items with
      | nil => rfl
      | cons v items ihItems =>
        rw [itemsEq, Bool.and_eq_true]
        rw [List.forall_mem_cons] at ih h
        exact ⟨ih.1 h.1, ihItems ih.2 h.2⟩
  | object entries ih =>
    cases h with
    | object hkeys h =>
      rw [valueEq, Bool.and_eq_true, fieldsEq_iff]
      exact ⟨by simp, fun e he =>
        ⟨e.2, (lookup_eq_some_iff_mem hkeys).mpr he, ih e he (h e he)⟩⟩

/-- **A top-level section was changed**, removed or added. -/
def SectionChanged (active disk : List (String × Json)) (key : String) : SectionChange → Prop
  | .modified =>
    ∃ v w, active.lookup key = some v ∧ disk.lookup key = some w ∧ valueEq v w = false
  | .removed => key ∈ active.map Prod.fst ∧ key ∉ disk.map Prod.fst
  | .added => key ∉ active.map Prod.fst ∧ key ∈ disk.map Prod.fst

theorem lookup_eq_none_iff_notMem {key : String} : n.lookup key = none ↔ key ∉ n.map Prod.fst := by
  refine ⟨fun h hmem => ?_, OrderedMap.lookup_eq_none_of_notMem⟩
  obtain ⟨e, he, rfl⟩ := List.mem_map.mp hmem
  simpa using List.lookup_eq_none_iff.mp h e he

/-- What is listed of the sections that are active. -/
theorem mem_changed_active_iff (hkeys : (m.map Prod.fst).Nodup) (label : String) :
    label ∈ (m.filterMap fun e =>
        match n.lookup e.1 with
        | some diskVal =>
          if valueEq e.2 diskVal then none else some (SectionChange.modified.label e.1)
        | none => some (SectionChange.removed.label e.1))
      ↔ (∃ key, SectionChanged m n key .modified ∧ label = SectionChange.modified.label key) ∨
        ∃ key, SectionChanged m n key .removed ∧ label = SectionChange.removed.label key := by
  rw [List.mem_filterMap]
  constructor
  · rintro ⟨⟨key, v⟩, he, hlabel⟩
    cases hlookup : n.lookup key with
    | some w =>
      simp only [hlookup] at hlabel
      cases heq : valueEq v w with
      | true =>
        rw [heq] at hlabel
        contradiction
      | false =>
        rw [heq] at hlabel
        exact .inl ⟨key, ⟨v, w, (lookup_eq_some_iff_mem hkeys).mpr he, hlookup, heq⟩,
          (Option.some.inj hlabel).symm⟩
    | none =>
      simp only [hlookup] at hlabel
      exact .inr ⟨key, ⟨List.mem_map.mpr ⟨_, he, rfl⟩, lookup_eq_none_iff_notMem.mp hlookup⟩,
        (Option.some.inj hlabel).symm⟩
  · rintro (⟨key, ⟨v, w, hv, hw, heq⟩, hlabel⟩ | ⟨key, ⟨hmem, hnot⟩, rfl⟩)
    · exact ⟨(key, v), (lookup_eq_some_iff_mem hkeys).mp hv, by simp [hw, heq, hlabel]⟩
    · obtain ⟨e, he, rfl⟩ := List.mem_map.mp hmem
      exact ⟨e, he, by simp [lookup_eq_none_iff_notMem.mpr hnot]⟩

/-- **The list is that of the sections that were changed, removed or added.** -/
theorem mem_findChangedSections_iff (hkeys : (m.map Prod.fst).Nodup) (label : String) :
    label ∈ findChangedSections (.object m) (.object n)
      ↔ ∃ key change, SectionChanged m n key change ∧ label = change.label key := by
  have hadded : label ∈ ((n.filter fun e => decide (e.1 ∉ m.map Prod.fst)).map fun e =>
        SectionChange.added.label e.1)
      ↔ ∃ key, SectionChanged m n key .added ∧ label = SectionChange.added.label key := by
    rw [List.mem_map]
    constructor
    · rintro ⟨e, he, rfl⟩
      obtain ⟨hmem, hnot⟩ := List.mem_filter.mp he
      exact ⟨e.1, ⟨of_decide_eq_true hnot, List.mem_map.mpr ⟨e, hmem, rfl⟩⟩, rfl⟩
    · rintro ⟨key, ⟨hnot, hmem⟩, rfl⟩
      obtain ⟨e, he, rfl⟩ := List.mem_map.mp hmem
      exact ⟨e, List.mem_filter.mpr ⟨he, decide_eq_true hnot⟩, rfl⟩
  rw [findChangedSections, List.mem_append, mem_changed_active_iff hkeys, hadded]
  constructor
  · rintro ((⟨key, h⟩ | ⟨key, h⟩) | ⟨key, h⟩)
    · exact ⟨key, .modified, h⟩
    · exact ⟨key, .removed, h⟩
    · exact ⟨key, .added, h⟩
  · rintro ⟨key, change, h⟩
    cases change with
    | modified => exact .inl (.inl ⟨key, h⟩)
    | removed => exact .inl (.inr ⟨key, h⟩)
    | added => exact .inr ⟨key, h⟩

theorem keys_subset_of_fieldsEq (h : fieldsEq m n = true) :
    m.map Prod.fst ⊆ n.map Prod.fst := by
  intro key hkey
  obtain ⟨e, he, rfl⟩ := List.mem_map.mp hkey
  obtain ⟨w, hw, -⟩ := fieldsEq_iff.mp h e he
  by_contra hnot
  rw [lookup_eq_none_iff_notMem.mpr hnot] at hw
  contradiction

/-- The same sections are there on both sides exactly if none was removed or added. -/
theorem perm_keys_iff (hm : (m.map Prod.fst).Nodup) (hn : (n.map Prod.fst).Nodup) :
    (m.map Prod.fst).Perm (n.map Prod.fst)
      ↔ ∀ key, ¬ SectionChanged m n key .removed ∧ ¬ SectionChanged m n key .added := by
  rw [List.perm_ext_iff_of_nodup hm hn]
  refine forall_congr' fun key => ?_
  simp only [SectionChanged]
  tauto

/-- Maps are equal exactly if no section was changed, removed or added. -/
theorem valueEq_object_iff (hm : (m.map Prod.fst).Nodup) (hn : (n.map Prod.fst).Nodup) :
    valueEq (.object m) (.object n) = true ↔ ∀ key change, ¬ SectionChanged m n key change := by
  rw [valueEq, Bool.and_eq_true, decide_eq_true_iff]
  constructor
  · rintro ⟨hlength, hfields⟩ key change hchanged
    -- as many keys on both sides, so that none is left over
    have hperm : (m.map Prod.fst).Perm (n.map Prod.fst) :=
      (hm.subperm (keys_subset_of_fieldsEq hfields)).perm_of_length_le (by simp [hlength])
    have hkept := (perm_keys_iff hm hn).mp hperm key
    cases change with
    | modified =>
      obtain ⟨v, w, hv, hw, heq⟩ := hchanged
      obtain ⟨w', hw', heq'⟩ := fieldsEq_iff.mp hfields _ ((lookup_eq_some_iff_mem hm).mp hv)
      cases hw.symm.trans hw'
      rw [heq] at heq'
      contradiction
    | removed => exact hkept.1 hchanged
    | added => exact hkept.2 hchanged
  · intro hsame
    have hperm : (m.map Prod.fst).Perm (n.map Prod.fst) :=
      (perm_keys_iff hm hn).mpr fun key => ⟨hsame key .removed, hsame key .added⟩
    refine ⟨by simpa using hperm.length_eq, fieldsEq_iff.mpr fun e he => ?_⟩
    cases hw : n.lookup e.1 with
    | none =>
      have hnot := lookup_eq_none_iff_notMem.mp hw
      exact absurd (hperm.mem_iff.mp (List.mem_map.mpr ⟨e, he, rfl⟩)) hnot
    | some w =>
      refine ⟨w, rfl, ?_⟩
      by_contra heq
      exact hsame e.1 .modified
        ⟨e.2, w, (lookup_eq_some_iff_mem hm).mpr he, hw, Bool.eq_false_iff.mpr heq⟩

/-- Something is listed exactly if the configurations are unequal. -/
theorem findChangedSections_ne_nil_iff (hm : (m.map Prod.fst).Nodup)
    (hn : (n.map Prod.fst).Nodup) :
    findChangedSections (.object m) (.object n) ≠ []
      ↔ valueEq (.object m) (.object n) = false := by
  rw [← Bool.not_eq_true, valueEq_object_iff hm hn, ne_eq, List.eq_nil_iff_forall_not_mem]
  refine not_congr ⟨fun hnone key change h => ?_, fun hsame label hmem => ?_⟩
  · exact hnone _ ((mem_findChangedSections_iff hm _).mpr ⟨key, change, h, rfl⟩)
  · obtain ⟨key, change, h, -⟩ := (mem_findChangedSections_iff hm label).mp hmem
    exact hsame key change h

/-- Where the digest tells the two texts apart, the fingerprints differ exactly if the
configurations do. -/
theorem driftDetected_iff_ne {X : HashExterns} (hnum : NumberText X.numberText)
    (hcf : CollisionFree X.blake3 {strBytes (jsonText X.numberText (.object m)),
      strBytes (jsonText X.numberText (.object n))}) :
    driftDetected X (.object m) (.object n) = true ↔ m ≠ n := by
  rw [driftDetected, decide_eq_true_iff]
  refine not_congr ⟨fun h => ?_, fun h => by rw [h]⟩
  have hbytes := hcf (by simp) (by simp) (Digest.toHex_injective h)
  have hvalue := jsonText_injective hnum (strBytes_injective hbytes)
  exact Json.object.inj hvalue

/-- What a drift check tells of two configurations: whether their fingerprints differ, and only then
which of their sections do. -/
theorem driftCheck_spec (X : HashExterns) {toLowercase : String → String} {active disk : Json}
    (hactive : redactConfig toLowercase active = .object m)
    (hdisk : redactConfig toLowercase disk = .object n) (hkeys : (m.map Prod.fst).Nodup) :
    let result := driftCheck X toLowercase (computeConfigFingerprint X (.object m)) active disk
    result.driftDetected = driftDetected X (.object m) (.object n) ∧
      ∀ label, label ∈ result.changedSections ↔
        result.driftDetected = true ∧
          ∃ key change, SectionChanged m n key change ∧ label = change.label key := by
  rw [driftCheck, hactive, hdisk]
  refine ⟨rfl, fun label => ?_⟩
  by_cases hdrift : computeConfigFingerprint X (.object m) ≠ computeConfigFingerprint X (.object n)
  · simp [hdrift, mem_findChangedSections_iff hkeys]
  · simp [hdrift]

/-- **Fingerprints and sections agree exactly on configurations that are written alike if they are
equal.**  The list is always that of the sections that were changed, removed or added. -/
theorem drift_agrees_iff (X : HashExterns) (hnum : NumberText X.numberText)
    (active disk : List (String × Json)) (hactive : (Json.object active).DistinctKeys)
    (hdisk : (Json.object disk).DistinctKeys)
    (hcf : CollisionFree X.blake3 {strBytes (jsonText X.numberText (.object active)),
      strBytes (jsonText X.numberText (.object disk))}) :
    ((driftDetected X (.object active) (.object disk) = true ↔
          findChangedSections (.object active) (.object disk) ≠ []) ∧
        ∀ label, label ∈ findChangedSections (.object active) (.object disk) ↔
          ∃ key change, SectionChanged active disk key change ∧ label = change.label key)
      ↔ (valueEq (.object active) (.object disk) = true → active = disk) := by
  have hkeys : (active.map Prod.fst).Nodup := by
    cases hactive with
    | object hkeys => exact hkeys
  have hkeys' : (disk.map Prod.fst).Nodup := by
    cases hdisk with
    | object hkeys => exact hkeys
  rw [driftDetected_iff_ne hnum hcf, findChangedSections_ne_nil_iff hkeys hkeys']
  constructor
  · rintro ⟨hagree, -⟩ heq
    by_contra hne
    rw [hagree.mp hne] at heq
    contradiction
  · intro halike
    refine ⟨⟨fun hne => ?_, fun hneq heq => ?_⟩, mem_findChangedSections_iff hkeys⟩
    · exact Bool.eq_false_iff.mpr fun heq => hne (halike heq)
    · rw [heq, valueEq_self hdisk] at hneq
      contradiction

end Compare

/-! ### Samples -/

/-- Lower case, as far as it is one of ASCII. -/
def sampleLowercase (s : String) : String := String.ofList (s.toList.map Char.toLower)

/-- A configuration with a connection text. -/
def sampleDatabase (url : String) : Json :=
  .object [("database", .object [("URL", .string url), ("pool", .string "small")])]

/-- A password in a connection text makes no difference. -/
theorem redactConfig_nonInterfering_sample :
    redactConfig sampleLowercase (sampleDatabase "postgres://root:hunter2@db/app")
        = redactConfig sampleLowercase (sampleDatabase "postgres://root:swordfish@db/app") ∧
      (redactConfig sampleLowercase (sampleDatabase "postgres://root:hunter2@db/app")).at
        [.key "database", .key "pool"] = some (.string "small") := by
  have hdiffer : DifferInSecrets sampleLowercase (sampleDatabase "postgres://root:hunter2@db/app")
      (sampleDatabase "postgres://root:swordfish@db/app") :=
    .field "database" [] [] (.secret [] [("pool", .string "small")] (by decide) rfl rfl)
  obtain ⟨hsame, -, -, hleaves⟩ :=
    redactConfig_nonInterfering sampleExterns sampleLowercase _ _ hdiffer
  refine ⟨hsame, hleaves _ _ ?_ rfl rfl⟩
  intro name hname
  rcases List.mem_cons.mp hname with heq | hmem
  · cases heq
    decide
  · cases List.mem_singleton.mp hmem
    decide

/-- The section of a rate limiter, with its routes in the order of a traversal. -/
def sampleLimits (routes : List (String × Json)) : List (String × Json) :=
  [("rate_limit", .object [("routes", .object routes)])]

def sampleRoutesActive : List (String × Json) := [("/api", .bool true), ("/admin", .bool true)]

/-- The same routes in another order, which makes no other configuration. -/
def sampleRoutesSame : List (String × Json) := [("/admin", .bool true), ("/api", .bool true)]

def sampleRoutesOther : List (String × Json) := [("/api", .bool true), ("/admin", .bool false)]

/-- BLAKE3 on the texts of the sample configurations. -/
def sampleConfigDigests : List (List UInt8 × Digest) :=
  [(strBytes (jsonText sampleTexts.numberText (.object (sampleLimits sampleRoutesActive))),
    digestOfHex "c38d1e3291b03d11b8190f336e107cdd8bc3b2e247b920c631ce83cfcfe3f9b0"),
   (strBytes (jsonText sampleTexts.numberText (.object (sampleLimits sampleRoutesSame))),
    digestOfHex "e5c04f4044382c9b385263547452adcbca598a407d0988c35aa0ce97bae67070"),
   (strBytes (jsonText sampleTexts.numberText (.object (sampleLimits sampleRoutesOther))),
    digestOfHex "92b47f46836941de7a84c054958441f941ee8834ae7464a9dc3bd229cc4dd9b6")]

def sampleConfigExterns : HashExterns where
  toTexts := sampleTexts
  blake3 input := (sampleConfigDigests.lookup input).getD (digestOfHex "")

theorem distinctKeys_sampleLimits {routes : List (String × Json)}
    (hkeys : (routes.map Prod.fst).Nodup) (h : ∀ e ∈ routes, e.2.DistinctKeys) :
    (Json.object (sampleLimits routes)).DistinctKeys := by
  have hsingle : ∀ {key v}, Json.DistinctKeys v → (Json.object [(key, v)]).DistinctKeys := by
    intro key v hv
    exact .object (List.nodup_singleton key) (List.forall_mem_singleton.mpr hv)
  exact hsingle (hsingle (.object hkeys h))

/-- A hash is injective on two inputs that it tells apart. -/
theorem collisionFree_pair {h : List UInt8 → Digest} {a b : List UInt8} (hne : h a ≠ h b) :
    CollisionFree h {a, b} := by
  rintro x (rfl | rfl) y (rfl | rfl) heq
  · rfl
  · exact absurd heq hne
  · exact absurd heq.symm hne
  · rfl

theorem distinctKeys_bools (b b' : Bool) :
    (Json.object (sampleLimits [("/api", .bool b), ("/admin", .bool b')])).DistinctKeys := by
  refine distinctKeys_sampleLimits (by simp) fun e he => ?_
  rcases List.mem_cons.mp he with rfl | he
  · exact .bool b
  · rw [List.mem_singleton.mp he]
    exact .bool b'

/-- A route that was changed on disk is detected, and its section is named. -/
theorem drift_agrees_iff_sample :
    driftDetected sampleConfigExterns (.object (sampleLimits sampleRoutesActive))
        (.object (sampleLimits sampleRoutesOther)) = true ∧
      "rate_limit" ∈ findChangedSections (.object (sampleLimits sampleRoutesActive))
        (.object (sampleLimits sampleRoutesOther)) := by
  have hcf : CollisionFree sampleConfigExterns.blake3
      {strBytes (jsonText sampleTexts.numberText (.object (sampleLimits sampleRoutesActive))),
        strBytes (jsonText sampleTexts.numberText (.object (sampleLimits sampleRoutesOther)))} :=
    collisionFree_pair (by decide +kernel)
  have hvalues : valueEq (.object (sampleLimits sampleRoutesActive))
      (.object (sampleLimits sampleRoutesOther)) = false := by
    decide +kernel
  have hagrees := drift_agrees_iff sampleConfigExterns sampleTexts_lawful.numberText
    (sampleLimits sampleRoutesActive) (sampleLimits sampleRoutesOther)
    (distinctKeys_bools true true) (distinctKeys_bools true false) hcf
  obtain ⟨hdrift, -⟩ := hagrees.mpr fun heq => absurd heq (Bool.eq_false_iff.mp hvalues)
  have hsection : "rate_limit" ∈ findChangedSections
      (.object (sampleLimits sampleRoutesActive)) (.object (sampleLimits sampleRoutesOther)) := by
    decide +kernel
  exact ⟨hdrift.mpr (List.ne_nil_of_mem hsection), hsection⟩

/-- **Drift without a changed section**: two tables of routes that differ only in their order are
equal for the list, and have two fingerprints. -/
theorem not_forall_drift_agrees :
    ¬ ∀ (X : HashExterns) (active disk : List (String × Json)), NumberText X.numberText →
      (Json.object active).DistinctKeys → (Json.object disk).DistinctKeys →
      redactConfig sampleLowercase (.object active) = .object active →
      redactConfig sampleLowercase (.object disk) = .object disk →
      CollisionFree X.blake3 {strBytes (jsonText X.numberText (.object active)),
        strBytes (jsonText X.numberText (.object disk))} →
      (driftDetected X (.object active) (.object disk) = true ↔
        findChangedSections (.object active) (.object disk) ≠ []) := by
  intro hall
  have hcf : CollisionFree sampleConfigExterns.blake3
      {strBytes (jsonText sampleTexts.numberText (.object (sampleLimits sampleRoutesActive))),
        strBytes (jsonText sampleTexts.numberText (.object (sampleLimits sampleRoutesSame)))} :=
    collisionFree_pair (by decide +kernel)
  have hkeys : (Json.object (sampleLimits sampleRoutesSame)).DistinctKeys := by
    refine distinctKeys_sampleLimits (by decide) fun e he => ?_
    rcases List.mem_cons.mp he with rfl | he
    · exact .bool true
    · rw [List.mem_singleton.mp he]
      exact .bool true
  have hagree := hall sampleConfigExterns (sampleLimits sampleRoutesActive)
    (sampleLimits sampleRoutesSame) sampleTexts_lawful.numberText (distinctKeys_bools true true)
    hkeys rfl rfl hcf
  have hdrift : driftDetected sampleConfigExterns (.object (sampleLimits sampleRoutesActive))
      (.object (sampleLimits sampleRoutesSame)) = true := by
    decide +kernel
  have hnil : findChangedSections (.object (sampleLimits sampleRoutesActive))
      (.object (sampleLimits sampleRoutesSame)) = [] := by
    decide +kernel
  exact hagree.mp hdrift hnil

end ActonService
