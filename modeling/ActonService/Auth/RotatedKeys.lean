import ActonService.Auth.VerificationCache

/-!
# The keys a manager signs with

A manager that runs its functions one after the other, beside other managers of the store, and
meets no fault.  The key it signs with can be found among those it verifies with until the key
is retired, and so can every key it signed with before.

## Main definitions

* `Verifiable` — the manager's cache has the key, unless the key is retired.
* `ManagerInv` — what is kept of a manager.
* `opStep`, `Serving` — a run of functions, and what it may do.

## Main results

* `managerInv_of_reach` — **the key the manager signs with is verifiable, and so is every key
  that was.**
* `exec_getSigningKey`, `exec_getAllVerificationKeys` — what the functions return then.
-/

namespace ActonService

open Effect Run

/-! ### What is kept -/

/-- The store has the key for the manager's service, and unless it is retired the manager's cache
has it for verification. -/
def Verifiable (X : KeyExterns) (mgr : KeyManager) (w : KeyWorld) (kid : String)
    (material : List UInt8) : Prop :=
  ∃ r ∈ w.table.rows, r.kid = kid ∧ r.serviceName = mgr.serviceName ∧
    X.base64Decode r.keyMaterial = .ok material ∧
    (r.status ≠ .retired →
      ∃ key ∈ (w.caches mgr.id).verificationKeys, key.kid = kid ∧ key.keyMaterial = material)

/-- The row has a key of 32 bytes, as `rotate` makes it. -/
def MadeKey (X : KeyExterns) (r : SigningKeyMetadata) : Prop :=
  ∃ material, X.base64Decode r.keyMaterial = .ok material ∧ material.length = 32

/-- What is kept of a manager: all keys can be decoded, and the key it signs with and those
tokens were issued with are verifiable. -/
structure ManagerInv (X : KeyExterns) (mgr : KeyManager) (issued : String → List UInt8 → Prop)
    (w : KeyWorld) : Prop where
  made : ∀ r ∈ w.table.rows, MadeKey X r
  signing : ∀ key ∈ (w.caches mgr.id).activeKey, Verifiable X mgr w key.kid key.keyMaterial
  verifiable : ∀ kid material, issued kid material → Verifiable X mgr w kid material

/-- A statement that meets no fault. -/
def KeyInput.Faultless (input : KeyInput) : Prop := input.fault = .none

variable {X : KeyExterns} {b : KeyBackend} {mgr other : KeyManager} {w w' : KeyWorld} {who : ℕ}
  {issued : String → List UInt8 → Prop} {kid : String} {material : List UInt8}

theorem MadeKey.exists_decode {r : SigningKeyMetadata} (h : MadeKey X r) :
    ∃ key, decodeKeyMetadata X r = .ok key := by
  obtain ⟨material, hmaterial, -⟩ := h
  exact ⟨_, by rw [decodeKeyMetadata, hmaterial]⟩

theorem decodeKeyMetadata_eq_ok {r : SigningKeyMetadata} {key : CachedKey}
    (h : decodeKeyMetadata X r = .ok key) :
    key.kid = r.kid ∧ X.base64Decode r.keyMaterial = .ok key.keyMaterial := by
  refine ⟨kid_of_decode h, ?_⟩
  rw [decodeKeyMetadata] at h
  split at h
  · next hdecode =>
    cases h
    exact hdecode
  · contradiction

/-- The material of a verifiable key has 32 bytes. -/
theorem Verifiable.length_eq (h : Verifiable X mgr w kid material)
    (hmade : ∀ r ∈ w.table.rows, MadeKey X r) : material.length = 32 := by
  obtain ⟨r, hr, -, -, hdecode, -⟩ := h
  obtain ⟨made, hmaterial, hlength⟩ := hmade r hr
  rw [hdecode] at hmaterial
  cases hmaterial
  exact hlength

/-- A verifiable key is in the cache as long as it is not retired. -/
theorem Verifiable.exists_of_unretired (h : Verifiable X mgr w kid material)
    (hkid : Unretired kid w.table) :
    ∃ key ∈ (w.caches mgr.id).verificationKeys, key.keyMaterial = material := by
  obtain ⟨r, hr, hrkid, -, -, hcached⟩ := h
  obtain ⟨r', hr', hr'kid, hstatus⟩ := hkid
  rw [KeyTable.eq_of_kid_eq hr' hr (hr'kid.trans hrkid.symm)] at hstatus
  obtain ⟨key, hkey, -, hmaterial⟩ := hcached hstatus
  exact ⟨key, hkey, hmaterial⟩

/-- A verifiable key stays so while the store only takes keys further, if the cache keeps it. -/
theorem Verifiable.mono (h : Verifiable X mgr w kid material)
    (htable : w.table.Extends w'.table)
    (hcache : ∀ key ∈ (w.caches mgr.id).verificationKeys, key.kid = kid →
      key.keyMaterial = material →
      ∃ key' ∈ (w'.caches mgr.id).verificationKeys, key'.kid = kid ∧ key'.keyMaterial = material) :
    Verifiable X mgr w' kid material := by
  obtain ⟨r, hr, hkid, hservice, hdecode, hcached⟩ := h
  obtain ⟨r', hr', hkid', hservice', hmaterial', hretired⟩ := htable r hr
  refine ⟨r', hr', hkid'.trans hkid, hservice'.trans hservice, hmaterial' ▸ hdecode, ?_⟩
  intro hstatus
  obtain ⟨key, hkey, hkeyKid, hkeyMaterial⟩ := hcached fun h => hstatus (hretired h)
  exact hcache key hkey hkeyKid hkeyMaterial

/-- The invariant at a state with the same cache. -/
theorem ManagerInv.of_extends (hI : ManagerInv X mgr issued w)
    (hmade : ∀ r ∈ w'.table.rows, MadeKey X r) (htable : w.table.Extends w'.table)
    (hcache : w'.caches mgr.id = w.caches mgr.id) : ManagerInv X mgr issued w' := by
  have hkept : ∀ {kid material}, Verifiable X mgr w kid material →
      Verifiable X mgr w' kid material := by
    intro kid material h
    apply h.mono htable
    intro key hkey hkid hmaterial
    rw [hcache]
    exact ⟨key, hkey, hkid, hmaterial⟩
  refine ⟨hmade, fun key hkey => ?_, fun kid material h => hkept (hI.verifiable kid material h)⟩
  rw [hcache] at hkey
  exact hkept (hI.signing key hkey)

/-! ### Calls -/

section Calls

variable (hbase64 : ∀ fresh : FreshKey,
  X.base64Decode (X.base64Encode fresh.bytes) = .ok fresh.bytes)

include hbase64

/-- What a call leaves in the store are keys that were made. -/
theorem made_of_answer {stage : Stage} {c : KeyCall} (hmay : other.MayCall X stage c)
    (hmade : ∀ r ∈ w.table.rows, MadeKey X r) (input : KeyInput) :
    ∀ r ∈ (w.answer X b who input c).1.table.rows, MadeKey X r := by
  intro r hr
  rcases KeyWorld.answer_table_cases (b := b) hmay w who input with
    h | ⟨key, rfl, h⟩ | ⟨p, newStatus, timestamp, -, -, h⟩
  · rw [h] at hr
    exact hmade r hr
  · rcases (KeyTable.mem_insert h).mp hr with hr | rfl
    · exact hmade r hr
    · obtain ⟨-, now, fresh, rfl⟩ := hmay
      exact ⟨fresh.bytes, hbase64 fresh, fresh.length_eq⟩
  · rw [h] at hr
    obtain ⟨old, hold, rfl⟩ := KeyTable.mem_update.mp hr
    split
    · rw [MadeKey, withStatus_keyMaterial]
      exact hmade old hold
    · exact hmade old hold

/-- A call that leaves the manager's cache as it is keeps the invariant. -/
theorem ManagerInv.answer (hI : ManagerInv X mgr issued w) {stage : Stage} {c : KeyCall}
    (hmay : other.MayCall X stage c) {input : KeyInput}
    (hcache : (w.answer X b who input c).1.caches mgr.id = w.caches mgr.id) :
    ManagerInv X mgr issued (w.answer X b who input c).1 :=
  hI.of_extends (made_of_answer hbase64 hmay hI.made input) (extends_answer hmay w who input)
    hcache

end Calls

/-! ### Refreshing the cache -/

/-- The manager's cache was filled from the store: with one of the keys of its service, and with
all of them that are not retired. -/
structure Refreshed (X : KeyExterns) (mgr : KeyManager) (w w' : KeyWorld) : Prop where
  table : w'.table = w.table
  others : ∀ manager, manager ≠ mgr.id → w'.caches manager = w.caches manager
  active : ∀ key ∈ (w'.caches mgr.id).activeKey, ∃ r ∈ w.table.rows,
    r.serviceName = mgr.serviceName ∧ decodeKeyMetadata X r = .ok key
  all : ∀ r ∈ w.table.rows, r.serviceName = mgr.serviceName → r.status ≠ .retired →
    ∃ key ∈ (w'.caches mgr.id).verificationKeys, decodeKeyMetadata X r = .ok key

theorem mem_foldl_insertKey_of_mem {keys acc : List CachedKey} {key : CachedKey}
    (h : key ∈ acc) (hkeys : ∀ new ∈ keys, key.kid ≠ new.kid) :
    key ∈ keys.foldl insertKey acc := by
  induction keys generalizing acc with
  | nil => exact h
  | cons first keys ih =>
    refine ih ?_ fun new hnew => hkeys new (List.mem_cons_of_mem _ hnew)
    refine List.mem_cons_of_mem _ (List.mem_filter.mpr ⟨h, ?_⟩)
    exact decide_eq_true (hkeys first List.mem_cons_self)

/-- Keys with different identifiers are all in the map made of them. -/
theorem mem_filled {keys acc : List CachedKey} (hnodup : (keys.map CachedKey.kid).Nodup)
    {key : CachedKey} (h : key ∈ keys) : key ∈ keys.foldl insertKey acc := by
  induction keys generalizing acc with
  | nil => contradiction
  | cons first keys ih =>
    rw [List.map_cons, List.nodup_cons] at hnodup
    rcases List.mem_cons.mp h with rfl | h
    · apply mem_foldl_insertKey_of_mem List.mem_cons_self
      intro new hnew heq
      exact hnodup.1 (heq ▸ List.mem_map_of_mem hnew)
    · exact ih hnodup.2 h

/-- Keys that were made can all be decoded. -/
theorem exists_mapM_decode (metas : List SigningKeyMetadata) (h : ∀ r ∈ metas, MadeKey X r) :
    ∃ keys, metas.mapM (decodeKeyMetadata X) = .ok keys ∧
      keys.map CachedKey.kid = metas.map SigningKeyMetadata.kid := by
  induction metas with
  | nil => exact ⟨[], rfl, rfl⟩
  | cons r metas ih =>
    obtain ⟨key, hkey⟩ := (h r List.mem_cons_self).exists_decode
    obtain ⟨keys, hkeys, hkids⟩ := ih fun r hr => h r (List.mem_cons_of_mem _ hr)
    refine ⟨key :: keys, ?_, ?_⟩
    · rw [List.mapM_cons, hkey, hkeys]
      rfl
    · rw [List.map_cons, List.map_cons, hkids, kid_of_decode hkey]

/-- The active key is one of the rows, and so it can be decoded. -/
theorem exists_active_decode (b : KeyBackend) (mgr : KeyManager)
    (hmade : ∀ r ∈ w.table.rows, MadeKey X r) (pick : ℕ) :
    ∃ found activeKey, getActiveKey b .none pick mgr.serviceName w.table = .ok found ∧
      found.mapM (decodeKeyMetadata X) = .ok activeKey ∧
      ∀ key ∈ activeKey, ∃ r ∈ w.table.rows, r.serviceName = mgr.serviceName ∧
        decodeKeyMetadata X r = .ok key := by
  rcases hread : getActiveKey b .none pick mgr.serviceName w.table with e | _ | r
  · contradiction
  · exact ⟨none, none, rfl, rfl, nofun⟩
  · obtain ⟨hr, hisActive⟩ := getActiveKey_eq_ok_some hread
    simp only [isActiveFor, Bool.and_eq_true, decide_eq_true_eq] at hisActive
    obtain ⟨key, hkey⟩ := (hmade r hr).exists_decode
    refine ⟨some r, some key, rfl, ?_, ?_⟩
    · show some <$> decodeKeyMetadata X r = .ok (some key)
      rw [hkey]
      rfl
    · rintro _ ⟨⟩
      exact ⟨r, hr, hisActive.1, hkey⟩

/-- **A refresh that meets no fault fills the cache.** -/
theorem exec_refreshCache (b : KeyBackend) (who : ℕ) (mgr : KeyManager)
    (hmade : ∀ r ∈ w.table.rows, MadeKey X r) {inputs : ℕ → KeyInput}
    (hinputs : ∀ n, (inputs n).Faultless) :
    ∃ w', exec (KeyWorld.answer X b) who (mgr.refreshCache X) w inputs = (.ok (), w') ∧
      Refreshed X mgr w w' := by
  rcases exists_mapM_decode (w.table.rows.filter (verifiesFor mgr.serviceName))
    fun r hr => hmade r (List.mem_filter.mp hr).1 with ⟨keys, hkeys, hkids⟩
  have hall : getVerificationKeys b (inputs 1).fault mgr.serviceName w.table
      = .ok (w.table.rows.filter (verifiesFor mgr.serviceName)) := by
    rw [hinputs 1]
    rfl
  rcases exists_active_decode b mgr hmade (inputs 0).pick with
    ⟨found, activeKey, hfound, hdecode, hfrom⟩
  rw [← hinputs 0] at hfound
  let instant := max (max (max w.instant (inputs 0).instant) (inputs 1).instant) (inputs 2).instant
  refine ⟨({ w with instant := instant } : KeyWorld).setCache mgr.id
    ⟨activeKey, keys.foldl insertKey [], instant⟩, ?_, rfl, ?_, ?_, ?_⟩
  · simp only [KeyManager.refreshCache, KeyProg.getActiveKey, KeyProg.getVerificationKeys,
      KeyProg.replaceCache, Prog.bind_eq, Prog.call_bind, exec, KeyWorld.answer,
      KeyWorld.answerNow, hfound, Prog.ofExcept, Prog.ret_bind, zero_add, hall, hdecode, hkeys,
      one_add_one_eq_two, instant]
  · exact fun manager hmanager => KeyWorld.setCache_caches_of_ne hmanager _ _
  · rw [KeyWorld.setCache_caches_self]
    exact hfrom
  · rw [KeyWorld.setCache_caches_self]
    intro r hr hservice hstatus
    have hverifies : r ∈ w.table.rows.filter (verifiesFor mgr.serviceName) := by
      refine List.mem_filter.mpr ⟨hr, ?_⟩
      cases hr' : r.status <;> simp_all [verifiesFor]
    obtain ⟨key, hkey, hdecodes⟩ := exists_of_mapM_eq_ok hkeys r hverifies
    refine ⟨key, mem_filled ?_ hkey, hdecodes⟩
    rw [hkids]
    exact w.table.nodup.sublist (List.filter_sublist.map _)

/-- A refresh by any manager keeps the invariant. -/
theorem ManagerInv.refreshed (hI : ManagerInv X mgr issued w)
    (hother : other.id = mgr.id → other = mgr) (h : Refreshed X other w w') :
    ManagerInv X mgr issued w' := by
  have hmade : ∀ r ∈ w'.table.rows, MadeKey X r := by
    rw [h.table]
    exact hI.made
  by_cases hid : other.id = mgr.id
  · cases hother hid
    -- every row of the service that is not retired is in the cache
    have hrow : ∀ r ∈ w.table.rows, r.serviceName = mgr.serviceName →
        ∀ material, X.base64Decode r.keyMaterial = .ok material →
          Verifiable X mgr w' r.kid material := by
      intro r hr hservice material hmaterial
      refine ⟨r, h.table ▸ hr, rfl, hservice, hmaterial, fun hstatus => ?_⟩
      obtain ⟨key, hkey, hdecode⟩ := h.all r hr hservice hstatus
      obtain ⟨hkid, hdecodes⟩ := decodeKeyMetadata_eq_ok hdecode
      rw [hmaterial] at hdecodes
      exact ⟨key, hkey, hkid, (Except.ok.inj hdecodes).symm⟩
    refine ⟨hmade, fun key hkey => ?_, fun kid material hissued => ?_⟩
    · obtain ⟨r, hr, hservice, hdecode⟩ := h.active key hkey
      obtain ⟨hkid, hdecodes⟩ := decodeKeyMetadata_eq_ok hdecode
      rw [hkid]
      exact hrow r hr hservice _ hdecodes
    · obtain ⟨r, hr, rfl, hservice, hdecode, -⟩ := hI.verifiable kid material hissued
      exact hrow r hr hservice material hdecode
  · refine hI.of_extends hmade ?_ (h.others _ (Ne.symm hid))
    rw [h.table]
    exact KeyTable.Extends.refl _

/-- One more key of the store in the cache keeps the invariant. -/
theorem ManagerInv.insertCache (hI : ManagerInv X mgr issued w) {m : SigningKeyMetadata}
    (hm : m ∈ w.table.rows) {new : CachedKey} (hnew : decodeKeyMetadata X m = .ok new)
    (b : KeyBackend) (who manager : ℕ) (input : KeyInput) :
    ManagerInv X mgr issued (w.answer X b who input (.insertCache manager new)).1 := by
  by_cases hid : mgr.id = manager
  · subst hid
    have hkept : ∀ {kid material}, Verifiable X mgr w kid material →
        Verifiable X mgr (w.answer X b who input (.insertCache mgr.id new)).1 kid material := by
      intro kid material h
      refine h.mono (KeyTable.Extends.refl w.table) fun key hkey hkid hmaterial => ?_
      simp only [KeyWorld.answer, KeyWorld.answerNow, KeyWorld.setCache_caches_self, insertKey]
      by_cases hsame : key.kid = new.kid
      · -- the new key is of the same row, and so it is the same key
        obtain ⟨r, hr, hrkid, -, hdecode, -⟩ := h
        obtain ⟨hnewKid, hnewDecode⟩ := decodeKeyMetadata_eq_ok hnew
        rw [KeyTable.eq_of_kid_eq hm hr (by rw [← hnewKid, ← hsame, hkid, hrkid]), hdecode]
          at hnewDecode
        exact ⟨new, List.mem_cons_self, hsame ▸ hkid, (Except.ok.inj hnewDecode).symm⟩
      · refine ⟨key, List.mem_cons_of_mem _ (List.mem_filter.mpr ⟨hkey, ?_⟩), hkid, hmaterial⟩
        exact decide_eq_true hsame
    refine ⟨hI.made, fun key hkey => hkept (hI.signing key ?_), fun kid material h =>
      hkept (hI.verifiable kid material h)⟩
    simpa [KeyWorld.answer, KeyWorld.answerNow] using hkey
  · exact hI.of_extends hI.made (KeyTable.Extends.refl _) (KeyWorld.setCache_caches_of_ne hid _ _)

/-! ### Functions -/

section Functions

variable (hbase64 : ∀ fresh : FreshKey,
  X.base64Decode (X.base64Encode fresh.bytes) = .ok fresh.bytes)
  (hother : other.id = mgr.id → other = mgr)

/-- Run alone without faults, the program keeps the invariant. -/
abbrev KeepsKeys {α : Type} (X : KeyExterns) (b : KeyBackend) (mgr : KeyManager)
    (issued : String → List UInt8 → Prop) (who : ℕ) (p : KeyProg α) : Prop :=
  Maintains (KeyWorld.answer X b) KeyInput.Faultless (ManagerInv X mgr issued) who p

include hbase64 in
/-- A call of a manager that leaves the caches alone. -/
theorem keepsKeys_call {α : Type} {c : KeyCall} {k : c.Answer → KeyProg α} (other : KeyManager)
    (stage : Stage) (hmay : other.MayCall X stage c)
    (hcache : ∀ w input, (KeyWorld.answer X b w who input c).1.caches mgr.id = w.caches mgr.id)
    (hk : ∀ a, KeepsKeys X b mgr issued who (k a)) : KeepsKeys X b mgr issued who (.call c k) :=
  .call (fun w input _ hI => hI.answer hbase64 hmay (hcache w input)) hk

include hother in
theorem keepsKeys_refreshCache : KeepsKeys X b mgr issued who (other.refreshCache X) := by
  intro w inputs hI hinputs
  obtain ⟨w', hexec, h⟩ := exec_refreshCache b who other hI.made hinputs
  rw [hexec]
  exact hI.refreshed hother h

include hbase64 hother

theorem keepsKeys_ensureCacheFresh : KeepsKeys X b mgr issued who (other.ensureCacheFresh X) := by
  refine keepsKeys_call hbase64 other .start rfl (fun _ _ => rfl) fun reading => ?_
  simp only [Prog.ret_bind, Prog.pure_eq]
  split
  · exact keepsKeys_refreshCache hother
  · exact .ret _

theorem keepsKeys_getSigningKey : KeepsKeys X b mgr issued who (other.getSigningKey X) := by
  refine Maintains.bind (keepsKeys_ensureCacheFresh hbase64 hother) fun _ => ?_
  exact keepsKeys_call hbase64 other .start rfl (fun _ _ => rfl) fun _ => .ret _

theorem keepsKeys_getAllVerificationKeys :
    KeepsKeys X b mgr issued who (other.getAllVerificationKeys X) := by
  refine Maintains.bind (keepsKeys_ensureCacheFresh hbase64 hother) fun _ => ?_
  exact keepsKeys_call hbase64 other .start rfl (fun _ _ => rfl) fun _ => .ret _

omit hother in
theorem keepsKeys_getVerificationKey (kid : String) :
    KeepsKeys X b mgr issued who (other.getVerificationKey X kid) := by
  refine keepsKeys_call hbase64 other .start rfl (fun _ _ => rfl) fun reading => ?_
  simp only [Prog.ret_bind]
  cases findKey reading.1.verificationKeys kid with
  | some cached => exact .ret _
  | none =>
    intro w inputs hI hinputs
    have hread : ManagerInv X mgr issued { w with instant := max w.instant (inputs 0).instant } :=
      hI.of_extends hI.made (KeyTable.Extends.refl _) rfl
    simp only [KeyProg.getKeyByKid, Prog.bind_eq, Prog.call_bind, exec, KeyWorld.answer,
      KeyWorld.answerNow]
    rcases hrow : getKeyByKid b (inputs 0).fault kid w.table with e | _ | m
    · exact hread
    · exact hread
    · simp only [Prog.ofExcept, Prog.ret_bind, Prog.pure_eq]
      split
      · rcases hkey : decodeKeyMetadata X m with e | key
        · exact hread
        · exact hread.insertCache (mem_of_getKeyByKid hrow) hkey b who _ _
      · exact hread

omit hother in
theorem keepsKeys_utcNow : KeepsKeys X b mgr issued who KeyProg.utcNow :=
  keepsKeys_call hbase64 mgr .start trivial (fun _ _ => rfl) .ret

omit hother in
theorem keepsKeys_demote (now : DateTime) (oldActive : Option SigningKeyMetadata) :
    KeepsKeys X b mgr issued who (other.demote now oldActive) := by
  cases oldActive with
  | none => exact .ret _
  | some old =>
    cases hdrain : other.config.drainExpiresAt now with
    | error e =>
      simp only [KeyManager.demote, hdrain]
      exact .fail e
    | ok d =>
      simp only [KeyManager.demote, hdrain]
      exact keepsKeys_call hbase64 other { Stage.start with step := .found old }
        ⟨rfl, ⟨old, rfl, rfl⟩, d, hdrain⟩ (fun _ _ => rfl) .ofExcept

theorem keepsKeys_rotate : KeepsKeys X b mgr issued who (other.rotate X) := by
  have hfresh : KeepsKeys X b mgr issued who KeyProg.freshKey :=
    keepsKeys_call hbase64 other .start trivial (fun _ _ => rfl) .ret
  refine Maintains.bind (keepsKeys_utcNow hbase64) fun now => ?_
  refine Maintains.bind hfresh fun fresh => ?_
  have hactive : KeepsKeys X b mgr issued who (KeyProg.getActiveKey other.serviceName) :=
    keepsKeys_call hbase64 other .start rfl (fun _ _ => rfl) .ofExcept
  have hstore : KeepsKeys X b mgr issued who (KeyProg.storeKey (other.newKey X now fresh)) :=
    keepsKeys_call hbase64 other { Stage.start with step := .clear } ⟨rfl, now, fresh, rfl⟩
      (fun _ _ => rfl) .ofExcept
  refine Maintains.bind hactive fun oldActive => ?_
  refine Maintains.bind (keepsKeys_demote hbase64 now oldActive) fun _ => ?_
  refine Maintains.bind hstore fun _ => ?_
  exact Maintains.bind (keepsKeys_refreshCache hother) fun _ => .ret _

omit hother in
theorem keepsKeys_retireExpiredDrainingKeys (now : DateTime) :
    KeepsKeys X b mgr issued who (KeyProg.retireExpiredDrainingKeys b now) := by
  have hretire : KeepsKeys X b mgr issued who
      (.call (.retireExpired now) Prog.ofExcept : KeyProg ℕ) :=
    keepsKeys_call hbase64 mgr .start trivial (fun _ _ => rfl) .ofExcept
  have hcount : KeepsKeys X b mgr issued who
      (.call (.countExpired now) Prog.ofExcept : KeyProg ℕ) :=
    keepsKeys_call hbase64 mgr .start trivial (fun _ _ => rfl) .ofExcept
  cases b with
  | postgres => exact hretire
  | turso => exact hretire
  | surrealDb => exact hcount.bind fun _ => hretire.bind fun _ => .ret _

theorem keepsKeys_retireExpired : KeepsKeys X b mgr issued who (other.retireExpired X b) := by
  refine Maintains.bind (keepsKeys_utcNow hbase64) fun now => ?_
  refine Maintains.bind (keepsKeys_retireExpiredDrainingKeys hbase64 now) fun retiredCount => ?_
  split
  · exact Maintains.bind (keepsKeys_refreshCache hother) fun _ => .ret _
  · exact .ret _

theorem keepsKeys_rotationDue : KeepsKeys X b mgr issued who (rotationDue X other) := by
  refine Maintains.bind (keepsKeys_getSigningKey hbase64 hother).attempt fun signing => ?_
  rcases signing with e | _ | activeKey
  · exact .ret _
  · exact keepsKeys_call hbase64 other { Stage.start with step := .keyless } ⟨rfl, rfl⟩
      (fun _ _ => rfl) fun _ => .ret _
  · have hread : KeepsKeys X b mgr issued who (KeyProg.getKeyByKid activeKey.kid) :=
      keepsKeys_call hbase64 other .start trivial (fun _ _ => rfl) .ofExcept
    refine Maintains.bind hread.attempt fun byKid => ?_
    rcases byKid with e | _ | key
    · exact .ret _
    · exact .ret _
    · simp only [needsRotation]
      cases key.activatedAt with
      | none => exact .ret _
      | some activatedAt =>
        exact Maintains.bind (keepsKeys_utcNow hbase64) fun _ => .ret _

theorem keepsKeys_performRotationCheck (force : Bool) :
    KeepsKeys X b mgr issued who (performRotationCheck X b other force) := by
  have hrotate : ∀ due : Bool, KeepsKeys X b mgr issued who (if due = true then
      (other.getSigningKey X).attempt.bind fun _ =>
        (other.rotate X).attempt.bind fun _ => Prog.ret ()
      else Prog.ret ()) := by
    intro due
    split
    · refine Maintains.bind (keepsKeys_getSigningKey hbase64 hother).attempt fun _ => ?_
      exact Maintains.bind (keepsKeys_rotate hbase64 hother).attempt fun _ => .ret _
    · exact .ret _
  refine Maintains.bind (keepsKeys_retireExpired hbase64 hother).attempt fun _ => ?_
  cases force with
  | true => exact hrotate true
  | false => exact Maintains.bind (keepsKeys_rotationDue hbase64 hother) hrotate

/-- **Every function keeps the invariant**, unless it makes the manager anew. -/
theorem keepsKeys_program {op : KeyOp} (hmanager : op.manager = other)
    (hnew : other.id = mgr.id → ∀ m, op ≠ .new m) :
    KeepsKeys X b mgr issued who (op.program X b) := by
  subst hmanager
  cases op with
  | new m =>
    by_cases hid : m.id = mgr.id
    · exact absurd rfl (hnew hid m)
    · exact keepsKeys_call hbase64 m .start rfl
        (fun _ _ => KeyWorld.setCache_caches_of_ne (Ne.symm hid) _ _) .ret
  | refreshCache m => exact keepsKeys_refreshCache hother
  | getSigningKey m =>
    exact Maintains.bind (keepsKeys_getSigningKey hbase64 hother) fun _ => .ret _
  | getVerificationKey m kid =>
    exact Maintains.bind (keepsKeys_getVerificationKey hbase64 kid) fun _ => .ret _
  | getAllVerificationKeys m =>
    exact Maintains.bind (keepsKeys_getAllVerificationKeys hbase64 hother) fun _ => .ret _
  | rotate m => exact Maintains.bind (keepsKeys_rotate hbase64 hother) fun _ => .ret _
  | retireExpired m => exact Maintains.bind (keepsKeys_retireExpired hbase64 hother) fun _ => .ret _
  | rotationCheck m force => exact keepsKeys_performRotationCheck hbase64 hother force

end Functions

/-! ### Runs -/

/-- A function and the inputs of its calls. -/
abbrev OpRun := KeyOp × (ℕ → KeyInput)

/-- One function of the manager, run from its beginning to its end while nobody else does anything.
-/
def opStep (X : KeyExterns) (b : KeyBackend) (w : KeyWorld) (a : OpRun) : KeyWorld :=
  (exec (KeyWorld.answer X b) a.1.manager.id (a.1.program X b) w a.2).2

/-- No statement of the function meets a fault, and the manager is neither made anew nor mistaken
for another. -/
def Serving (mgr : KeyManager) (_w : KeyWorld) (a : OpRun) : Prop :=
  (∀ n, (a.2 n).Faultless) ∧
    (a.1.manager.id = mgr.id → a.1.manager = mgr ∧ ∀ m, a.1 ≠ .new m)

/-- **The key the manager signs with is verifiable, and so is every key that was**, in every
state that functions without faults lead to. -/
theorem managerInv_of_reach
    (hbase64 : ∀ fresh : FreshKey, X.base64Decode (X.base64Encode fresh.bytes) = .ok fresh.bytes)
    (hw : ManagerInv X mgr issued w) (h : Reach (opStep X b) (Serving mgr) w w') :
    ManagerInv X mgr issued w' := by
  apply h.invariant hw
  intro s a hs ha
  exact keepsKeys_program hbase64 (fun hid => (ha.2 hid).1) rfl (fun hid => (ha.2 hid).2) s a.2 hs
    ha.1

/-! ### What the functions return -/

section Returns

variable {inputs : ℕ → KeyInput} (hI : ManagerInv X mgr issued w)
  (hinputs : ∀ n, (inputs n).Faultless)

include hI hinputs

theorem exec_ensureCacheFresh (b : KeyBackend) (who : ℕ) :
    ∃ w', exec (KeyWorld.answer X b) who (mgr.ensureCacheFresh X) w inputs = (.ok (), w') ∧
      w'.table = w.table ∧ ManagerInv X mgr issued w' := by
  have hread : ManagerInv X mgr issued { w with instant := max w.instant (inputs 0).instant } :=
    hI.of_extends hI.made (KeyTable.Extends.refl _) rfl
  have hexec : exec (KeyWorld.answer X b) who (mgr.ensureCacheFresh X) w inputs
      = exec (KeyWorld.answer X b) who (if decide (mgr.config.checkIntervalSecs.toNat
          ≤ (max w.instant (inputs 0).instant - (w.caches mgr.id).lastRefresh) / nanosPerSec) = true
          then mgr.refreshCache X else .ret ())
        { w with instant := max w.instant (inputs 0).instant } fun n => inputs (n + 1) := rfl
  rw [hexec]
  split
  · obtain ⟨w', hrest, h⟩ := exec_refreshCache b who mgr hread.made (fun n => hinputs (n + 1))
    exact ⟨w', hrest, h.table, hread.refreshed (fun _ => rfl) h⟩
  · exact ⟨_, rfl, rfl, hread⟩

/-- A function that looks at a fresh cache returns what it finds there. -/
theorem exec_readFresh {α : Type} (b : KeyBackend) (who : ℕ) (use : CacheUse)
    (result : KeyCache → α) :
    ∃ w', exec (KeyWorld.answer X b) who ((mgr.ensureCacheFresh X).bind fun _ =>
        (KeyProg.readCache mgr.id use).bind fun reading => Prog.ret (result reading.1)) w inputs
          = (.ok (result (w'.caches mgr.id)), w') ∧
      w'.table = w.table ∧ ManagerInv X mgr issued w' := by
  obtain ⟨w₁, hfresh, htable, hI₁⟩ := exec_ensureCacheFresh hI hinputs b who
  rcases exec_bind (KeyWorld.answer X b) who (mgr.ensureCacheFresh X) (fun _ =>
    (KeyProg.readCache mgr.id use).bind fun reading => Prog.ret (result reading.1)) w inputs with
    ⟨used, hrest⟩
  rw [hrest, hfresh]
  refine ⟨{ w₁ with instant := max w₁.instant (inputs used).instant }, ?_, htable,
    hI₁.of_extends hI₁.made (KeyTable.Extends.refl _) rfl⟩
  simp only [KeyProg.readCache, Prog.call_bind, Prog.ret_bind, exec, KeyWorld.answer,
    KeyWorld.answerNow, zero_add]

/-- `get_signing_key` returns the signing key of the cache, which is verifiable, and leaves the
table of keys as it was. -/
theorem exec_getSigningKey (b : KeyBackend) (who : ℕ) :
    ∃ w', exec (KeyWorld.answer X b) who (mgr.getSigningKey X) w inputs
        = (.ok (w'.caches mgr.id).activeKey, w') ∧
      w'.table = w.table ∧ ManagerInv X mgr issued w' :=
  exec_readFresh hI hinputs b who .signingKey KeyCache.activeKey

/-- `get_all_verification_keys` returns all verifiable keys. -/
theorem exec_getAllVerificationKeys (b : KeyBackend) (who : ℕ) :
    ∃ w', exec (KeyWorld.answer X b) who (mgr.getAllVerificationKeys X) w inputs
        = (.ok (w'.caches mgr.id).verificationKeys, w') ∧
      w'.table = w.table ∧ ManagerInv X mgr issued w' :=
  exec_readFresh hI hinputs b who .allVerificationKeys KeyCache.verificationKeys

end Returns

end ActonService
