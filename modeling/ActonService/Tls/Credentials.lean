import ActonService.Lib.Effect

/-!
# Credential files

What `tls.rs` and `client_tls.rs` read from the files of certificates, keys and trust anchors.  A
file is read as a whole, and may be written between two reads.  Parsing PEM and everything the
rustls builders check is third-party.  All errors are `Error::Tls`; only the message is kept.

## Main definitions

* `FileProg`, `readFile` — programs that read files.
* `TlsExterns` — the third-party functions, and the hash.
* `loadServerConfig`, `fingerprintCredentials` — what a listener serves, and a hash of its files.
* `loadIdentityMaterial`, `buildPeerVerifier` — what a client presents and whom it trusts.

## Main results

* `loadServerConfig_eval_congr` — what is loaded depends on the fingerprinted bytes alone.
-/

namespace ActonService.Tls

open Effect

/-! ### Files -/

/-- Why a file was not read, with the text of the error. -/
inductive FileError
  | unopened (e : String)
  | broken (e : String)
  deriving DecidableEq, Repr

def FileError.display : FileError → String
  | .unopened e | .broken e => e

/-- What reading a file comes to. -/
abbrev FileContent := Except FileError (List UInt8)

/-- The files under their paths: what reading a path gives, an error included. -/
abbrev Files := String → FileContent

/-- The one call of these programs: a file is read, and answers with its content or an error. -/
inductive FileCall
  | read (path : String)

/-- The type of an answer. -/
abbrev FileCall.Answer : FileCall → Type
  | .read _ => FileContent

/-- A read that finds the files as they are. -/
def Files.answer (files : Files) : (c : FileCall) → c.Answer
  | .read path => files path

/-- Programs that read files. -/
abbrev FileProg (ε α : Type) := Prog FileCall FileCall.Answer ε α

/-- `std::fs::read` -/
def readFile {ε : Type} (path : String) (onError : FileError → ε) : FileProg ε (List UInt8) :=
  .call (.read path) fun content => .ofExcept (content.mapError onError)

/-- An answer of the third-party code, its error with a text before it. -/
def orMessage {α : Type} (what : String) (r : Except String α) : FileProg String α :=
  .ofExcept (r.mapError fun e => what ++ e)

/-! ### Third-party code -/

/-- A certificate, a key or a trust anchor in DER. -/
abbrev Der := List UInt8

/-- The functions that are not under the source, with the texts of their errors. -/
structure TlsExterns where
  /-- The certificates of a PEM text. -/
  pemCertificates : List UInt8 → Except String (List Der)
  /-- The first key of a PEM text. -/
  pemPrivateKey : List UInt8 → Except String Der
  /-- `RootCertStore::add` -/
  addRoot : Der → Except String Der
  /-- `WebPkiClientVerifier::builder` with the roots, and whether it asks for a certificate only. -/
  buildClientVerifier : List Der → Bool → Except String Unit
  /-- `with_single_cert` -/
  withSingleCert : List Der → Der → Except String Unit
  /-- `load_private_key` of the crypto provider. -/
  loadPrivateKey : Der → Except String Unit
  /-- `CertifiedKey::keys_match` -/
  keysMatch : List Der → Der → Except String Unit
  /-- `WebPkiServerVerifier::builder` -/
  buildServerVerifier : List Der → Except String Unit
  /-- `webpki_roots::TLS_SERVER_ROOTS` -/
  serverRoots : List Der
  /-- What `DefaultHasher` makes of paths and contents. -/
  finish : List (String × List UInt8) → UInt64

/-! ### Trust anchors -/

section Loaders

variable (X : TlsExterns)

/-- The certificates of a PEM file. -/
def pemFileCertificates (path opening parsing : String) : FileProg String (List Der) :=
  .call (.read path) fun content =>
    match content with
    | .error (.unopened e) => .fail (opening ++ e)
    | .error (.broken e) => .fail (parsing ++ e)
    | .ok bytes => orMessage parsing (X.pemCertificates bytes)

/-- `load_root_store` -/
def loadRootStore (path role : String) : FileProg String (List Der) := do
  let certificates ← pemFileCertificates X path
    ("Failed to open " ++ role ++ " file '" ++ path ++ "': ")
    ("Failed to parse " ++ role ++ " certificates from '" ++ path ++ "': ")
  if certificates = [] then
    .fail ("The " ++ role ++ " file '" ++ path ++ "' contains no certificates")
  else
    orMessage ("Failed to add " ++ role ++ " certificate from '" ++ path ++ "' to trust store: ")
      (certificates.mapM X.addRoot)

/-! ### What a listener serves -/

/-- `TlsConfig`, as far as the loaders read it. -/
structure TlsConfig where
  certPath : String
  keyPath : String
  clientCaPath : Option String
  clientAuthOptional : Bool
  deriving DecidableEq, Repr

/-- `ServerConfig`, by what it is built from. -/
structure ServerConfig where
  certChain : List Der
  key : Der
  /-- The anchors for client certificates, and whether a client may do without one. -/
  clientAuth : Option (List Der × Bool)
  alpnProtocols : List String
  deriving DecidableEq, Repr

/-- The posture towards client certificates: none are asked for, or they are checked against these
roots, and may be missing or not. -/
def loadClientAuth (tls : TlsConfig) : FileProg String (Option (List Der × Bool)) :=
  match tls.clientCaPath with
  | none => .ret none
  | some path => do
    let roots ← loadRootStore X path "client CA"
    let _ ← orMessage "Failed to build client certificate verifier: "
      (X.buildClientVerifier roots tls.clientAuthOptional)
    .ret (some (roots, tls.clientAuthOptional))

/-- `load_server_config` -/
def loadServerConfig (tls : TlsConfig) : FileProg String ServerConfig := do
  let certChain ← pemFileCertificates X tls.certPath
    ("Failed to open TLS cert file '" ++ tls.certPath ++ "': ") "Failed to parse TLS certificates: "
  if certChain = [] then .fail "TLS cert file contains no certificates"
  else do
    let unparsed := "Failed to parse TLS private key from '" ++ tls.keyPath ++ "': "
    let keyBytes ← readFile tls.keyPath fun e => unparsed ++ e.display
    let key ← orMessage unparsed (X.pemPrivateKey keyBytes)
    let clientAuth ← loadClientAuth X tls
    let _ ← orMessage "Failed to build TLS server config: " (X.withSingleCert certChain key)
    .ret ⟨certChain, key, clientAuth, ["h2", "http/1.1"]⟩

/-- The paths a fingerprint covers: the certificate, the key and the client CA, where there is one.
-/
def TlsConfig.paths (tls : TlsConfig) : List String :=
  tls.certPath :: tls.keyPath :: tls.clientCaPath.toList

/-- The paths with what the files hold, unless one cannot be read. -/
def readAll : List String → FileProg FileError (List (String × List UInt8))
  | [] => .ret []
  | path :: paths => do
    let bytes ← readFile path id
    let rest ← readAll paths
    .ret ((path, bytes) :: rest)

/-- `fingerprint_credentials` -/
def fingerprintCredentials (tls : TlsConfig) : FileProg FileError UInt64 := do
  let contents ← readAll tls.paths
  .ret (X.finish contents)

/-! ### What a client presents -/

/-- `ClientIdentityConfig`, as far as the loaders read it. -/
structure ClientIdentityConfig where
  certPath : String
  keyPath : String
  rootCaPath : Option String
  exclusiveRoots : Bool
  deriving DecidableEq, Repr

/-- `IdentityMaterial`, and the rustls `CertifiedKey` with the same chain and key. -/
structure CertifiedKey where
  chain : List Der
  key : Der
  deriving DecidableEq, Repr

/-- `certified_key_from_material` -/
def certifiedKeyFromMaterial (config : ClientIdentityConfig) (material : CertifiedKey) :
    FileProg String CertifiedKey := do
  let _ ← orMessage ("Client identity private key from '" ++ config.keyPath
    ++ "' is not usable by the configured crypto provider: ") (X.loadPrivateKey material.key)
  let _ ← orMessage ("Client identity private key '" ++ config.keyPath
    ++ "' does not match the certificate in '" ++ config.certPath ++ "': ")
    (X.keysMatch material.chain material.key)
  .ret material

/-- `load_identity_material` -/
def loadIdentityMaterial (config : ClientIdentityConfig) : FileProg String CertifiedKey := do
  let certPem ← readFile config.certPath fun e =>
    "Failed to open client identity cert file '" ++ config.certPath ++ "': " ++ e.display
  let keyPem ← readFile config.keyPath fun e =>
    "Failed to open client identity key file '" ++ config.keyPath ++ "': " ++ e.display
  let chain ← orMessage ("Failed to parse client identity certificates from '" ++ config.certPath
    ++ "': ") (X.pemCertificates certPem)
  if chain = [] then
    .fail ("Client identity cert file '" ++ config.certPath ++ "' contains no certificates")
  else do
    let key ← orMessage ("Failed to parse client identity private key from '" ++ config.keyPath
      ++ "': ") (X.pemPrivateKey keyPem)
    let _ ← certifiedKeyFromMaterial X config ⟨chain, key⟩
    .ret ⟨chain, key⟩

/-- `PEER_CA_ROLE` -/
def peerCaRole : String := "peer CA"

/-- `build_root_store` -/
def buildRootStore (config : ClientIdentityConfig) : FileProg String (List Der) :=
  match config.rootCaPath with
  | none => .ret X.serverRoots
  | some path => do
    let peerRoots ← loadRootStore X path peerCaRole
    .ret (if config.exclusiveRoots then peerRoots else X.serverRoots ++ peerRoots)

/-- `build_peer_verifier`: the anchors of the verifier. -/
def buildPeerVerifier (config : ClientIdentityConfig) : FileProg String (List Der) := do
  let roots ← buildRootStore X config
  let _ ← orMessage ("Failed to build a peer certificate verifier from the configured "
    ++ peerCaRole ++ " roots: ") (X.buildServerVerifier roots)
  .ret roots

end Loaders

/-! ### What is read -/

section Reads

variable {X : TlsExterns} {tls : TlsConfig} {ε α β : Type} {paths : List String}

/-- The program reads files under these paths only. -/
abbrev ReadsAmong (paths : List String) (p : FileProg ε α) : Prop :=
  p.Always fun c _ => ∃ path ∈ paths, c = .read path

theorem readsAmong_orMessage (what : String) (r : Except String α) :
    ReadsAmong paths (orMessage what r) :=
  Prog.always_ofExcept _

theorem readsAmong_readFile {path : String} (h : path ∈ paths) (onError : FileError → ε) :
    ReadsAmong paths (readFile path onError) :=
  ⟨⟨path, h, rfl⟩, fun _ => Prog.always_ofExcept _⟩

theorem readsAmong_pemFileCertificates {path : String} (h : path ∈ paths)
    (opening parsing : String) : ReadsAmong paths (pemFileCertificates X path opening parsing) := by
  refine ⟨⟨path, h, rfl⟩, fun content => ?_⟩
  rcases content with (e | e) | bytes
  · trivial
  · trivial
  · exact readsAmong_orMessage _ _

theorem readsAmong_loadRootStore {path : String} (h : path ∈ paths) (role : String) :
    ReadsAmong paths (loadRootStore X path role) := by
  refine (readsAmong_pemFileCertificates h _ _).bind fun certificates => ?_
  split
  · trivial
  · exact readsAmong_orMessage _ _

/-- Loading a configuration reads no files but those that the fingerprint covers. -/
theorem readsAmong_loadServerConfig : ReadsAmong tls.paths (loadServerConfig X tls) := by
  have hcert : tls.certPath ∈ tls.paths := List.mem_cons_self
  have hkey : tls.keyPath ∈ tls.paths := List.mem_cons_of_mem _ List.mem_cons_self
  have hauth : ReadsAmong tls.paths (loadClientAuth X tls) := by
    rw [loadClientAuth]
    cases hca : tls.clientCaPath with
    | none => trivial
    | some path =>
      have hpath : path ∈ tls.paths := by
        simp [TlsConfig.paths, hca]
      refine (readsAmong_loadRootStore hpath _).bind fun roots => ?_
      exact (readsAmong_orMessage _ _).bind fun _ => trivial
  refine (readsAmong_pemFileCertificates hcert _ _).bind fun certChain => ?_
  split
  · trivial
  · refine (readsAmong_readFile hkey _).bind fun keyBytes => ?_
    refine (readsAmong_orMessage _ _).bind fun key => hauth.bind fun clientAuth => ?_
    exact (readsAmong_orMessage _ _).bind fun _ => trivial

theorem readFile_eval_eq_ok {files : Files} {path : String} {onError : FileError → ε}
    {bytes : List UInt8} (h : (readFile path onError).eval files.answer = .ok bytes) :
    files path = .ok bytes := by
  have heval : (readFile path onError).eval files.answer = (files path).mapError onError := by
    show (Prog.ofExcept ((files path).mapError onError)).eval files.answer = _
    cases files path <;> rfl
  rw [heval] at h
  cases hfile : files path with
  | error e => simp [hfile, Except.mapError] at h
  | ok bytes' => simpa [hfile, Except.mapError] using h

/-- Files whose contents were read as the same are the same. -/
theorem eq_of_readAll {files files' : Files} {contents : List (String × List UInt8)}
    (h : (readAll paths).eval files.answer = .ok contents)
    (h' : (readAll paths).eval files'.answer = .ok contents) :
    ∀ path ∈ paths, files path = files' path := by
  induction paths generalizing contents with
  | nil => exact fun path hpath => absurd hpath List.not_mem_nil
  | cons path paths ih =>
    obtain ⟨bytes, hbytes, h⟩ := Prog.eval_bind_eq_ok h
    obtain ⟨bytes', hbytes', h'⟩ := Prog.eval_bind_eq_ok h'
    obtain ⟨rest, hrest, h⟩ := Prog.eval_bind_eq_ok h
    obtain ⟨rest', hrest', h'⟩ := Prog.eval_bind_eq_ok h'
    obtain ⟨hhead, htail⟩ := List.cons.inj (Except.ok.inj (h.trans h'.symm))
    intro other hother
    rcases List.mem_cons.mp hother with rfl | hother
    · rw [readFile_eval_eq_ok hbytes, readFile_eval_eq_ok hbytes', (Prod.mk.inj hhead).2]
    · exact ih hrest (htail ▸ hrest') other hother

/-- **What is loaded depends on the fingerprinted bytes alone.** -/
theorem loadServerConfig_eval_congr {files files' : Files} {contents : List (String × List UInt8)}
    (h : (readAll tls.paths).eval files.answer = .ok contents)
    (h' : (readAll tls.paths).eval files'.answer = .ok contents) :
    (loadServerConfig X tls).eval files.answer = (loadServerConfig X tls).eval files'.answer := by
  have hagree := eq_of_readAll h h'
  have hmono : ∀ {α : Type} {p : FileProg String α}, ReadsAmong tls.paths p →
      p.Always fun c _ => files.answer c = files'.answer c := by
    intro α p hp
    induction p with
    | ret a => trivial
    | fail e => trivial
    | call c k ih =>
      obtain ⟨⟨path, hpath, rfl⟩, hrest⟩ := hp
      exact ⟨hagree path hpath, fun a => ih a (hrest a)⟩
  exact Prog.eval_congr (hmono readsAmong_loadServerConfig)

theorem ok_of_pemFileCertificates {files : Files} {path opening parsing : String}
    {certificates : List Der}
    (h : (pemFileCertificates X path opening parsing).eval files.answer = .ok certificates) :
    ∃ bytes, files path = .ok bytes := by
  cases hfile : files path with
  | ok bytes => exact ⟨bytes, rfl⟩
  | error e =>
    rw [pemFileCertificates, Prog.eval] at h
    simp only [Files.answer, hfile] at h
    cases e <;> simp [Prog.eval] at h

/-- A configuration is loaded only if every file can be read. -/
theorem ok_of_loadServerConfig {files : Files} {config : ServerConfig}
    (h : (loadServerConfig X tls).eval files.answer = .ok config) :
    ∀ path ∈ tls.paths, ∃ bytes, files path = .ok bytes := by
  obtain ⟨certChain, hcert, h⟩ := Prog.eval_bind_eq_ok h
  split at h
  · contradiction
  obtain ⟨keyBytes, hkey, h⟩ := Prog.eval_bind_eq_ok h
  obtain ⟨key, -, h⟩ := Prog.eval_bind_eq_ok h
  obtain ⟨clientAuth, hauth, -⟩ := Prog.eval_bind_eq_ok h
  intro path hpath
  rcases List.mem_cons.mp hpath with rfl | hpath
  · exact ok_of_pemFileCertificates hcert
  rcases List.mem_cons.mp hpath with rfl | hpath
  · exact ⟨keyBytes, readFile_eval_eq_ok hkey⟩
  · rw [Option.mem_toList] at hpath
    rw [loadClientAuth, hpath] at hauth
    obtain ⟨roots, hroots, -⟩ := Prog.eval_bind_eq_ok hauth
    obtain ⟨certificates, hcertificates, -⟩ := Prog.eval_bind_eq_ok hroots
    exact ok_of_pemFileCertificates hcertificates

/-- **Files that can be loaded can be fingerprinted.** -/
theorem exists_readAll_of_loadServerConfig {files : Files} {config : ServerConfig}
    (h : (loadServerConfig X tls).eval files.answer = .ok config) :
    ∃ contents, (readAll tls.paths).eval files.answer = .ok contents := by
  have hpaths := ok_of_loadServerConfig h
  generalize tls.paths = paths at hpaths ⊢
  induction paths with
  | nil => exact ⟨[], rfl⟩
  | cons path paths ih =>
    obtain ⟨bytes, hbytes⟩ := hpaths path List.mem_cons_self
    obtain ⟨rest, hrest⟩ := ih fun other hother => hpaths other (List.mem_cons_of_mem _ hother)
    refine ⟨(path, bytes) :: rest, ?_⟩
    have hread : (readFile path (id : FileError → FileError)).eval files.answer = .ok bytes := by
      show (Prog.ofExcept ((files path).mapError id)).eval files.answer = _
      rw [hbytes]
      rfl
    rw [readAll, Prog.bind_eq, Prog.eval_bind, hread]
    show ((readAll paths).bind _).eval files.answer = _
    rw [Prog.eval_bind, hrest]
    rfl

end Reads

/-! ### Samples -/

/-- Third-party code that takes the bytes of a file for one certificate and for its key. -/
def sampleTlsExterns : TlsExterns where
  pemCertificates bytes := .ok (if bytes = [] then [] else [bytes])
  pemPrivateKey bytes := if bytes = [] then .error "no items found" else .ok bytes
  addRoot := .ok
  buildClientVerifier roots _ :=
    if roots = [] then .error "no root trust anchors were provided" else .ok ()
  withSingleCert certChain key :=
    if certChain = [key] then .ok () else .error "keys may not be consistent: KeyMismatch"
  loadPrivateKey _ := .ok ()
  keysMatch certChain key :=
    if certChain = [key] then .ok () else .error "keys may not be consistent: KeyMismatch"
  buildServerVerifier roots :=
    if roots = [] then .error "no root trust anchors were provided" else .ok ()
  serverRoots := [[0]]
  finish contents := contents.foldl (fun h c => c.2.foldl (fun h b => 31 * h + b.toUInt64) h) 7

end ActonService.Tls
