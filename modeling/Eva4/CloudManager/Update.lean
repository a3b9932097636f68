import Eva4.Lib.Dialog
import Eva4.Lib.Bytes
import Eva4.Lib.Table
import Eva4.Items.Basic

/-!
# Updating a node

The update command asks the repository server for the newest build and for the manifest of that
build, downloads the update script and the distribution, checks both against the manifest and
starts the script.  The server may answer anything.  The manifest is not signed; each of its
entries has a signature of the file's digest.
-/

namespace Eva4.CloudManager

open Lib
open Dialog hiding bind
open Items (Error ErrorKind EResult)

def failure (kind : ErrorKind) (message : String) : Error where
  kind := kind
  message := message

structure VersionInfo where
  build : Nat
  version : String
deriving DecidableEq, Repr

structure RawEntry where
  size : Nat
  sha256 : String
  signature : String

structure RawManifest where
  versionInfo : VersionInfo
  content : List (String × RawEntry)

structure Env where
  jsonVersion : Bytes -> EResult VersionInfo
  jsonManifest : Bytes -> EResult RawManifest
  jsonError : String -> Error
  hexDecode : String -> Except String Bytes
  base64Decode : String -> Except String Bytes
  sha256 : Bytes -> Bytes
  /-- Of the signed content, the public key and the signature. -/
  rsaVerify : Bytes -> Bytes -> Bytes -> Bool
  fileName : String -> Option String
  parseBuild : String -> EResult Nat
  errorText : Error -> String
  utf8Error : Error
  archSfx : String

/-!
## The manifest
-/

structure Entry where
  size : Nat
  sha256 : Bytes
  signature : Bytes

structure Manifest where
  versionInfo : VersionInfo
  content : Table String Entry
  pubKey : Option Bytes

def deSha256FromHexstr (env : Env) (s : String) : Except String Bytes := do
  let data <- env.hexDecode s
  if data.length = 32 then .ok data
  else .error "invalid sha256 length"

def deFromB64 (env : Env) (s : String) : Except String Bytes :=
  env.base64Decode s

def RawEntry.decode (env : Env) (raw : RawEntry) : Except String Entry := do
  let sha256 <- deSha256FromHexstr env raw.sha256
  let signature <- deFromB64 env raw.signature
  .ok { size := raw.size, sha256 := sha256, signature := signature }

def decodeContent (env : Env) : List (String × RawEntry) -> Except String (Table String Entry)
  | [] => .ok ∅
  | file :: files => do
    let entry <- file.2.decode env
    let content <- decodeContent env files
    -- of entries with one name the last one counts
    .ok (if (content.lookup file.1).isSome then content else content.insert file.1 entry)

def Manifest.fromSlice (env : Env) (data : Bytes) : EResult Manifest := do
  let raw <- env.jsonManifest data
  match decodeContent env raw.content with
  | .error text => .error (env.jsonError text)
  | .ok content => .ok { versionInfo := raw.versionInfo, content := content, pubKey := none }

def fnameParseError : Error :=
  failure .invalidData "unable to parse the file name"

namespace Manifest

def contains (env : Env) (m : Manifest) (file : String) : EResult Bool :=
  match env.fileName file with
  | some f => .ok (m.content.lookup f).isSome
  | none => .error fnameParseError

def setPubKey (m : Manifest) (key : Bytes) : Manifest :=
  { m with pubKey := some key }

def verify (env : Env) (m : Manifest) (name : String) (size : Nat) (sha256sum : Bytes) :
    EResult Unit :=
  match env.fileName name with
  | none => .error fnameParseError
  | some f =>
    match m.content.lookup f with
    | none => .error
        (failure .resourceNotFound s!"file {f} not included into the manifest")
    | some entry =>
      if entry.size ≠ size then .error (failure .invalidData s!"file {f} size mismatch")
      else if entry.sha256 ≠ sha256sum then
        .error (failure .invalidData s!"file {f} checksum mismatch")
      else
        match m.pubKey with
        | some key =>
          if env.rsaVerify sha256sum key entry.signature then .ok ()
          else .error (failure .invalidData s!"file {f} signature verification failed")
        | none => .error (failure .invalidParams "manifest pub key is not set")

def Lists (env : Env) (m : Manifest) (name : String) (content : Bytes) : Prop :=
  exists f entry, env.fileName name = some f ∧ m.content.lookup f = some entry ∧
    entry.size = content.length ∧ entry.sha256 = env.sha256 content

theorem verify_ok {m : Manifest} {content : Bytes} (hkey : m.pubKey = some key)
    (h : m.verify env name content.length (env.sha256 content) = .ok ()) :
    m.Lists env name content ∧
      exists signature, env.rsaVerify (env.sha256 content) key signature = true := by
  unfold verify at h
  cases hf : env.fileName name with
  | none => simp [hf] at h
  | some f =>
    cases hentry : m.content.lookup f with
    | none => simp [hf, hentry] at h
    | some entry =>
      simp only [hf, hentry, hkey] at h
      by_cases hsize : entry.size = content.length
      · by_cases hsha : entry.sha256 = env.sha256 content
        · rw [if_neg (not_not_intro hsize), if_neg (not_not_intro hsha)] at h
          by_cases hrsa : env.rsaVerify (env.sha256 content) key entry.signature = true
          · exact ⟨⟨f, entry, hf, hentry, hsize, hsha⟩, entry.signature, hrsa⟩
          · simp [hrsa] at h
        · rw [if_neg (not_not_intro hsize), if_pos hsha] at h
          simp at h
      · rw [if_pos hsize] at h
        simp at h

end Manifest

/-!
## The command
-/

/-- What the server sends for a file; each part of the body arrives or fails. -/
structure Response where
  code : Nat
  status : String
  chunks : List (EResult Bytes)

inductive Call where
  /-- Of the node that is to be updated. -/
  | svcVersionInfo
  | envVar (name : String)
  | fetch (url : String)
  | lockExists
  | createLock
  | readPubKey
  | confirm
  | setCurrentDir
  | getUrl (url : String)
  | openFile (dest : String)
  | writeChunk (dest : String) (chunk : Bytes)
  | startScript (script repositoryUrl archSfx : String)
  | waitScript
  | restartNode

def Call.Answer : Call -> Type
  | .svcVersionInfo => EResult VersionInfo
  | .envVar _ => Option String
  | .fetch _ => EResult Bytes
  | .lockExists => Bool
  | .readPubKey => Except String Bytes
  | .getUrl _ => EResult Response
  | .waitScript => EResult (Option Int)
  | _ => EResult Unit

abbrev Io (R : Type) : Type :=
  Dialog Call Call.Answer Error R

def fetch (url : String) : Io Bytes := do
  let answer : EResult Bytes <- Dialog.request (Call.fetch url)
  answer

def openFile (dest : String) : Io Unit := do
  let answer : EResult Unit <- Dialog.request (Call.openFile dest)
  answer

def writeChunk (dest : String) (chunk : Bytes) : Io Unit := do
  let answer : EResult Unit <- Dialog.request (Call.writeChunk dest chunk)
  answer

/-- Stores the body of a response; the size and the digest are of all that was stored. -/
def writeChunks (dest : String) : List (EResult Bytes) -> Bytes -> Io Bytes
  | [], data => pure data
  | .error e :: _, _ => .fail e
  | .ok chunk :: chunks, data => do
    writeChunk dest chunk
    writeChunks dest chunks (data ++ chunk)

section

variable (env : Env)

section

variable (manifest : Option Manifest)

def checkedManifest (dest : String) (check : Bool) : EResult (Option Manifest) :=
  if check then
    match manifest with
    | some mc => do
      if <- mc.contains env dest then .ok (some mc)
      else .error (failure .failed s!"no entry for {dest} in the manifest")
    | none => .error (failure .invalidParams "manifest is not set in client")
  else .ok none

def storeBody (dest : String) (res : Response) : Io Unit := do
  openFile dest
  let data <- writeChunks dest res.chunks []
  match manifest with
  | some m => (m.verify env dest data.length (env.sha256 data) : EResult Unit)
  | none => pure ()

def safeDownload (url dest : String) (check : Bool) : Io Unit := do
  let manifest <- checkedManifest env manifest dest check
  let answer : EResult Response <- Dialog.request (Call.getUrl url)
  match answer with
  | .ok res =>
    if res.code = 200 then storeBody env manifest dest res
    else .fail (failure .io s!"Server response: {res.status}")
  | .error e => .fail (failure .io s!"unable to download {url}: {env.errorText e}")

end

structure Options where
  repositoryUrl : String
  yes : Bool
  infoOnly : Bool
  test : Bool

def forcedVersion (ver : String) : EResult VersionInfo :=
  match splitn ':' 2 ver.toList with
  | version :: buildStr :: _ => do
    let build <- env.parseBuild (String.ofList buildStr)
    .ok { build := build, version := String.ofList version }
  | _ => .error (failure .invalidParams "no build in env var")

variable (opts : Options)

def newVersion : Io VersionInfo := do
  let forced : Option String <- Dialog.request (Call.envVar "EVA_UPDATE_FORCE_VERSION")
  match forced with
  | some ver => (forcedVersion env ver : EResult VersionInfo)
  | none => do
    let res <- fetch (if opts.test then s!"{opts.repositoryUrl}/update_info_test.json"
      else s!"{opts.repositoryUrl}/update_info.json")
    (env.jsonVersion res : EResult VersionInfo)

def takeLock : Io Unit := do
  let found : Bool <- Dialog.request Call.lockExists
  if found then .fail (failure .busy "update is already active")
  else do
    let answer : EResult Unit <- Dialog.request Call.createLock
    answer

def manifestUrl (v : VersionInfo) : String :=
  s!"{opts.repositoryUrl}/{v.version}/nightly/manifest-{v.build}.json"

def fetchManifest (v : VersionInfo) : Io Manifest := do
  let res <- fetch (manifestUrl opts v)
  let manifest : Manifest <- Manifest.fromSlice env res
  if manifest.versionInfo ≠ v then .fail (failure .invalidData "manifest build/version mismatch")
  else do
    let answer : Except String Bytes <- Dialog.request Call.readPubKey
    match answer with
    | .ok key => pure (manifest.setPubKey key)
    | .error e => .fail (failure .failed s!"unable to read eva.key: {e}")

def showUpdateInfo (new : VersionInfo) : Io Unit := do
  let res <- fetch s!"{opts.repositoryUrl}/{new.version}/nightly/UPDATE.rst"
  match fromUtf8 res with
  | some _ => pure ()
  | none => .fail env.utf8Error

def askConfirmation (current new : VersionInfo) : Io Unit :=
  if opts.yes then pure ()
  else do
    (if current.version ≠ new.version then showUpdateInfo env opts new else pure ())
    let answer : EResult Unit <- Dialog.request Call.confirm
    answer

def updateScript (v : VersionInfo) : String :=
  s!"update-{v.build}.sh"

def distro (v : VersionInfo) : String :=
  s!"eva-{v.version}-{v.build}-{env.archSfx}.tgz"

def downloadFile (manifest : Manifest) (v : VersionInfo) (file : String) : Io Unit :=
  safeDownload env (some manifest) s!"{opts.repositoryUrl}/{v.version}/nightly/{file}" file true

def startUpdate (v : VersionInfo) : Io Unit := do
  let started : EResult Unit <-
    Dialog.request (Call.startScript (updateScript v) opts.repositoryUrl env.archSfx)
  started
  let answer : EResult (Option Int) <- Dialog.request Call.waitScript
  let code : Option Int <- answer
  if code.getD 0 = 0 then pure ()
  else do
    let restarted : EResult Unit <- Dialog.request Call.restartNode
    restarted
    .fail (failure .failed "update failed")

def updateTo (current new : VersionInfo) : Io Unit := do
  takeLock
  let manifest <- fetchManifest env opts new
  askConfirmation env opts current new
  let entered : EResult Unit <- Dialog.request Call.setCurrentDir
  entered
  downloadFile env opts manifest new (updateScript new)
  downloadFile env opts manifest new (distro env new)
  startUpdate env opts new

def update : Io Unit := do
  let answer : EResult VersionInfo <- Dialog.request Call.svcVersionInfo
  let current : VersionInfo <- answer
  let new <- newVersion env opts
  if opts.infoOnly then pure ()
  else if current.build < new.build then updateTo env opts current new
  else pure ()

/-!
## What is started
-/

/-- What the command has got so far, and the files that it has stored. -/
structure Seen where
  current : Option VersionInfo
  fetched : List (String × Bytes)
  files : Table String Bytes

def Seen.start : Seen where
  current := none
  fetched := []
  files := ∅

def Seen.next (s : Seen) : (call : Call) -> call.Answer -> Seen
  | .svcVersionInfo => fun answer : EResult VersionInfo => { s with current := answer.toOption }
  | .fetch url => fun answer : EResult Bytes =>
    match answer with
    | .ok data => { s with fetched := (url, data) :: s.fetched }
    | .error _ => s
  | .openFile dest => fun answer : EResult Unit =>
    match answer with
    | .ok _ => { s with files := s.files.insert dest [] }
    | .error _ => s
  | .writeChunk dest chunk => fun answer : EResult Unit =>
    match answer with
    | .ok _ => { s with files := s.files.insert dest ((s.files.lookup dest).getD [] ++ chunk) }
    | .error _ => s
  | _ => fun _ => s

lemma Seen.next_writeChunk {s : Seen} (chunk : Bytes) (h : s.files.lookup dest = some data) :
    s.next (.writeChunk dest chunk) (.ok ()) =
      { s with files := s.files.insert dest (data ++ chunk) } := by
  change Seen.mk s.current s.fetched
    (s.files.insert dest ((s.files.lookup dest).getD [] ++ chunk)) = _
  rw [h, Option.getD_some]

/-- The script of a newer build than the node has, for which the server has sent a manifest, and
both files are as the manifest says and acceptable under their names. -/
def MayStart (Acceptable : String -> Bytes -> Prop) (s : Seen) (script : String) : Prop :=
  exists current data manifest, s.current = some current ∧
    (manifestUrl opts manifest.versionInfo, data) ∈ s.fetched ∧
    Manifest.fromSlice env data = .ok manifest ∧
    current.build < manifest.versionInfo.build ∧
    script = updateScript manifest.versionInfo ∧
    forall file, file ∈ [script, distro env manifest.versionInfo] ->
      exists content, s.files.lookup file = some content ∧
        manifest.Lists env file content ∧ Acceptable file content

/-- The server answers anything, the key is the one that was installed with the node, and the
script is started only as described. -/
def updateRules (key : Bytes) (Acceptable : String -> Bytes -> Prop) :
    Dialog.Rules Call Call.Answer Seen where
  answers := fun call =>
    match call with
    | .readPubKey => fun answer : Except String Bytes => forall k, answer = .ok k -> k = key
    | _ => fun _ => True
  allowed := fun s call =>
    match call with
    | .startScript script _ _ => MayStart env opts Acceptable s script
    | _ => True
  next := Seen.next

end

/-- The steps of the command that neither store a file nor start the script. -/
def Plain : Call -> Prop
  | .svcVersionInfo => False
  | .openFile _ => False
  | .writeChunk _ _ => False
  | .startScript _ _ _ => False
  | _ => True

structure Grows (s s' : Seen) : Prop where
  current : s'.current = s.current
  fetched : s.fetched ⊆ s'.fetched
  files : s'.files = s.files

structure OnlyFile (dest : String) (s s' : Seen) : Prop where
  current : s'.current = s.current
  fetched : s'.fetched = s.fetched
  files : forall f, f ≠ dest -> s'.files.lookup f = s.files.lookup f

lemma Grows.refl : Grows s s :=
  ⟨rfl, fun _ h => h, rfl⟩

lemma Grows.next (h : Grows s s') (hcall : Plain call) (a : call.Answer) :
    Grows s (s'.next call a) := by
  cases call with
  | svcVersionInfo | openFile | writeChunk | startScript => exact hcall.elim
  | fetch url =>
    cases a with
    | ok data => exact ⟨h.current, fun x hx => List.mem_cons_of_mem _ (h.fetched hx), h.files⟩
    | error e => exact h
  | _ => exact h

lemma OnlyFile.trans (h : OnlyFile dest s s') (h' : OnlyFile dest s' s'') :
    OnlyFile dest s s'' where
  current := h'.current.trans h.current
  fetched := h'.fetched.trans h.fetched
  files := fun f hf => (h'.files f hf).trans (h.files f hf)

lemma OnlyFile.insert (dest : String) (s : Seen) (data : Bytes) :
    OnlyFile dest s { s with files := s.files.insert dest data } where
  current := rfl
  fetched := rfl
  files := fun f hf => by rw [Table.lookup_insert_if, if_neg hf]

section Rules

variable {env : Env} {key : Bytes}

lemma plain_follows {d : Io R} (h : d.Asks (updateRules env opts key Acceptable).answers Plain) :
    d.Follows (updateRules env opts key Acceptable) (fun s' _ => Grows s s') s := by
  apply Follows.of_asks_invariant (I := Grows s) h
  · intro s' call _ hcall
    cases call with
    | startScript script url sfx => exact hcall.elim
    | _ => trivial
  · intro s' call a hs hcall
    exact hs.next hcall a
  · exact Grows.refl

lemma request_plain (h : Plain call) :
    (Dialog.request call : Io call.Answer).Asks (updateRules env opts key Acceptable).answers
      Plain :=
  Asks.request h

lemma fetch_plain : (fetch url).Asks (updateRules env opts key Acceptable).answers Plain :=
  Asks.bind (request_plain (show Plain (.fetch url) from trivial)) fun _ => Asks.lift

lemma newVersion_plain :
    (newVersion env opts).Asks (updateRules env opts key Acceptable).answers Plain := by
  refine Asks.bind (request_plain (show Plain (.envVar _) from trivial)) fun forced => ?_
  cases forced with
  | some ver => exact Asks.lift
  | none => exact Asks.bind fetch_plain fun res => Asks.lift

lemma takeLock_plain : takeLock.Asks (updateRules env opts key Acceptable).answers Plain := by
  refine Asks.bind (request_plain (show Plain .lockExists from trivial)) fun found => ?_
  cases found with
  | true => exact Asks.fail _
  | false =>
    exact Asks.bind (request_plain (show Plain .createLock from trivial)) fun answer =>
      Asks.lift

lemma showUpdateInfo_plain :
    (showUpdateInfo env opts new).Asks (updateRules env opts key Acceptable).answers Plain := by
  refine Asks.bind fetch_plain fun res => ?_
  cases fromUtf8 res with
  | some text => exact Asks.ret ()
  | none => exact Asks.fail _

lemma askConfirmation_plain :
    (askConfirmation env opts current new).Asks (updateRules env opts key Acceptable).answers
      Plain := by
  unfold askConfirmation
  split
  · exact Asks.ret ()
  · refine Asks.bind ?_ fun _ =>
      Asks.bind (request_plain (show Plain .confirm from trivial)) fun _ => Asks.lift
    split
    · exact showUpdateInfo_plain
    · exact Asks.ret ()

theorem fetchManifest_follows :
    (fetchManifest env opts v).Follows (updateRules env opts key Acceptable)
      (fun s' r => Grows s s' ∧ forall m, r = .ok m -> exists data sent,
        (manifestUrl opts v, data) ∈ s'.fetched ∧ Manifest.fromSlice env data = .ok sent ∧
          sent.versionInfo = v ∧ m = sent.setPubKey key) s := by
  refine ⟨trivial, ?_⟩
  intro fetched _
  cases fetched with
  | error e => exact ⟨Grows.refl, nofun⟩
  | ok data =>
    have hgrows : Grows s (s.next (.fetch (manifestUrl opts v)) (.ok data)) :=
      Grows.refl.next (show Plain (.fetch _) from trivial) _
    change Follows _ _ (Dialog.lift (Manifest.fromSlice env data) >>= _) _
    cases hsent : Manifest.fromSlice env data with
    | error e => exact ⟨hgrows, nofun⟩
    | ok sent =>
      change Follows _ _ (if sent.versionInfo ≠ v then _ else _) _
      by_cases hv : sent.versionInfo = v
      · rw [if_neg (not_not_intro hv)]
        refine ⟨trivial, ?_⟩
        intro read hread
        cases read with
        | error e => exact ⟨hgrows, nofun⟩
        | ok k =>
          refine ⟨hgrows, ?_⟩
          intro m hm
          have hk : k = key := hread k rfl
          exact ⟨data, sent, List.mem_cons_self, hsent, hv, by rw [← Except.ok.inj hm, hk]⟩
      · rw [if_pos hv]
        exact ⟨hgrows, nofun⟩

lemma writeChunks_follows (dest : String) (chunks : List (EResult Bytes)) (data : Bytes) (s : Seen)
    (hs : s.files.lookup dest = some data) :
    (writeChunks dest chunks data).Follows (updateRules env opts key Acceptable)
      (fun s' r => forall all, r = .ok all ->
        OnlyFile dest s s' ∧ s'.files.lookup dest = some all) s := by
  induction chunks generalizing data s with
  | nil =>
    intro all hall
    cases hall
    exact ⟨⟨rfl, rfl, fun _ _ => rfl⟩, hs⟩
  | cons chunk chunks ih =>
    cases chunk with
    | error e => exact nofun
    | ok chunk =>
      refine ⟨trivial, ?_⟩
      intro written _
      cases written with
      | error e => exact nofun
      | ok _ =>
        have hnext := Seen.next_writeChunk chunk hs
        have hstored : (Seen.next s (.writeChunk dest chunk) (.ok ())).files.lookup dest =
            some (data ++ chunk) := by
          rw [hnext, Table.lookup_insert_if, if_pos rfl]
        have hrest := ih (data ++ chunk) (Seen.next s (.writeChunk dest chunk) (.ok ())) hstored
        have hfile : OnlyFile dest s (Seen.next s (.writeChunk dest chunk) (.ok ())) := by
          exact OnlyFile.insert dest s _
        exact Follows.mono hrest fun s' r h all hall =>
          ⟨hfile.trans (h all hall).left, (h all hall).right⟩

def Stored (env : Env) (m : Manifest) (key : Bytes) (dest : String) (s : Seen) : Prop :=
  exists content signature, s.files.lookup dest = some content ∧ m.Lists env dest content ∧
    env.rsaVerify (env.sha256 content) key signature = true

lemma storeBody_follows (hm : m.pubKey = some key) :
    (storeBody env (some m) dest res).Follows (updateRules env opts key Acceptable)
      (fun s' r => r = .ok () -> OnlyFile dest s s' ∧ Stored env m key dest s') s := by
  refine ⟨trivial, ?_⟩
  intro opened _
  cases opened with
  | error e => exact nofun
  | ok _ =>
    have hopen : ({ s with files := s.files.insert dest [] } : Seen).files.lookup dest =
        some [] := by
      rw [Table.lookup_insert_if, if_pos rfl]
    change Follows _ _ (writeChunks dest res.chunks [] >>= _)
      { s with files := s.files.insert dest [] }
    refine Follows.bind (writeChunks_follows dest res.chunks [] _ hopen) ?_ ?_
    · intro s' data hdata
      rcases hdata data rfl with ⟨hfile, hlookup⟩
      apply Follows.lift
      intro hverify
      rcases Manifest.verify_ok hm hverify with ⟨hlists, signature, hsignature⟩
      exact ⟨(OnlyFile.insert dest s []).trans hfile, data, signature, hlookup, hlists, hsignature⟩
    · intro s' e _
      exact nofun

lemma checkedManifest_ok (h : checkedManifest env (some m) dest true = .ok checked) :
    checked = some m := by
  unfold checkedManifest Manifest.contains at h
  cases hf : env.fileName dest with
  | none => simp [hf, bind, Except.bind] at h
  | some f =>
    cases hentry : (m.content.lookup f).isSome with
    | false => simp [hf, hentry, bind, Except.bind] at h
    | true =>
      simp only [hf, hentry, if_true, bind, Except.bind] at h
      exact (Except.ok.inj h).symm

lemma downloadFile_follows (hm : m.pubKey = some key) :
    (downloadFile env opts m v file).Follows (updateRules env opts key Acceptable)
      (fun s' r => r = .ok () -> OnlyFile file s s' ∧ Stored env m key file s') s := by
  unfold downloadFile safeDownload
  cases hchecked : checkedManifest env (some m) file true with
  | error e => exact nofun
  | ok checked =>
    rw [checkedManifest_ok hchecked]
    refine ⟨trivial, ?_⟩
    intro answer _
    cases answer with
    | error e => exact nofun
    | ok res =>
      change Follows _ _ (if res.code = 200 then _ else _) s
      by_cases hcode : res.code = 200
      · rw [if_pos hcode]
        exact storeBody_follows hm
      · rw [if_neg hcode]
        exact nofun

end Rules

/-- The two files have different names, whatever the server says. -/
theorem updateScript_ne_distro : updateScript v ≠ distro env v := by
  intro h
  have htext : "update-" ++ toString v.build ++ ".sh" =
      "eva-" ++ v.version ++ "-" ++ toString v.build ++ "-" ++ env.archSfx ++ ".tgz" := h
  have hlast := congrArg (fun name => name.toList.getLast?) htext
  simp only [String.toList_append, List.getLast?_append] at hlast
  simp at hlast

/-!
## Updates
-/

section Update

variable {env : Env} {opts : Options} {key : Bytes}

lemma startUpdate_follows (h : MayStart env opts Acceptable s (updateScript v)) :
    (startUpdate env opts v).Follows (updateRules env opts key Acceptable) (fun _ _ => True) s := by
  refine ⟨h, ?_⟩
  intro started _
  cases started with
  | error e => trivial
  | ok _ =>
    refine ⟨trivial, ?_⟩
    intro waited _
    cases waited with
    | error e => trivial
    | ok code =>
      change Follows _ _ (if code.getD 0 = 0 then _ else _) s
      split
      · trivial
      · refine ⟨trivial, ?_⟩
        intro restarted _
        cases restarted with
        | error | ok => trivial

lemma updateTo_follows (haccept : forall file content signature,
      env.rsaVerify (env.sha256 content) key signature = true -> Acceptable file content)
    (hbuild : current.build < new.build) {s : Seen} (hs : s.current = some current) :
    (updateTo env opts current new).Follows (updateRules env opts key Acceptable)
      (fun _ _ => True) s := by
  refine Follows.bind (plain_follows takeLock_plain) ?_ fun _ _ _ => trivial
  intro s1 _ hlock
  refine Follows.bind fetchManifest_follows ?_ fun _ _ _ => trivial
  intro s2 m hmanifest
  rcases hmanifest with ⟨hgrows, hm⟩
  rcases hm m rfl with ⟨data, sent, hdata, hsent, hversion, hm⟩
  refine Follows.bind (plain_follows askConfirmation_plain) ?_
    fun _ _ _ => trivial
  intro s3 _ hconfirm
  refine ⟨trivial, ?_⟩
  intro entered _
  cases entered with
  | error e => trivial
  | ok _ =>
    have hkey : m.pubKey = some key := by
      rw [hm]
      rfl
    change Follows _ _ (downloadFile env opts m new (updateScript new) >>= _) s3
    refine Follows.bind (downloadFile_follows hkey) ?_ fun _ _ _ => trivial
    intro s4 _ hscript
    refine Follows.bind (downloadFile_follows hkey) ?_ fun _ _ _ => trivial
    intro s5 _ hdistro
    rcases hscript rfl with
      ⟨honly4, scriptContent, scriptSig, hscriptFile, hscriptLists, hscriptSig⟩
    rcases hdistro rfl with
      ⟨honly5, distroContent, distroSig, hdistroFile, hdistroLists, hdistroSig⟩
    apply startUpdate_follows
    have hcurrent : s5.current = some current := by
      rw [honly5.current, honly4.current, hconfirm.current, hgrows.current, hlock.current, hs]
    have hfetched : (manifestUrl opts new, data) ∈ s5.fetched := by
      rw [honly5.fetched, honly4.fetched]
      exact hconfirm.fetched hdata
    rw [hm] at hscriptLists hdistroLists
    refine ⟨current, data, sent, hcurrent, ?_, hsent, ?_, ?_, ?_⟩
    · rw [hversion]
      exact hfetched
    · rw [hversion]
      exact hbuild
    · rw [hversion]
    · intro file hfile
      rw [hversion] at hfile
      rcases List.mem_pair.mp hfile with hfile | hfile
      · rw [hfile]
        refine ⟨scriptContent, ?_, hscriptLists, haccept _ _ _ hscriptSig⟩
        -- the second download leaves the script as it is
        rw [honly5.files _ updateScript_ne_distro]
        exact hscriptFile
      · rw [hfile]
        exact ⟨distroContent, hdistroFile, hdistroLists, haccept _ _ _ hdistroSig⟩

/-- Whatever the server sends, the script is started only if the signer has signed the contents
of the script and of the distribution, the manifest that the server has sent for that version
lists both of them, and the build is newer than the node's.  Under which names they were signed
is not known. -/
theorem update_starts_signed_contents {signed : String -> Bytes -> Prop}
    (hverify : forall digest signature, env.rsaVerify digest key signature = true ->
      exists name content, signed name content ∧ env.sha256 content = digest)
    (hsha256 : Function.Injective env.sha256) : (update env opts).Follows
      (updateRules env opts key fun _ content => exists name, signed name content)
      (fun _ _ => True) Seen.start := by
  have haccept : forall (file : String) content signature,
      env.rsaVerify (env.sha256 content) key signature = true ->
        exists name, signed name content := by
    intro file content signature h
    rcases hverify _ _ h with ⟨name, content', hsigned, hdigest⟩
    rw [hsha256 hdigest] at hsigned
    exact ⟨name, hsigned⟩
  refine ⟨trivial, ?_⟩
  intro answer _
  cases answer with
  | error e => trivial
  | ok current =>
    change Follows _ _ (newVersion env opts >>= _)
      { Seen.start with current := some current }
    refine Follows.bind (plain_follows newVersion_plain) ?_ fun _ _ _ => trivial
    intro s new hgrows
    split
    · trivial
    · by_cases hbuild : current.build < new.build
      · rw [if_pos hbuild]
        exact updateTo_follows haccept hbuild hgrows.current
      · rw [if_neg hbuild]
        trivial

end Update

/-!
A server that has the script of build 1, and the distribution of build 5 which it offers.  The
manifest for build 5 has the older script under the name of the newer one.
-/

namespace Sample

def olderScript : Bytes :=
  List.replicate 32 1

def archive : Bytes :=
  List.replicate 32 2

inductive Signed : String -> Bytes -> Prop where
  | olderScript : Signed "update-1.sh" olderScript
  | archive : Signed "eva-4.1-5-x86_64.tgz" archive

def offered : VersionInfo where
  build := 5
  version := "4.1"

def manifest : RawManifest where
  versionInfo := offered
  content := [
    ("update-5.sh", { size := 32, sha256 := "01", signature := "" }),
    ("eva-4.1-5-x86_64.tgz", { size := 32, sha256 := "02", signature := "" })]

def env : Env where
  jsonVersion := fun _ => .ok offered
  jsonManifest := fun _ => .ok manifest
  jsonError := failure .invalidData
  hexDecode := fun s => .ok (if s = "01" then olderScript else archive)
  base64Decode := fun _ => .ok []
  sha256 := id
  rsaVerify := fun digest _ _ => digest = olderScript ∨ digest = archive
  fileName := some
  parseBuild := fun _ => .error (failure .invalidData "invalid digit found in string")
  errorText := Error.message
  utf8Error := failure .invalidData "invalid utf-8 sequence"
  archSfx := "x86_64"

def opts : Options where
  repositoryUrl := "https://repository"
  yes := true
  infoOnly := false
  test := false

def response (content : Bytes) : Response where
  code := 200
  status := "200 OK"
  chunks := [.ok content]

lemma rsaVerify_signed (key digest signature : Bytes)
    (h : env.rsaVerify digest key signature = true) :
    exists name content, Signed name content ∧ env.sha256 content = digest := by
  rcases of_decide_eq_true h with h | h
  · exact ⟨_, _, Signed.olderScript, h.symm⟩
  · exact ⟨_, _, Signed.archive, h.symm⟩

lemma not_signed_offered : ¬ Signed (updateScript offered) content := by
  have hnames : forall {name : String}, Signed name content ->
      name = "update-1.sh" ∨ name = "eva-4.1-5-x86_64.tgz" := by
    intro name h
    cases h with
    | olderScript => exact Or.inl rfl
    | archive => exact Or.inr rfl
  intro h
  exact absurd (hnames h) (by decide)

end Sample

theorem sample_starts_signed_contents : (update Sample.env Sample.opts).Follows
      (updateRules Sample.env Sample.opts [] fun _ content =>
        exists name, Sample.Signed name content) (fun _ _ => True) Seen.start :=
  update_starts_signed_contents (Sample.rsaVerify_signed []) Function.injective_id

/-- The script of build 1 is started as the one of build 5. -/
theorem older_script_started : ¬ (update Sample.env Sample.opts).Follows
      (updateRules Sample.env Sample.opts [] Sample.Signed) (fun _ _ => True) Seen.start := by
  intro h
  have hversion := (h.right (.ok { build := 1, version := "4.1" }) trivial).right none trivial
  have hlock := ((hversion.right (.ok []) trivial).right false trivial).right (.ok ()) trivial
  have hmanifest := (hlock.right (.ok []) trivial).right (.ok [])
    fun k hk => (Except.ok.inj hk).symm
  have hentered := hmanifest.right (.ok ()) trivial
  have hscript := ((hentered.right (.ok (Sample.response Sample.olderScript)) trivial).right
    (.ok ()) trivial).right (.ok ()) trivial
  have hdistro := ((hscript.right (.ok (Sample.response Sample.archive)) trivial).right
    (.ok ()) trivial).right (.ok ()) trivial
  rcases hdistro.left with ⟨_, _, _, _, _, _, _, _, hfiles⟩
  rcases hfiles _ List.mem_cons_self with ⟨content, _, _, hsigned⟩
  exact Sample.not_signed_offered hsigned

end Eva4.CloudManager
