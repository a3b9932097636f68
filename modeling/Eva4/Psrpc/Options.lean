import Eva4.Lib.Bytes

/-!
# Options of a message

How the payload of a message is compressed and encrypted, and the byte that says so.  The
ciphers, the hash and the compression are those of other libraries: they are parameters, and
what is expected of them is `Crypto.Lawful`.
-/

namespace Eva4.Psrpc

open Lib

/-!
## Errors
-/

/-- The kinds of errors, with the numbers that stand for them in a message. -/
class ErrorKinds (K : Type) where
  invalidData : K
  io : K
  accessDenied : K
  code : K -> BitVec 16
  ofCode : BitVec 16 -> K
  ofCode_code : forall kind, ofCode (code kind) = kind

structure Error (K : Type) where
  kind : K
  message : Option String
deriving DecidableEq, Repr

abbrev EResult (K A : Type) : Type :=
  Except (Error K) A

variable {K : Type} [ErrorKinds K]

namespace Error

def invalidData (message : String) : Error K where
  kind := ErrorKinds.invalidData
  message := some message

def io (message : String) : Error K where
  kind := ErrorKinds.io
  message := some message

def access (message : String) : Error K where
  kind := ErrorKinds.accessDenied
  message := some message

end Error

def strFromUtf8 (bytes : Bytes) : EResult K String :=
  match fromUtf8 bytes with
  | some s => .ok s
  | none => .error (.invalidData "invalid utf-8 sequence")

@[simp]
lemma strFromUtf8_asBytes : strFromUtf8 (asBytes s) = (.ok s : EResult K String) := by
  rw [strFromUtf8, fromUtf8_asBytes]

/-!
## Ciphers, hash and compression
-/

inductive Cipher where
  | aes128Gcm
  | aes256Gcm
deriving DecidableEq, Repr

def Cipher.keyLen : Cipher -> Nat
  | aes128Gcm => 16
  | aes256Gcm => 32

abbrev Nonce : Type :=
  Vector UInt8 12

abbrev Digest : Type :=
  Vector UInt8 16

structure Crypto where
  sha256 : Bytes -> Vector UInt8 32
  compress : Bytes -> Except String Bytes
  decompress : Bytes -> Except String Bytes
  /-- The encrypted data and its tag, for a key and a nonce. -/
  encryptAead : Cipher -> Bytes -> Nonce -> Bytes -> Except String (Bytes × Digest)
  /-- The data, for a key, a nonce, the encrypted data and the tag. -/
  decryptAead : Cipher -> Bytes -> Bytes -> Bytes -> Bytes -> Except String Bytes

variable (crypto : Crypto)

/-- Compression and encryption succeed and are undone. -/
structure Crypto.Lawful : Prop where
  decompress_compress : forall data, exists small,
    crypto.compress data = .ok small ∧ crypto.decompress small = .ok data
  decrypt_encrypt : forall (cipher : Cipher) (key : Bytes) (iv : Nonce) (data : Bytes),
    key.length = cipher.keyLen -> exists buf digest,
      crypto.encryptAead cipher key iv data = .ok (buf, digest) ∧
      crypto.decryptAead cipher key iv.toList buf digest.toList = .ok data

structure Packing (A : Type) where
  pack : A -> Except String Bytes
  unpack : Bytes -> Except String A

/-- Packing succeeds and is undone, and packs nothing into no bytes. -/
structure Packing.Lawful {A : Type} (packing : Packing A) : Prop where
  unpack_pack : forall a, exists data,
    packing.pack a = .ok data ∧ data ≠ [] ∧ packing.unpack data = .ok a

/-!
## Options
-/

inductive Encryption where
  | no
  | aes128Gcm
  | aes256Gcm
deriving DecidableEq, Repr

inductive Compression where
  | no
  | bzip2
deriving DecidableEq, Repr

namespace Encryption

def code : Encryption -> UInt8
  | no => 0
  | aes128Gcm => 1
  | aes256Gcm => 2

def tryFrom (code : UInt8) : EResult K Encryption :=
  if code = 0 then .ok no
  else if code = 1 then .ok aes128Gcm
  else if code = 2 then .ok aes256Gcm
  else .error (.invalidData ("invaid encryption type code: " ++ toString code))

def cipher : Encryption -> Option Cipher
  | no => none
  | aes128Gcm => some .aes128Gcm
  | aes256Gcm => some .aes256Gcm

def keyHash (value : String) : Encryption -> Option Bytes
  | no => none
  | aes128Gcm => some ((crypto.sha256 (asBytes value)).toList.take 16)
  | aes256Gcm => some (crypto.sha256 (asBytes value)).toList

lemma length_keyHash (encryption : Encryption) :
    (encryption.keyHash crypto value).map List.length = encryption.cipher.map Cipher.keyLen := by
  cases encryption with
  | no => rfl
  | aes128Gcm | aes256Gcm => simp [keyHash, cipher, Cipher.keyLen]

end Encryption

namespace Compression

def code : Compression -> UInt8
  | no => 0
  | bzip2 => 1

def tryFrom (code : UInt8) : EResult K Compression :=
  if code = 0 then .ok no
  else if code = 1 then .ok bzip2
  else .error (.invalidData ("invaid compression type code: " ++ toString code))

end Compression

def parseFlags (flags : UInt8) : EResult K (Encryption × Compression) := do
  let encryption <- Encryption.tryFrom (flags &&& 0b1111)
  let compression <- Compression.tryFrom ((flags >>> 4) &&& 0b11)
  return (encryption, compression)

structure EncryptionKey where
  id : String
  value : String

/-- There is a key, of the length the cipher needs, if and only if there is a cipher. -/
@[ext]
structure Options where
  encryption : Encryption
  compression : Compression
  keyId : Option String
  keyHash : Option Bytes
  named : keyId.isSome = encryption.cipher.isSome
  keyed : keyHash.map List.length = encryption.cipher.map Cipher.keyLen

namespace Options

def new : Options where
  encryption := .no
  compression := .no
  keyId := none
  keyHash := none
  named := rfl
  keyed := rfl

def withEncryption (encryption : Encryption) (key : EncryptionKey) (opts : Options) : Options where
  encryption := encryption
  compression := opts.compression
  keyId := encryption.cipher.map fun _ => key.id
  keyHash := encryption.keyHash crypto key.value
  named := by
    rw [Option.isSome_map]
  keyed := encryption.length_keyHash crypto

def withCompression (compression : Compression) (opts : Options) : Options :=
  { opts with compression := compression }

def flags (opts : Options) : UInt8 :=
  (opts.compression.code <<< 4) + opts.encryption.code

lemma parseFlags_flags (opts : Options) :
    parseFlags opts.flags = (.ok (opts.encryption, opts.compression) :
      EResult K (Encryption × Compression)) := by
  unfold flags
  cases opts.encryption <;> cases opts.compression <;> rfl

def key (opts : Options) {cipher : Cipher} (h : opts.encryption.cipher = some cipher) : Bytes :=
  opts.keyHash.get (by
    have hkeyed := opts.keyed
    rw [h] at hkeyed
    rw [← Option.isSome_map, hkeyed]
    rfl)

variable {opts : Options}

lemma keyId_of_no (h : opts.encryption = .no) : opts.keyId = none := by
  have hnamed := opts.named
  rw [h] at hnamed
  exact Option.isSome_eq_false_iff.mp hnamed |> Option.isNone_iff_eq_none.mp

lemma keyId_of_cipher (h : opts.encryption ≠ .no) : exists id, opts.keyId = some id := by
  apply Option.isSome_iff_exists.mp
  rw [opts.named]
  cases henc : opts.encryption with
  | no => exact absurd henc h
  | aes128Gcm | aes256Gcm => rfl

lemma rebuild_plain (h : opts.encryption = .no) : new.withCompression opts.compression = opts := by
  have hkeyed := opts.keyed
  rw [h] at hkeyed
  have hhash : opts.keyHash = none := Option.map_eq_none_iff.mp hkeyed
  apply Options.ext
  · exact h.symm
  · rfl
  · exact (keyId_of_no h).symm
  · exact hhash.symm

variable {crypto} in
lemma rebuild_encrypted {id : String} (hid : opts.keyId = some id)
    (hhash : opts.encryption.keyHash crypto value = opts.keyHash) :
    (new.withCompression opts.compression).withEncryption crypto opts.encryption
      { id := id, value := value } = opts := by
  have hnamed := opts.named
  rw [hid] at hnamed
  rcases Option.isSome_iff_exists.mp hnamed.symm with ⟨cipher, hcipher⟩
  apply Options.ext
  · rfl
  · rfl
  · show opts.encryption.cipher.map (fun _ => id) = opts.keyId
    rw [hid, hcipher]
    rfl
  · exact hhash

end Options

/-!
## Payloads
-/

def ioErr {A : Type} : Except String A -> EResult K A
  | .ok a => .ok a
  | .error text => .error (.io text)

/-- The tag and the nonce stand after the encrypted data. -/
def encrypt (cipher : Cipher) (key : Bytes) (iv : Nonce) (data : Bytes) : EResult K Bytes := do
  let (buf, digest) <- ioErr (crypto.encryptAead cipher key iv data)
  return buf ++ digest.toList ++ iv.toList

def decrypt (cipher : Cipher) (key payload : Bytes) : EResult K Bytes :=
  let len := payload.length
  if len < 28 then .error (.invalidData "invalid payload")
  else
    let iv := payload.drop (len - 12)
    let encpl := payload.take (len - 28)
    let digest := (payload.take (len - 12)).drop (len - 28)
    ioErr (crypto.decryptAead cipher key iv encpl digest)

def Compression.shrink (payload : Bytes) : Compression -> EResult K Bytes
  | .no => .ok payload
  | .bzip2 => ioErr (crypto.compress payload)

def Compression.expand (data : Bytes) : Compression -> EResult K Bytes
  | .no => .ok data
  | .bzip2 => ioErr (crypto.decompress data)

namespace Options

def close (iv : Nonce) (opts : Options) (data : Bytes) : EResult K Bytes :=
  match h : opts.encryption.cipher with
  | none => .ok data
  | some cipher => encrypt crypto cipher (opts.key h) iv data

def disclose (opts : Options) (payload : Bytes) : EResult K Bytes :=
  match h : opts.encryption.cipher with
  | none => .ok payload
  | some cipher => decrypt crypto cipher (opts.key h) payload

def packPayload (iv : Nonce) (opts : Options) (payload : Bytes) : EResult K Bytes := do
  let data <- opts.compression.shrink crypto payload
  opts.close crypto iv data

def unpackPayload (opts : Options) (message : Bytes) (payloadPos : Nat) : EResult K Bytes := do
  if message.length < payloadPos then .error (.invalidData "message too short")
  else
    let data <- opts.disclose crypto (message.drop payloadPos)
    opts.compression.expand crypto data

lemma length_key (opts : Options) (h : opts.encryption.cipher = some cipher) :
    (opts.key h).length = cipher.keyLen := by
  have hkeyed := opts.keyed
  have hkey : opts.keyHash = some (opts.key h) := (Option.some_get _).symm
  rw [hkey, h] at hkeyed
  injection hkeyed

end Options

variable {crypto} in
lemma length_encrypt (h : encrypt crypto cipher key iv data = (.ok sealed : EResult K Bytes)) :
    28 <= sealed.length := by
  cases haead : crypto.encryptAead cipher key iv data with
  | error text =>
    rw [encrypt, haead] at h
    cases h
  | ok out =>
    rw [encrypt, haead] at h
    cases h
    simp only [List.length_append, Vector.length_toList]
    omega

variable {crypto} in
theorem decrypt_encrypt (hcrypto : crypto.Lawful) (hkey : key.length = cipher.keyLen) :
    exists sealed, encrypt crypto cipher key iv data = (.ok sealed : EResult K Bytes) ∧
      decrypt crypto cipher key sealed = (.ok data : EResult K Bytes) := by
  rcases hcrypto.decrypt_encrypt cipher key iv data hkey with ⟨buf, digest, henc, hdec⟩
  refine ⟨buf ++ digest.toList ++ iv.toList, ?_, ?_⟩
  · rw [encrypt, henc]
    rfl
  · have hlen : (buf ++ digest.toList ++ iv.toList).length = buf.length + 28 := by
      simp only [List.length_append, Vector.length_toList]
    have hiv : (buf ++ digest.toList ++ iv.toList).drop (buf.length + 16) = iv.toList :=
      List.drop_left' (by simp only [List.length_append, Vector.length_toList])
    have hfront : (buf ++ digest.toList ++ iv.toList).take (buf.length + 16) =
        buf ++ digest.toList :=
      List.take_left' (by simp only [List.length_append, Vector.length_toList])
    have hbuf : (buf ++ digest.toList ++ iv.toList).take buf.length = buf := by
      rw [List.append_assoc]
      exact List.take_left
    have hdigest : (buf ++ digest.toList).drop buf.length = digest.toList := List.drop_left
    have hfit : ¬ buf.length + 28 < 28 := by omega
    have hpos : buf.length + 28 - 12 = buf.length + 16 := by omega
    simp only [decrypt, hlen, if_neg hfit, hpos, Nat.add_sub_cancel, hiv, hfront, hbuf, hdigest,
      hdec]
    rfl

variable {crypto} in
lemma Compression.expand_shrink (hcrypto : crypto.Lawful) (compression : Compression) :
    exists data, compression.shrink crypto payload = (.ok data : EResult K Bytes) ∧
      compression.expand crypto data = (.ok payload : EResult K Bytes) := by
  cases compression with
  | no => exact ⟨payload, rfl, rfl⟩
  | bzip2 =>
    rcases hcrypto.decompress_compress payload with ⟨small, hsmall, hback⟩
    refine ⟨small, ?_, ?_⟩
    · rw [shrink, hsmall]
      rfl
    · rw [expand, hback]
      rfl

variable {crypto} in
lemma Compression.length_shrink_lt
    (hbzip2 : forall data small, crypto.compress data = .ok small -> 2 <= small.length)
    {compression : Compression}
    (h : compression.shrink crypto payload = (.ok data : EResult K Bytes)) :
    data.length < 2 <-> compression = .no ∧ payload.length < 2 := by
  cases compression with
  | no =>
    injection h with hdata
    rw [hdata]
    exact ⟨fun hlt => ⟨rfl, hlt⟩, fun hboth => hboth.right⟩
  | bzip2 =>
    cases hsmall : crypto.compress payload with
    | error text =>
      rw [shrink, hsmall] at h
      cases h
    | ok small =>
      rw [shrink, hsmall] at h
      injection h with hdata
      have hlen := hbzip2 payload small hsmall
      rw [← hdata]
      constructor
      · intro hlt
        omega
      · intro hboth
        cases hboth.left

namespace Options

variable {crypto}

lemma disclose_close (hcrypto : crypto.Lawful) (opts : Options) :
    exists packed, opts.close crypto iv data = (.ok packed : EResult K Bytes) ∧
      opts.disclose crypto packed = (.ok data : EResult K Bytes) := by
  unfold close disclose
  split
  · exact ⟨data, rfl, rfl⟩
  · next cipher hcipher => exact decrypt_encrypt hcrypto (opts.length_key hcipher)

lemma unpackPayload_packPayload (hcrypto : crypto.Lawful) (opts : Options) :
    exists packed, opts.packPayload crypto iv payload = (.ok packed : EResult K Bytes) ∧
      forall header, opts.unpackPayload crypto (header ++ packed) header.length =
        (.ok payload : EResult K Bytes) := by
  rcases opts.compression.expand_shrink (K := K) hcrypto with ⟨data, hshrink, hexpand⟩
  rcases opts.disclose_close (K := K) hcrypto with ⟨packed, hclose, hdisclose⟩
  refine ⟨packed, ?_, ?_⟩
  · rw [packPayload, hshrink]
    exact hclose
  · intro header
    have hfit : ¬ (header ++ packed).length < header.length := by
      rw [List.length_append]
      omega
    rw [unpackPayload, if_neg hfit, List.drop_left, hdisclose]
    exact hexpand

lemma length_close_lt {opts : Options}
    (h : opts.close crypto iv data = (.ok packed : EResult K Bytes)) :
    packed.length < 2 <-> opts.encryption = .no ∧ data.length < 2 := by
  unfold close at h
  split at h
  · next hnone =>
    have hno : opts.encryption = .no := by
      cases henc : opts.encryption with
      | no => rfl
      | aes128Gcm | aes256Gcm =>
        rw [henc] at hnone
        cases hnone
    injection h with hdata
    rw [hdata]
    exact ⟨fun hlt => ⟨hno, hlt⟩, fun hboth => hboth.right⟩
  · next cipher hcipher =>
    have hlen := length_encrypt h
    constructor
    · intro hlt
      omega
    · intro hboth
      rw [hboth.left] at hcipher
      cases hcipher

theorem length_packPayload_lt
    (hbzip2 : forall data small, crypto.compress data = .ok small -> 2 <= small.length)
    {opts : Options} (h : opts.packPayload crypto iv payload = (.ok packed : EResult K Bytes)) :
    packed.length < 2 <-> opts.encryption = .no ∧ opts.compression = .no ∧ payload.length < 2 := by
  rw [packPayload] at h
  cases hshrink : (opts.compression.shrink crypto payload : EResult K Bytes) with
  | error e =>
    rw [hshrink] at h
    cases h
  | ok data =>
    rw [hshrink] at h
    rw [length_close_lt h, Compression.length_shrink_lt hbzip2 hshrink]

end Options

/-!
## Slices

Reading a payload once more, with the slices and the key taken as the source takes them: where it
would panic there is no result.
-/

def slice? (data : Bytes) (first last : Nat) : Option Bytes :=
  if first <= last ∧ last <= data.length then some ((data.take last).drop first) else none

def decrypt? (cipher : Cipher) (key payload : Bytes) : Option (EResult K Bytes) :=
  let len := payload.length
  if len < 28 then some (.error (.invalidData "invalid payload"))
  else do
    let iv <- slice? payload (len - 12) len
    let encpl <- slice? payload 0 (len - 28)
    let digest <- slice? payload (len - 28) (len - 12)
    return ioErr (crypto.decryptAead cipher key iv encpl digest)

variable (opts : Options)

def Options.disclose? (payload : Bytes) : Option (EResult K Bytes) :=
  match opts.encryption.cipher with
  | none => some (.ok payload)
  | some cipher => opts.keyHash.bind fun key => decrypt? crypto cipher key payload

def Options.unpackPayload? (message : Bytes) (payloadPos : Nat) : Option (EResult K Bytes) :=
  if message.length < payloadPos then some (.error (.invalidData "message too short"))
  else do
    let payload <- slice? message payloadPos message.length
    let data <- opts.disclose? crypto payload
    return data.bind fun d => opts.compression.expand crypto d

lemma slice?_of_le (hfirst : first <= last) (hlast : last <= data.length) :
    slice? data first last = some ((data.take last).drop first) :=
  if_pos ⟨hfirst, hlast⟩

lemma decrypt?_eq :
    decrypt? crypto cipher key payload =
      (some (decrypt crypto cipher key payload) : Option (EResult K Bytes)) := by
  unfold decrypt? decrypt
  dsimp only
  split
  · rfl
  · rw [slice?_of_le (by omega) (by omega), slice?_of_le (by omega) (by omega),
      slice?_of_le (by omega) (by omega), List.take_length]
    rfl

lemma Options.disclose?_eq (payload : Bytes) : opts.disclose? crypto payload =
      (some (opts.disclose crypto payload) : Option (EResult K Bytes)) := by
  unfold disclose
  split
  · next hcipher => rw [disclose?, hcipher]
  · next cipher hcipher =>
    have hkey : opts.keyHash = some (opts.key hcipher) := (Option.some_get _).symm
    generalize opts.key hcipher = key at hkey ⊢
    rw [disclose?, hcipher, hkey]
    exact decrypt?_eq crypto

/-- No position makes the reading of a payload panic. -/
lemma Options.unpackPayload?_eq (message : Bytes) (payloadPos : Nat) :
    opts.unpackPayload? crypto message payloadPos =
      (some (opts.unpackPayload crypto message payloadPos) : Option (EResult K Bytes)) := by
  unfold unpackPayload? unpackPayload
  split
  · rfl
  · rw [slice?_of_le (by omega) (by omega), List.take_length, Option.bind_eq_bind, Option.bind_some,
      disclose?_eq]
    rfl

end Eva4.Psrpc
