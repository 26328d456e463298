import SdkInternal.Model.Crypto.KeyStore
import SdkInternal.Model.Crypto.LegacyStream
import SdkInternal.Shared.AsyncIo

/-! # Reading and writing attachments

A reader that decrypts what it reads from another reader, and a writer that encrypts what it
is given and writes it to another writer. The first byte of the stream names the format.

A poll of the reader is a loop. Its model is given a number of rounds and has no result if
the loop has not returned by then; it has none either where the source panics. -/

namespace SdkInternal.Crypto

open Shared

/-- `foreign` stands for the kinds that only inner readers and writers return. -/
inductive IoErrorKind where
  | other
  | writeZero
  | foreign (code : ℕ)
  deriving DecidableEq

structure IoError where
  kind : IoErrorKind
  message : String
  deriving DecidableEq

def IoError.other (message : String) : IoError := ⟨.other, message⟩

def streamDecryptionError : IoError := .other "streaming decryption failed"
def streamEncryptionError : IoError := .other "streaming encryption failed"

/-- `HeaderDiscriminator::Aes256CbcHmacLegacyStream`. -/
def legacyStreamDiscriminator : UInt8 := 0x02

def readScratchSize : ℕ := 8 * 1024

/-! ## Reader -/

inductive StreamDecryptorState where
  | needDiscriminator (key : SymmetricCryptoKey)
  | aes256CbcHmacLegacyStream (decryptor : StreamingDecryptor)
  | done
  | error

structure StreamingAttachmentDecryptor (ρ : Type) where
  inner : ρ
  state : StreamDecryptorState
  plaintextBuf : List UInt8
  innerEof : Bool

namespace StreamingAttachmentDecryptor

variable {ρ κ : Type}

def new [DecidableEq κ] [KeySlotId κ] (keySlot : κ) (ctx : KeyStoreContext κ) (inner : ρ) :
    Except CryptoError (StreamingAttachmentDecryptor ρ) := do
  match ← ctx.getSymmetricKey keySlot with
  | .aes256CbcHmacKey key =>
    .ok ⟨inner, .needDiscriminator (.aes256CbcHmacKey key), [], false⟩
  | _ => .error (.operationNotSupported .encryptionNotImplementedForKey)

def drainPlaintextInto (self : StreamingAttachmentDecryptor ρ) (remaining : ℕ) :
    Option (List UInt8 × StreamingAttachmentDecryptor ρ) :=
  let bytesToCopy := min remaining self.plaintextBuf.length
  if bytesToCopy = 0 then none
  else
    some (self.plaintextBuf.take bytesToCopy,
      { self with plaintextBuf := self.plaintextBuf.drop bytesToCopy })

variable (prims : Primitives)

/-- The part of `feed_bytes_to_decryptor` after the discriminator. -/
def feedDecryptor (self : StreamingAttachmentDecryptor ρ) (data : List UInt8) :
    Option (Except IoError Unit × StreamingAttachmentDecryptor ρ) :=
  if data.isEmpty then some (.ok (), self)
  else
    match self.state with
    | .aes256CbcHmacLegacyStream dec =>
      match dec.update prims data false with
      | (.needMoreData, dec) =>
        some (.ok (), { self with state := .aes256CbcHmacLegacyStream dec })
      | (.decryptedChunk bytes, dec) =>
        some (.ok (), { self with
          plaintextBuf := self.plaintextBuf ++ bytes
          state := .aes256CbcHmacLegacyStream dec })
      | (.finalDecryptedChunk bytes, _) =>
        some (.ok (), { self with
          plaintextBuf := self.plaintextBuf ++ bytes
          state := .done })
      | (.error, _) => some (.error streamDecryptionError, { self with state := .error })
      | (.panicked, _) => none
    | .error | .done => some (.ok (), self)
    | .needDiscriminator _ => none

/-- An unknown discriminator is an error that leaves the state as it is. -/
def feedBytesToDecryptor (self : StreamingAttachmentDecryptor ρ) (data : List UInt8) :
    Option (Except IoError Unit × StreamingAttachmentDecryptor ρ) :=
  match data, self.state with
  | [], _ => some (.ok (), self)
  | first :: rest, .needDiscriminator key =>
    if first ≠ legacyStreamDiscriminator then
      some (.error (.other "streaming attachment: unknown header discriminator byte"), self)
    else
      match StreamingDecryptor.tryNew key with
      | .error _ =>
        some (.error (.other "streaming attachment: key does not match discriminator 0x02"),
          self)
      | .ok decryptor =>
        feedDecryptor prims { self with state := .aes256CbcHmacLegacyStream decryptor } rest
  | data, _ => feedDecryptor prims self data

def finalizeUnderlying (self : StreamingAttachmentDecryptor ρ) :
    Option (Except IoError Unit × StreamingAttachmentDecryptor ρ) :=
  let failed := { self with state := .error }
  match self.state with
  | .needDiscriminator _ =>
    some (.error (.other "streaming attachment: truncated before discriminator"), failed)
  | .aes256CbcHmacLegacyStream dec =>
    match dec.update prims [] true with
    | (.finalDecryptedChunk bytes, _) =>
      some (.ok (), { self with
        plaintextBuf := self.plaintextBuf ++ bytes
        state := .done })
    | (.panicked, _) => none
    | _ => some (.error streamDecryptionError, failed)
  | .done => some (.ok (), self)
  | .error => some (.error (.other "streaming attachment: decryption error"), failed)

/-- One call with room for `remaining` bytes. -/
def pollRead (reader : AsyncRead IoError ρ) : ℕ → StreamingAttachmentDecryptor ρ → ℕ →
    Option (Poll (Except IoError (List UInt8)) × StreamingAttachmentDecryptor ρ)
  | 0, _, _ => none
  | rounds + 1, self, remaining =>
    match self.drainPlaintextInto remaining with
    | some (bytes, self) => some (.ready (.ok bytes), self)
    | none =>
      match self.state with
      | .error =>
        some (.ready (.error (.other "streaming attachment: decryption error")), self)
      | .done => some (.ready (.ok []), self)
      | _ =>
        if self.innerEof then
          match self.finalizeUnderlying prims with
          | none => none
          | some (.error e, self) => some (.ready (.error e), self)
          | some (.ok _, self) => pollRead reader rounds self remaining
        else
          match reader.pollRead self.inner readScratchSize with
          | (.pending, inner) => some (.pending, { self with inner })
          | (.ready (.error e), inner) =>
            some (.ready (.error e), { self with inner, state := .error })
          | (.ready (.ok []), inner) =>
            pollRead reader rounds { self with inner, innerEof := true } remaining
          | (.ready (.ok filled), inner) =>
            match feedBytesToDecryptor prims { self with inner } filled with
            | none => none
            | some (.error e, self) => some (.ready (.error e), self)
            | some (.ok _, self) => pollRead reader rounds self remaining

end StreamingAttachmentDecryptor

/-! ## Writer -/

inductive StreamEncryptorState where
  | aes256CbcHmacLegacyStream (encryptor : StreamingEncryptor)
  | finalized
  | done
  | error (e : IoError)

structure StreamingAttachmentEncryptor (ω : Type) where
  inner : ω
  state : StreamEncryptorState
  pendingWrite : List UInt8
  pendingHead : ℕ

namespace StreamingAttachmentEncryptor

variable {ω κ : Type}

/-- The IV is the one that the encryptor draws. `none` is the panic of its allocation. -/
def new [DecidableEq κ] [KeySlotId κ] (keySlot : κ) (ctx : KeyStoreContext κ) (inner : ω)
    (plaintextSize : UInt64) (iv : Iv) :
    Option (Except CryptoError (StreamingAttachmentEncryptor ω)) :=
  match ctx.getSymmetricKey keySlot with
  | .error e => some (.error e)
  | .ok (.aes256CbcHmacKey key) =>
    (StreamingEncryptor.tryNew (.aes256CbcHmacKey key) iv plaintextSize).map fun created =>
      match created with
      | .error _ => .error (.operationNotSupported .encryptionNotImplementedForKey)
      | .ok encryptor =>
        .ok ⟨inner, .aes256CbcHmacLegacyStream encryptor, [legacyStreamDiscriminator], 0⟩
  | .ok _ => some (.error (.operationNotSupported .encryptionNotImplementedForKey))

/-- The loop of `poll_drain_pending`. Every round that goes on moves the head, so there are
at most as many rounds as bytes and one. -/
def drainLoop (writer : AsyncWrite IoError ω) : ℕ → StreamingAttachmentEncryptor ω →
    Poll (Except IoError Unit) × StreamingAttachmentEncryptor ω
  | rounds, self =>
    if self.pendingHead < self.pendingWrite.length then
      match rounds with
      | 0 => (.pending, self)
      | rounds + 1 =>
        match writer.pollWrite self.inner (self.pendingWrite.drop self.pendingHead) with
        | (.pending, inner) => (.pending, { self with inner })
        | (.ready (.error e), inner) =>
          (.ready (.error e), { self with inner, state := .error e })
        | (.ready (.ok 0), inner) =>
          let e := ⟨.writeZero, "streaming attachment: inner writer accepted 0 bytes"⟩
          (.ready (.error e), { self with inner, state := .error e })
        | (.ready (.ok n), inner) =>
          drainLoop writer rounds { self with inner, pendingHead := self.pendingHead + n }
    else (.ready (.ok ()), { self with pendingWrite := [], pendingHead := 0 })

def pollDrainPending (writer : AsyncWrite IoError ω) (self : StreamingAttachmentEncryptor ω) :
    Poll (Except IoError Unit) × StreamingAttachmentEncryptor ω :=
  drainLoop writer (self.pendingWrite.length - self.pendingHead) self

variable (prims : Primitives)

/-- What follows the draining in `poll_write`, for a stream that can still be written to. -/
def encryptChunk (self : StreamingAttachmentEncryptor ω) (encryptor : StreamingEncryptor)
    (buf : List UInt8) : Option (Poll (Except IoError ℕ) × StreamingAttachmentEncryptor ω) :=
  match encryptor.update prims buf false with
  | (.needMoreData, enc) =>
    some (.ready (.ok buf.length), { self with state := .aes256CbcHmacLegacyStream enc })
  | (.encryptedChunk bytes, enc) =>
    some (.ready (.ok buf.length), { self with
      state := .aes256CbcHmacLegacyStream enc
      pendingWrite := bytes
      pendingHead := 0 })
  | (.finalEncryptedChunk bytes, _) =>
    some (.ready (.ok buf.length), { self with
      state := .finalized
      pendingWrite := bytes
      pendingHead := 0 })
  | (.error, _) =>
    some (.ready (.error streamEncryptionError),
      { self with state := .error streamEncryptionError })
  | (.panicked, _) => none

def pollWrite (writer : AsyncWrite IoError ω) (self : StreamingAttachmentEncryptor ω)
    (buf : List UInt8) : Option (Poll (Except IoError ℕ) × StreamingAttachmentEncryptor ω) :=
  match self.state with
  | .error e => some (.ready (.error e), self)
  | .finalized | .done =>
    some (.ready (.error (.other "streaming attachment: write after shutdown")), self)
  | .aes256CbcHmacLegacyStream _ =>
    match self.pollDrainPending writer with
    | (.pending, self) => some (.pending, self)
    | (_, self) =>
      match self.state with
      | .error e => some (.ready (.error e), self)
      | .aes256CbcHmacLegacyStream encryptor =>
        if buf.isEmpty then some (.ready (.ok 0), self)
        else encryptChunk prims self encryptor buf
      | _ => none

def pollFlush (writer : AsyncWrite IoError ω) (self : StreamingAttachmentEncryptor ω) :
    Poll (Except IoError Unit) × StreamingAttachmentEncryptor ω :=
  match self.pollDrainPending writer with
  | (.pending, self) => (.pending, self)
  | (_, self) =>
    match self.state with
    | .error e => (.ready (.error e), self)
    | _ =>
      let answer := writer.pollFlush self.inner
      (answer.1, { self with inner := answer.2 })

/-- The loop that collects the wire. Every round but the first and the last emits at least one
byte of the buffered ciphertext. -/
def collectWire : ℕ → StreamingEncryptor → List UInt8 → Option (Except IoError (List UInt8))
  | 0, _, _ => none
  | rounds + 1, enc, wire =>
    match enc.update prims [] true with
    | (.encryptedChunk bytes, enc) => collectWire rounds enc (wire ++ bytes)
    | (.finalEncryptedChunk bytes, _) => some (.ok (wire ++ bytes))
    | (.error, _) => some (.error streamEncryptionError)
    | (.needMoreData, _) => some (.error streamEncryptionError)
    | (.panicked, _) => none

/-- The part of `poll_shutdown` after the wire has been queued. -/
def shutdownInner (writer : AsyncWrite IoError ω) (self : StreamingAttachmentEncryptor ω) :
    Poll (Except IoError Unit) × StreamingAttachmentEncryptor ω :=
  match self.pollDrainPending writer with
  | (.pending, self) => (.pending, self)
  | (_, self) =>
    match self.state with
    | .error e => (.ready (.error e), self)
    | _ =>
      match writer.pollShutdown self.inner with
      | (.pending, inner) => (.pending, { self with inner })
      | (.ready (.ok _), inner) => (.ready (.ok ()), { self with inner, state := .done })
      | (.ready (.error e), inner) =>
        (.ready (.error e), { self with inner, state := .error e })

def pollShutdown (writer : AsyncWrite IoError ω) (self : StreamingAttachmentEncryptor ω) :
    Option (Poll (Except IoError Unit) × StreamingAttachmentEncryptor ω) :=
  match self.pollDrainPending writer with
  | (.pending, self) => some (.pending, self)
  | (_, self) =>
    match self.state with
    | .error e => some (.ready (.error e), self)
    | .aes256CbcHmacLegacyStream enc =>
      match collectWire prims (enc.ciphertextBuffer.inner.capacity + 3) enc [] with
      | none => none
      | some (.error e) => some (.ready (.error e), { self with state := .error e })
      | some (.ok wire) =>
        some (shutdownInner writer { self with
          state := .finalized
          pendingWrite := wire
          pendingHead := 0 })
    | _ => some (shutdownInner writer self)

end StreamingAttachmentEncryptor

end SdkInternal.Crypto
