import SdkInternal.Model.Crypto.SymmetricKey
import SdkInternal.Shared.Run

/-! # The legacy attachment stream

Streaming encryption and decryption of `IV | MAC | CBC ciphertext`. The decryptor releases
blocks as they arrive and checks the MAC at the end of the stream. The encryptor keeps the
whole ciphertext until its MAC is known.

The model is the native 64-bit release build. A call that would panic answers
`panicked`. -/

namespace SdkInternal.Crypto

open Shared
open List hiding Vector

def headerLength : ℕ := 48
def emissionChunkSize : ℕ := 1024 * 1024

inductive StreamCreationError where
  | wrongKeyType

variable (prims : Primitives)

/-! ## Block modes and the running MAC -/

structure CbcDecryptor where
  key : Subkey
  previous : Block

def CbcDecryptor.decryptBlock (self : CbcDecryptor) (block : Block) : Block × CbcDecryptor :=
  (xorBlock (prims.decryptBlock self.key block) self.previous, { self with previous := block })

structure CbcEncryptor where
  key : Subkey
  previous : Block

def CbcEncryptor.encryptBlock (self : CbcEncryptor) (block : Block) : Block × CbcEncryptor :=
  let cipherBlock := prims.encryptBlock self.key (xorBlock block self.previous)
  (cipherBlock, { self with previous := cipherBlock })

/-- The HMAC state is represented by what has been fed to it. -/
structure HmacStreamValidator where
  macKey : Subkey
  read : List UInt8

namespace HmacStreamValidator

def new (macKey : Subkey) (iv : Iv) : HmacStreamValidator := ⟨macKey, iv.toList⟩

variable (self : HmacStreamValidator)

def readBlock (data : Block) : HmacStreamValidator :=
  { self with read := self.read ++ data.toList }

def endStream : Mac := prims.hmac self.macKey self.read

def validateStreamEnd (expectedMac : Mac) : Bool :=
  prims.hmac self.macKey self.read == expectedMac

end HmacStreamValidator

structure StreamHeader where
  iv : Iv
  mac : Mac

def StreamHeader.toBytes (header : StreamHeader) : List UInt8 :=
  header.iv.toList ++ header.mac.toList

def StreamHeader.ofBytes (bytes : Vector UInt8 headerLength) : StreamHeader where
  iv := ⟨(bytes.toList.take 16).toArray, by
    rw [List.size_toArray, List.length_take, Vector.length_toList]
    decide⟩
  mac := ⟨(bytes.toList.drop 16).toArray, by
    rw [List.size_toArray, List.length_drop, Vector.length_toList]
    decide⟩

inductive Pkcs7ValidationResult where
  | valid (plaintext : List UInt8)
  | invalid

def isValidPkcs7Padding (block : Block) : Pkcs7ValidationResult :=
  let data := block.toList
  if data.isEmpty then .invalid
  else
    let paddingLen := (data.getLastD 0).toNat
    if paddingLen = 0 ∨ 16 < paddingLen then .invalid
    else if (data.drop (data.length - paddingLen)).all fun b => b.toNat == paddingLen then
      .valid (data.take (data.length - paddingLen))
    else .invalid

variable (buffer : List UInt8)

/-- `read_block_ciphertext` and `read_plaintext_block`. -/
def readBlock : Option (Block × List UInt8) := Blocks.first 16 buffer

def readHeader : Option (StreamHeader × List UInt8) :=
  match Blocks.first headerLength buffer with
  | none => none
  | some (bytes, rest) => some (.ofBytes bytes, rest)

/-! ## Decryption -/

inductive ChunkDecryptionResult where
  | needMoreData
  | decryptedChunk (bytes : List UInt8)
  | finalDecryptedChunk (bytes : List UInt8)
  | error
  | panicked
  deriving DecidableEq

inductive DecryptorState where
  | uninitialized (key : Aes256CbcHmacKey)
  | streaming (decryptor : CbcDecryptor) (integrityValidator : HmacStreamValidator)
      (expectedMac : Mac)
  | done
  | error

/-- `none` is the error `AlreadyInitialized`. -/
def DecryptorState.initializeWithHeader (self : DecryptorState) (header : StreamHeader) :
    Option DecryptorState :=
  match self with
  | .uninitialized key =>
    some (.streaming ⟨key.encKey, header.iv⟩ (.new key.macKey header.iv) header.mac)
  | _ => none

structure StreamingDecryptor where
  buffer : List UInt8
  decryptorState : DecryptorState

/-- What the loop over the blocks of one call changes. -/
structure DecryptedBlocks where
  buffer : List UInt8
  decryptor : CbcDecryptor
  integrityValidator : HmacStreamValidator
  decryptedData : List UInt8

namespace StreamingDecryptor

def tryNew (key : SymmetricCryptoKey) : Except StreamCreationError StreamingDecryptor :=
  match key with
  | .aes256CbcHmacKey key => .ok ⟨[], .uninitialized key⟩
  | _ => .error .wrongKeyType

/-- The loop over `blocks_to_process`. Reading from a buffer without a block panics. -/
def decryptBlocks : ℕ → DecryptedBlocks → Option DecryptedBlocks
  | 0, progress => some progress
  | count + 1, progress =>
    match readBlock progress.buffer with
    | none => none
    | some (block, buffer) =>
      let decrypted := progress.decryptor.decryptBlock prims block
      decryptBlocks count {
        buffer
        decryptor := decrypted.2
        integrityValidator := progress.integrityValidator.readBlock block
        decryptedData := progress.decryptedData ++ decrypted.1.toList }

/-- The checks at the end of the stream. -/
def finish (progress : DecryptedBlocks) (expectedMac : Mac) :
    ChunkDecryptionResult × DecryptorState :=
  if ¬ progress.integrityValidator.validateStreamEnd prims expectedMac then (.error, .error)
  else if progress.decryptedData.length < 16 then (.error, .error)
  else
    let tailStart := progress.decryptedData.length - 16
    match readBlock (progress.decryptedData.drop tailStart) with
    | none => (.panicked, .error)
    | some (lastBlock, _) =>
      match isValidPkcs7Padding lastBlock with
      | .valid plaintext =>
        (.finalDecryptedChunk (progress.decryptedData.take tailStart ++ plaintext), .done)
      | .invalid => (.error, .error)

/-- The part of `update` that runs once the header has been read. A call that is not the
last holds a byte back, so that the block before it is not the last one. -/
def process (state : DecryptorState) (lastBlock : Bool) :
    ChunkDecryptionResult × StreamingDecryptor :=
  match state with
  | .streaming decryptor integrityValidator expectedMac =>
    let blocksToProcess := if lastBlock then buffer.length / 16 else (buffer.length - 1) / 16
    match decryptBlocks prims blocksToProcess ⟨buffer, decryptor, integrityValidator, []⟩ with
    | none => (.panicked, ⟨buffer, state⟩)
    | some progress =>
      if lastBlock then
        let finished := finish prims progress expectedMac
        (finished.1, ⟨progress.buffer, finished.2⟩)
      else
        (.decryptedChunk progress.decryptedData,
          ⟨progress.buffer,
            .streaming progress.decryptor progress.integrityValidator expectedMac⟩)
  | _ => (.error, ⟨buffer, state⟩)

def update (self : StreamingDecryptor) (ciphertextChunk : List UInt8) (lastBlock : Bool) :
    ChunkDecryptionResult × StreamingDecryptor :=
  let buffer := self.buffer ++ ciphertextChunk
  match self.decryptorState with
  | .error | .done => (.error, { self with buffer })
  | .uninitialized _ =>
    if buffer.length < headerLength then
      if lastBlock then (.error, ⟨buffer, .error⟩)
      else (.needMoreData, { self with buffer })
    else
      match readHeader buffer with
      | none => (.panicked, { self with buffer })
      | some (header, rest) =>
        match self.decryptorState.initializeWithHeader header with
        | none => (.error, ⟨rest, .error⟩)
        | some state => process prims rest state lastBlock
  | .streaming _ _ _ => process prims buffer self.decryptorState lastBlock

end StreamingDecryptor

/-! ## Encryption -/

inductive ChunkEncryptionResult where
  | needMoreData
  | encryptedChunk (bytes : List UInt8)
  | finalEncryptedChunk (bytes : List UInt8)
  | error
  | panicked
  deriving DecidableEq

/-- A vector cannot hold more than `isize::MAX` bytes. -/
def isizeMax : ℕ := 2 ^ 63 - 1

/-- A buffer of fixed size with a write cursor. -/
structure Buffer where
  inner : List UInt8
  capacity : ℕ
  position : ℕ

namespace Buffer

/-- `none` is the panic of an allocation that is too large. -/
def new (capacity : ℕ) : Option Buffer :=
  if capacity ≤ isizeMax then some ⟨replicate capacity 0, capacity, 0⟩ else none

/-- `none` is the error `InvalidIndexError`, here and in `append`. -/
def index (self : Buffer) (start stop : ℕ) : Option (List UInt8) :=
  if self.capacity < stop ∨ stop < start then none
  else some ((self.inner.drop start).take (stop - start))

def append (self : Buffer) (data : List UInt8) : Option Buffer :=
  if self.capacity < self.position + data.length then none
  else
    some { self with
      inner := self.inner.take self.position ++ data ++
        self.inner.drop (self.position + data.length)
      position := self.position + data.length }

end Buffer

structure CiphertextBuffer where
  inner : Buffer
  size : ℕ
  emittedBytes : ℕ

namespace CiphertextBuffer

def new (capacity : ℕ) : Option CiphertextBuffer :=
  (Buffer.new capacity).map fun inner => ⟨inner, 0, 0⟩

def append (self : CiphertextBuffer) (data : Block) : Option CiphertextBuffer :=
  (self.inner.append data.toList).map fun inner => { self with inner, size := self.size + 16 }

/-- The next chunk, or the inner `none` if everything has been emitted. The outer `none` is
the panic on an index out of bounds. -/
def emitChunk (self : CiphertextBuffer) : Option (Option (List UInt8 × CiphertextBuffer)) :=
  let remainingBytes := self.size - self.emittedBytes
  if remainingBytes = 0 then some none
  else
    let chunkSize := min remainingBytes emissionChunkSize
    (self.inner.index self.emittedBytes (self.emittedBytes + chunkSize)).map fun chunk =>
      some (chunk, { self with emittedBytes := self.emittedBytes + chunkSize })

end CiphertextBuffer

inductive EncryptorState where
  | streaming (encryptor : CbcEncryptor) (integrityValidator : HmacStreamValidator) (iv : Iv)
  | emitting
  | done
  | error

structure StreamingEncryptor where
  ciphertextBuffer : CiphertextBuffer
  plaintextBuffer : List UInt8
  encryptorState : EncryptorState

structure EncryptedBlocks where
  plaintextBuffer : List UInt8
  ciphertextBuffer : CiphertextBuffer
  encryptor : CbcEncryptor
  integrityValidator : HmacStreamValidator

namespace StreamingEncryptor

def ciphertextCapacity (plaintextSize : UInt64) : UInt64 := (plaintextSize / 16 + 1) * 16

/-- The IV is the one drawn at random. `none` is the panic of the allocation. -/
def tryNew (key : SymmetricCryptoKey) (iv : Iv) (plaintextSize : UInt64) :
    Option (Except StreamCreationError StreamingEncryptor) :=
  match key with
  | .aes256CbcHmacKey key =>
    (CiphertextBuffer.new (ciphertextCapacity plaintextSize).toNat).map fun buffer =>
      .ok {
        ciphertextBuffer := buffer
        plaintextBuffer := []
        encryptorState := .streaming ⟨key.encKey, iv⟩ (.new key.macKey iv) iv }
  | _ => some (.error .wrongKeyType)

/-- The loop while the buffer has a block, which shrinks in every round. An error stops it
when the ciphertext buffer is full. -/
def encryptBlocks : ℕ → EncryptedBlocks → Except EncryptedBlocks EncryptedBlocks
  | 0, progress => .ok progress
  | rounds + 1, progress =>
    match readBlock progress.plaintextBuffer with
    | none => .ok progress
    | some (block, plaintextBuffer) =>
      let encrypted := progress.encryptor.encryptBlock prims block
      let next := { progress with
        plaintextBuffer
        encryptor := encrypted.2
        integrityValidator := progress.integrityValidator.readBlock encrypted.1 }
      match progress.ciphertextBuffer.append encrypted.1 with
      | none => .error next
      | some ciphertextBuffer => encryptBlocks rounds { next with ciphertextBuffer }

/-- Pads and encrypts the last block and answers with the header. -/
def finish (progress : EncryptedBlocks) (iv : Iv) : ChunkEncryptionResult × StreamingEncryptor :=
  let paddingLen := 16 - progress.plaintextBuffer.length
  let padded := progress.plaintextBuffer ++ List.replicate paddingLen (UInt8.ofNat paddingLen)
  match readBlock padded with
  | none => (.error, ⟨progress.ciphertextBuffer, padded, .error⟩)
  | some (block, plaintextBuffer) =>
    let encrypted := progress.encryptor.encryptBlock prims block
    match progress.ciphertextBuffer.append encrypted.1 with
    | none => (.error, ⟨progress.ciphertextBuffer, plaintextBuffer, .error⟩)
    | some ciphertextBuffer =>
      let mac := (progress.integrityValidator.readBlock encrypted.1).endStream prims
      (.encryptedChunk (StreamHeader.toBytes ⟨iv, mac⟩),
        ⟨ciphertextBuffer, plaintextBuffer, .emitting⟩)

def update (self : StreamingEncryptor) (plaintextChunk : List UInt8) (lastBlock : Bool) :
    ChunkEncryptionResult × StreamingEncryptor :=
  match self.encryptorState with
  | .error | .done => (.error, self)
  | .emitting =>
    match self.ciphertextBuffer.emitChunk with
    | none => (.panicked, self)
    | some none => (.finalEncryptedChunk [], { self with encryptorState := .done })
    | some (some (chunk, ciphertextBuffer)) =>
      (.encryptedChunk chunk, { self with ciphertextBuffer })
  | .streaming encryptor integrityValidator iv =>
    let plaintextBuffer := self.plaintextBuffer ++ plaintextChunk
    match encryptBlocks prims plaintextBuffer.length
        ⟨plaintextBuffer, self.ciphertextBuffer, encryptor, integrityValidator⟩ with
    | .error progress =>
      (.error, ⟨progress.ciphertextBuffer, progress.plaintextBuffer, .error⟩)
    | .ok progress =>
      if lastBlock then finish prims progress iv
      else
        (.needMoreData, ⟨progress.ciphertextBuffer, progress.plaintextBuffer,
          .streaming progress.encryptor progress.integrityValidator iv⟩)

end StreamingEncryptor

end SdkInternal.Crypto
