import SdkInternal.Model.Crypto.AttachmentCipher
import SdkInternal.Verification.Crypto.KeyWrapping

/-! # Reading attachments

However the inner reader and the caller slice the data, the bytes that were returned and
those that wait in the buffer are what the stream decryptor has released for the bytes read
so far. The end of the file is signalled only after the stream has been accepted. -/

namespace SdkInternal.Crypto

open Shared List Option StreamingDecryptor Aes256CbcHmacSha256 Blocks StreamingDecryptor
  ChunkDecryptionResult
open StreamingDecryptor (plainPrimitives)

/-! ## Streams -/

namespace StreamingDecryptor

variable (prims : Primitives) (key : Aes256CbcHmacKey)

def cbcPlaintext (wire : List UInt8) : List UInt8 :=
  match readHeader wire with
  | none => []
  | some (header, body) => Blocks.join (plainBlocks prims key header (Blocks.whole 16 body))

theorem cbcPlaintext_eq (header : StreamHeader) (blocks : List Block) {rest : List UInt8}
    (hrest : rest.length < 16) :
    cbcPlaintext prims key (header.toBytes ++ (join blocks ++ rest)) =
      join (plainBlocks prims key header blocks) := by
  rw [cbcPlaintext, readHeader_append]
  simp only [whole_join_append hrest]

variable {prims key} {wire released plaintext : List UInt8} {self : StreamingDecryptor}
  {bytes : List UInt8}

theorem pkcs7Unpad_isPrefix {block : Block} (h : pkcs7Unpad block = some bytes) :
    bytes <+: block.toList := by
  unfold pkcs7Unpad at h
  simp only at h
  split at h
  · cases h
  · split at h
    · cases h
    · obtain rfl := some.inj h
      exact take_prefix _ _

theorem unpadBlocks_isPrefix {blocks : List Block} (h : unpadBlocks blocks = some bytes) :
    bytes <+: join blocks := by
  unfold unpadBlocks at h
  split at h
  case h_1 => cases h
  case h_2 last hlast =>
    obtain ⟨tail, htail, rfl⟩ := map_eq_some_iff.mp h
    obtain ⟨front, rfl⟩ := getLast?_eq_some_iff.mp hlast
    obtain ⟨padding, hpadding⟩ := pkcs7Unpad_isPrefix htail
    rw [dropLast_concat]
    refine ⟨padding, ?_⟩
    rw [append_assoc, hpadding, join_append, join_cons, join_nil, append_nil]

theorem Reading.released_isPrefix (h : Reading prims key wire released self) :
    released <+: cbcPlaintext prims key wire := by
  cases h with
  | header hlength => exact nil_prefix
  | body header blocks hlength hheld =>
    rename_i buffer
    obtain ⟨more, rest, rfl, hrest⟩ := exists_whole (n := 16) (by decide) buffer
    rw [← append_assoc (join blocks), ← join_append,
      cbcPlaintext_eq prims key header _ hrest, plainBlocks_append, join_append]
    exact prefix_append _ _

theorem isPrefix_of_wirePlaintext (h : wirePlaintext prims key wire = some plaintext) :
    plaintext <+: cbcPlaintext prims key wire := by
  cases hheader : readHeader wire with
  | none => simp [wirePlaintext, hheader] at h
  | some parts =>
    simp only [wirePlaintext, hheader] at h
    split at h
    case isFalse => cases h
    case isTrue hmac =>
      rw [cbcPlaintext, hheader]
      exact unpadBlocks_isPrefix h

theorem update_false_ne_final (prims : Primitives) (self : StreamingDecryptor)
    (chunk bytes : List UInt8) :
    (update prims self chunk false).1 ≠ .finalDecryptedChunk bytes := by
  have hprocess : ∀ buffer state,
      (process prims buffer state false).1 ≠ .finalDecryptedChunk bytes := by
    intro buffer state
    unfold process
    split
    · simp only [Bool.false_eq_true, if_false]
      split <;> exact ChunkDecryptionResult.noConfusion
    · exact ChunkDecryptionResult.noConfusion
  unfold update
  simp only [Bool.false_eq_true, if_false]
  repeat' split
  all_goals first
    | exact hprocess _ _
    | exact ChunkDecryptionResult.noConfusion

theorem exists_decrypt_of_wirePlaintext (h : wirePlaintext prims key wire = some plaintext)
    (haligned : (wire.length - 49) / 16 < (wire.length - 48) / 16) :
    ∃ (iv : Iv) (mac : Mac) (data : List UInt8), wire = iv.toList ++ mac.toList ++ data ∧
      decrypt prims iv data mac key.key = .ok plaintext := by
  obtain ⟨header, body, rfl⟩ := exists_header (show 48 ≤ wire.length by omega)
  obtain ⟨blocks, rest, rfl, hrest⟩ := exists_whole (n := 16) (by decide) body
  -- the number of whole blocks grows with the last byte, so nothing follows them
  obtain rfl : rest = [] := by
    rw [length_append, length_append, length_toBytes, length_join] at haligned
    rw [← length_eq_zero_iff]
    omega
  rw [wirePlaintext_eq prims key header blocks hrest] at h
  split at h
  case isFalse => cases h
  case isTrue hmac =>
    refine ⟨header.iv, header.mac, join blocks, ?_, ?_⟩
    · rw [append_nil]
      rfl
    · have hsubkeys : splitToSubkeys key.key = (key.encKey, key.macKey) := rfl
      have hdecrypt : decryptPadded prims key.encKey header.iv (join blocks) =
          some plaintext := by
        rw [decryptPadded_join]
        exact h
      simp only [decrypt, calculateMac, hsubkeys, hmac, ne_eq,
        not_true_eq_false, if_false, hdecrypt]

end StreamingDecryptor

/-! ## One call -/

namespace StreamingAttachmentDecryptor

variable {ρ κ : Type} (prims : Primitives) (key : Aes256CbcHmacKey)

/-- `Decrypting read returned state buf` says that `read` has been read from the inner reader,
`returned` has been returned to the caller and `buf` waits to be returned. -/
inductive Decrypting :
    List UInt8 → List UInt8 → StreamDecryptorState → List UInt8 → Prop where
  | start : Decrypting [] [] (.needDiscriminator (.aes256CbcHmacKey key)) []
  | stream {wire returned buf : List UInt8} {dec : StreamingDecryptor}
      (h : Reading prims key wire (returned ++ buf) dec) :
      Decrypting (legacyStreamDiscriminator :: wire) returned (.aes256CbcHmacLegacyStream dec) buf
  | done {wire returned buf : List UInt8}
      (h : wirePlaintext prims key wire = some (returned ++ buf))
      (haligned : (wire.length - 49) / 16 < (wire.length - 48) / 16) :
      Decrypting (legacyStreamDiscriminator :: wire) returned .done buf

variable {prims key} {read returned buf data : List UInt8} {state : StreamDecryptorState}

section

variable (h : Decrypting prims key read returned state buf)

include h

theorem Decrypting.drain (count : ℕ) :
    Decrypting prims key read (returned ++ buf.take count) state (buf.drop count) := by
  have hbytes : returned ++ buf.take count ++ buf.drop count = returned ++ buf := by
    rw [append_assoc, take_append_drop]
  cases h with
  | start =>
    rw [take_nil, drop_nil]
    exact .start
  | stream h =>
    rw [← hbytes] at h
    exact .stream h
  | done h haligned =>
    rw [← hbytes] at h
    exact .done h haligned

theorem Decrypting.returned_isPrefix : returned <+: cbcPlaintext prims key (read.drop 1) := by
  cases h with
  | start => exact nil_prefix
  | stream h => exact (prefix_append _ _).trans h.released_isPrefix
  | done h haligned =>
    exact (prefix_append _ _).trans (isPrefix_of_wirePlaintext h)

theorem Decrypting.exists_decrypt (hstate : state = .done) (hbuf : buf = []) :
    ∃ (iv : Iv) (mac : Mac) (data : List UInt8),
      read = legacyStreamDiscriminator :: (iv.toList ++ mac.toList ++ data) ∧
        decrypt prims iv data mac key.key = .ok returned := by
  cases h with
  | start | stream h => cases hstate
  | done h haligned =>
    subst hbuf
    rw [append_nil] at h
    obtain ⟨iv, mac, data, hwire, hdecrypt⟩ :=
      exists_decrypt_of_wirePlaintext h haligned
    exact ⟨iv, mac, data, congrArg _ hwire, hdecrypt⟩

end

variable {self self' : StreamingAttachmentDecryptor ρ} {remaining : ℕ}
  {reader : AsyncRead IoError ρ} {result : Except IoError Unit}

/-- What feeding and finalizing leave. A failure of a stream that `starts` with the
discriminator is kept in the state. -/
def Outcome (prims : Primitives) (key : Aes256CbcHmacKey) (starts : Prop)
    (read returned : List UInt8) (self self' : StreamingAttachmentDecryptor ρ) :
    Except IoError Unit → Prop
  | .ok _ => self'.inner = self.inner ∧ read ≠ [] ∧
      Decrypting prims key read returned self'.state self'.plaintextBuf
  | .error _ => starts → self'.state = .error ∧ self'.plaintextBuf = self.plaintextBuf

theorem feedDecryptor_spec {starts : Prop} {wire : List UInt8} {dec : StreamingDecryptor}
    (hstate : self.state = .aes256CbcHmacLegacyStream dec)
    (h : Reading prims key wire (returned ++ self.plaintextBuf) dec)
    (hfeed : feedDecryptor prims self data = some (result, self')) :
    Outcome prims key starts (legacyStreamDiscriminator :: (wire ++ data)) returned self self'
      result := by
  have hupdate := h.update data
  have hfinal := update_false_ne_final prims dec data
  unfold feedDecryptor at hfeed
  split at hfeed
  case isTrue hempty =>
    cases hfeed
    rw [isEmpty_iff.mp hempty, append_nil]
    exact ⟨rfl, cons_ne_nil _ _, hstate ▸ .stream h⟩
  case isFalse =>
    obtain ⟨⟨answer, dec'⟩, hanswer⟩ : ∃ answer, dec.update prims data false = answer := ⟨_, rfl⟩
    simp only [hstate, hanswer] at hfeed
    rw [hanswer] at hupdate hfinal
    cases answer with
    | needMoreData =>
      cases hfeed
      rw [released, append_nil] at hupdate
      exact ⟨rfl, cons_ne_nil _ _, .stream hupdate⟩
    | decryptedChunk bytes =>
      cases hfeed
      rw [released, append_assoc] at hupdate
      exact ⟨rfl, cons_ne_nil _ _, .stream hupdate⟩
    | finalDecryptedChunk bytes => exact absurd rfl (hfinal bytes)
    | error =>
      cases hfeed
      exact fun _ => ⟨rfl, rfl⟩
    | panicked => cases hfeed

section

variable (h : Decrypting prims key read returned self.state self.plaintextBuf)

include h

theorem feedBytesToDecryptor_spec {first : UInt8} {rest : List UInt8}
    (hstate : self.state ≠ .done)
    (hfeed : feedBytesToDecryptor prims self (first :: rest) = some (result, self')) :
    Outcome prims key
      (∀ key, self.state = .needDiscriminator key → first = legacyStreamDiscriminator)
      (read ++ first :: rest) returned self self' result := by
  obtain ⟨inner, state, buf, innerEof⟩ := self
  cases h with
  | start =>
    simp only [feedBytesToDecryptor, tryNew_eq] at hfeed
    split at hfeed
    case isTrue hfirst =>
      cases hfeed
      exact fun hstarts => absurd (hstarts _ rfl) hfirst
    case isFalse hfirst =>
      have hreading : Reading prims key [] ([] ++ [])
          (fresh key) := reading_fresh prims key
      rw [not_not.mp hfirst]
      exact feedDecryptor_spec rfl hreading hfeed
  | stream h => exact feedDecryptor_spec rfl h hfeed
  | done h haligned => exact absurd rfl hstate

theorem finalizeUnderlying_spec (hfinalize : finalizeUnderlying prims self = some (result, self')) :
    Outcome prims key True read returned self self' result := by
  obtain ⟨inner, state, buf, innerEof⟩ := self
  cases h with
  | start =>
    cases hfinalize
    exact fun _ => ⟨rfl, rfl⟩
  | done h haligned =>
    cases hfinalize
    exact ⟨rfl, cons_ne_nil _ _, .done h haligned⟩
  | stream h =>
    rename_i wire dec
    obtain ⟨⟨answer, dec'⟩, hanswer⟩ : ∃ answer, dec.update prims [] true = answer := ⟨_, rfl⟩
    simp only [finalizeUnderlying, hanswer] at hfinalize
    rcases h.last [] with ⟨herror, -⟩ | ⟨bytes, hfinal, hplaintext, haligned⟩
    · rw [hanswer] at herror
      subst herror
      cases hfinalize
      exact fun _ => ⟨rfl, rfl⟩
    · rw [hanswer] at hfinal
      subst hfinal
      cases hfinalize
      rw [append_nil] at hplaintext haligned
      rw [append_assoc] at hplaintext
      exact ⟨rfl, cons_ne_nil _ _, .done hplaintext haligned⟩

end

theorem exists_of_drainPlaintextInto {drained : StreamingAttachmentDecryptor ρ} {bytes : List UInt8}
    (h : self.drainPlaintextInto remaining = some (bytes, drained)) :
    ∃ count, bytes = self.plaintextBuf.take count ∧ bytes ≠ [] ∧
      drained = { self with plaintextBuf := self.plaintextBuf.drop count } := by
  unfold drainPlaintextInto at h
  simp only at h
  split at h
  case isTrue => cases h
  case isFalse hcount =>
    obtain ⟨rfl, rfl⟩ := Prod.mk.inj (some.inj h)
    refine ⟨_, rfl, ?_, rfl⟩
    rw [← length_pos_iff, length_take]
    omega

theorem plaintextBuf_of_drainPlaintextInto (h : self.drainPlaintextInto remaining = none)
    (hremaining : 0 < remaining) :
    self.plaintextBuf = [] := by
  unfold drainPlaintextInto at h
  simp only at h
  split at h
  case isTrue hcount =>
    rw [← length_eq_zero_iff]
    omega
  case isFalse => cases h

/-- A call that has room and, if it reads the start of the stream, reads the discriminator. -/
def Recognizes (reader : AsyncRead IoError ρ) (self : StreamingAttachmentDecryptor ρ)
    (remaining : ℕ) : Prop :=
  0 < remaining ∧ ∀ key, self.state = .needDiscriminator key → self.innerEof = false →
    ∀ first rest, (reader.pollRead self.inner readScratchSize).1 = .ready (.ok (first :: rest)) →
      first = legacyStreamDiscriminator

theorem Decrypting.recognizes
    (h : Decrypting prims key read returned self.state self.plaintextBuf) (hread : read ≠ [])
    (hroom : 0 < remaining) : self.Recognizes reader remaining := by
  obtain ⟨inner, state, buf, innerEof⟩ := self
  cases h with
  | start => exact absurd rfl hread
  | stream | done => exact ⟨hroom, nofun⟩

/-- Every call that does not fail keeps to the stream, and it returns nothing into a buffer
with room only at the end of the stream. A failure is kept in the state. -/
theorem pollRead_spec {rounds : ℕ} {self self' : StreamingAttachmentDecryptor (ρ × List UInt8)}
    {answer : Poll (Except IoError (List UInt8))}
    (h : Decrypting prims key self.inner.2 returned self.state self.plaintextBuf)
    (hpoll : pollRead prims reader.recorded rounds self remaining = some (answer, self')) :
    ((∃ e, answer = .ready (.error e)) → self.Recognizes reader.recorded remaining →
      self'.state = .error ∧ self'.plaintextBuf = []) ∧
    ((∀ e, answer ≠ .ready (.error e)) →
      Decrypting prims key self'.inner.2 (returned ++ answer.bytes) self'.state
        self'.plaintextBuf ∧
      (0 < remaining → answer = .ready (.ok []) →
        self'.state = .done ∧ self'.plaintextBuf = [])) := by
  induction rounds generalizing self with
  | zero => cases hpoll
  | succ rounds ih =>
    unfold pollRead at hpoll
    split at hpoll
    case h_1 bytes drained hdrain =>
      cases hpoll
      obtain ⟨count, rfl, hne, rfl⟩ := exists_of_drainPlaintextInto hdrain
      refine ⟨nofun, fun _ => ⟨h.drain count, ?_⟩⟩
      intro _ hempty
      exact absurd (Except.ok.inj (Poll.ready.inj hempty)) hne
    case h_2 hdrain =>
      have hbuf := plaintextBuf_of_drainPlaintextInto hdrain
      split at hpoll
      case h_1 hstate =>
        cases hpoll
        exact ⟨fun _ hrecognizes => ⟨hstate, hbuf hrecognizes.1⟩, fun hok => absurd rfl (hok _)⟩
      case h_2 hstate =>
        cases hpoll
        rw [Poll.bytes, append_nil]
        exact ⟨nofun, fun _ => ⟨h, fun hroom _ => ⟨hstate, hbuf hroom⟩⟩⟩
      case h_3 herror hdone =>
        split at hpoll
        case isTrue heof =>
          split at hpoll
          case h_1 => cases hpoll
          case h_2 hfinalize =>
            cases hpoll
            refine ⟨fun _ hrecognizes => hbuf hrecognizes.1 ▸ ?_, fun hok => absurd rfl (hok _)⟩
            exact finalizeUnderlying_spec h hfinalize trivial
          case h_3 finalized hfinalize =>
            obtain ⟨hinner, hread, hspec⟩ := finalizeUnderlying_spec h hfinalize
            rw [← hinner] at hread hspec
            exact (ih hspec hpoll).imp_left fun hfailed herror hrecognizes =>
              hfailed herror (hspec.recognizes hread hrecognizes.1)
        case isFalse heof =>
          obtain ⟨⟨result, inner⟩, hresult⟩ :
              ∃ result, reader.pollRead self.inner.1 readScratchSize = result := ⟨_, rfl⟩
          simp only [AsyncRead.recorded, hresult] at hpoll
          split at hpoll
          case h_1 heq =>
            cases hpoll
            cases heq
            simpa [Poll.bytes] using h
          case h_2 heq =>
            cases hpoll
            exact ⟨fun _ hrecognizes => ⟨rfl, hbuf hrecognizes.1⟩, fun hok => absurd rfl (hok _)⟩
          case h_3 heq =>
            cases heq
            exact (ih (by simpa [Poll.bytes] using h) hpoll).imp_left
              fun hfailed herror hrecognizes => hfailed herror ⟨hrecognizes.1, by simp⟩
          case h_4 filled _ hfilled heq =>
            cases heq
            obtain ⟨first, rest, rfl⟩ := exists_cons_of_ne_nil hfilled
            split at hpoll
            case h_1 => cases hpoll
            case h_2 hfeed =>
              cases hpoll
              refine ⟨fun _ hrecognizes => hbuf hrecognizes.1 ▸ ?_, fun hok => absurd rfl (hok _)⟩
              refine feedBytesToDecryptor_spec (by exact h) (by exact hdone) hfeed ?_
              intro other hstate
              exact hrecognizes.2 other hstate (Bool.eq_false_of_not_eq_true heof) first rest
                (by simp [AsyncRead.recorded, hresult])
            case h_3 fed hfeed =>
              obtain ⟨hinner, hread, hspec⟩ :=
                feedBytesToDecryptor_spec (by exact h) (by exact hdone) hfeed
              have hfed : fed.inner.2 = self.inner.2 ++ first :: rest := congrArg Prod.snd hinner
              rw [← hfed] at hread hspec
              exact (ih hspec hpoll).imp_left fun hfailed herror hrecognizes =>
                hfailed herror (hspec.recognizes hread hrecognizes.1)

/-! ## Runs -/

/-- One call in a run that keeps the answers. A call is given the rounds of its loop and the
room in the caller's buffer. -/
def call (prims : Primitives) (reader : AsyncRead IoError ρ)
    (s : StreamingAttachmentDecryptor ρ × List (Poll (Except IoError (List UInt8))))
    (input : ℕ × ℕ) :
    Option (StreamingAttachmentDecryptor ρ × List (Poll (Except IoError (List UInt8)))) :=
  (pollRead prims reader input.1 s.1 input.2).map fun (answer, self) => (self, s.2 ++ [answer])

variable (answers : List (Poll (Except IoError (List UInt8))))

def returnedBytes : List UInt8 :=
  (answers.map Poll.bytes).flatten

def NoError : Prop :=
  ∀ answer ∈ answers, ∀ e, answer ≠ .ready (.error e)

variable
  {s s' : StreamingAttachmentDecryptor (ρ × List UInt8) × List (Poll (Except IoError (List UInt8)))}
  {input : ℕ × ℕ}

theorem call_spec
    (h : Decrypting prims key s.1.inner.2 (returnedBytes s.2) s.1.state s.1.plaintextBuf)
    (hcall : call prims reader.recorded s input = some s') (hok : NoError s'.2) :
    Decrypting prims key s'.1.inner.2 (returnedBytes s'.2) s'.1.state s'.1.plaintextBuf ∧
      (0 < input.2 → s'.2.getLast? = some (.ready (.ok [])) →
        s'.1.state = .done ∧ s'.1.plaintextBuf = []) := by
  obtain ⟨⟨answer, self'⟩, hpoll, rfl⟩ := map_eq_some_iff.mp hcall
  obtain ⟨hspec, heof⟩ := (pollRead_spec h hpoll).2 (hok answer (by simp))
  have hbytes : returnedBytes (s.2 ++ [answer]) = returnedBytes s.2 ++ answer.bytes := by
    simp [returnedBytes]
  refine ⟨?_, ?_⟩
  · rw [hbytes]
    exact hspec
  · intro hroom hlast
    rw [getLast?_concat] at hlast
    exact heof hroom (some.inj hlast)

theorem noError_of_call
    {s s' : StreamingAttachmentDecryptor ρ × List (Poll (Except IoError (List UInt8)))}
    (hcall : call prims reader s input = some s') (hok : NoError s'.2) : NoError s.2 := by
  obtain ⟨⟨answer, self'⟩, -, rfl⟩ := map_eq_some_iff.mp hcall
  intro other hmem
  exact hok other (mem_append_left _ hmem)

theorem run_spec {calls : List (ℕ × ℕ)}
    (h : Decrypting prims key s.1.inner.2 (returnedBytes s.2) s.1.state s.1.plaintextBuf)
    (hrun : run (call prims reader.recorded) s calls = some s') (hok : NoError s'.2) :
    Decrypting prims key s'.1.inner.2 (returnedBytes s'.2) s'.1.state s'.1.plaintextBuf := by
  refine run_invariant (call prims reader.recorded)
    (fun s => NoError s.2 →
      Decrypting prims key s.1.inner.2 (returnedBytes s.2) s.1.state s.1.plaintextBuf)
    ?_ (meets_true _ s calls) hrun (fun _ => h) hok
  intro s input s' _ hcall ih hok
  exact (call_spec (ih (noError_of_call hcall hok)) hcall hok).1

theorem new_eq_ok [DecidableEq κ] [KeySlotId κ] {keySlot : κ} {ctx : KeyStoreContext κ}
    {inner : ρ} {decryptor : StreamingAttachmentDecryptor ρ}
    (h : new keySlot ctx inner = .ok decryptor) :
    ∃ key, ctx.getSymmetricKey keySlot = .ok (.aes256CbcHmacKey key) ∧
      decryptor = ⟨inner, .needDiscriminator (.aes256CbcHmacKey key), [], false⟩ := by
  obtain ⟨found, hget, h⟩ := bind_eq_ok_iff.mp h
  split at h
  · cases h
    exact ⟨_, hget, rfl⟩
  · cases h

/-- What was returned is always the start of what the stream decrypts to, and the end of the
file is signalled only for a stream that the one-shot cipher accepts, once its whole plaintext
has been returned. -/
theorem endOfFile_authentic [DecidableEq κ] [KeySlotId κ] (prims : Primitives)
    (reader : AsyncRead IoError ρ) (keySlot : κ) (ctx : KeyStoreContext κ) (inner : ρ)
    {decryptor self : StreamingAttachmentDecryptor (ρ × List UInt8)} {calls : List (ℕ × ℕ)}
    {answers : List (Poll (Except IoError (List UInt8)))}
    (hnew : new keySlot ctx (inner, []) = .ok decryptor)
    (hrun : run (call prims reader.recorded) (decryptor, []) calls = some (self, answers))
    (hok : NoError answers) :
    ∃ key, ctx.getSymmetricKey keySlot = .ok (.aes256CbcHmacKey key) ∧
      returnedBytes answers <+: cbcPlaintext prims key (self.inner.2.drop 1) ∧
      ∀ rounds remaining, calls.getLast? = some (rounds, remaining) → 0 < remaining →
        answers.getLast? = some (.ready (.ok [])) →
        ∃ (iv : Iv) (mac : Mac) (data : List UInt8),
          self.inner.2 = 0x02 :: (iv.toList ++ mac.toList ++ data) ∧
          Aes256CbcHmacSha256.decrypt prims iv data mac key.key = .ok (returnedBytes answers) := by
  obtain ⟨key, hkey, rfl⟩ := new_eq_ok hnew
  have hstart : Decrypting prims key [] [] (.needDiscriminator (.aes256CbcHmacKey key)) [] :=
    .start
  refine ⟨key, hkey, (run_spec hstart hrun hok).returned_isPrefix, ?_⟩
  intro rounds remaining hlastCall hroom hlastAnswer
  obtain ⟨front, rfl⟩ := getLast?_eq_some_iff.mp hlastCall
  rw [run_concat, bind_eq_some_iff] at hrun
  obtain ⟨middle, hmiddle, hcall⟩ := hrun
  have hbefore := run_spec hstart hmiddle (noError_of_call hcall hok)
  obtain ⟨hspec, heof⟩ := call_spec hbefore hcall hok
  obtain ⟨hstate, hbuf⟩ := heof hroom hlastAnswer
  exact hspec.exists_decrypt hstate hbuf

def chunkReader : AsyncRead IoError (List (List UInt8)) where
  pollRead chunks _ :=
    match chunks with
    | [] => (.ready (.ok []), [])
    | chunk :: chunks => (.ready (.ok chunk), chunks)

def threeByteChunks : List (List UInt8) :=
  [[0x02], oneShotWire plainPrimitives.toPrimitives
    zeroLegacyKey (Vector.replicate 16 0) [1, 2, 3]]

def started (inner : ρ) : StreamingAttachmentDecryptor ρ :=
  ⟨inner, .needDiscriminator (.aes256CbcHmacKey zeroLegacyKey), [], false⟩

theorem getSymmetricKey_userContext :
    userContext.getSymmetricKey .organization = .ok (.aes256CbcHmacKey zeroLegacyKey) := by
  decide +kernel

theorem new_userContext (inner : ρ) :
    new UserSlot.organization userContext inner = .ok (started inner) := by
  rfl

theorem endOfFile_three_bytes :
    ∃ (iv : Iv) (mac : Mac) (data : List UInt8),
      threeByteChunks.flatten = 0x02 :: (iv.toList ++ mac.toList ++ data) ∧
      Aes256CbcHmacSha256.decrypt plainPrimitives.toPrimitives iv data mac
        zeroLegacyKey.key = .ok [1, 2, 3] := by
  have hrun : run (call plainPrimitives.toPrimitives chunkReader.recorded)
      (started (threeByteChunks, []), []) [(10, 8), (10, 8)] =
      some (⟨([], threeByteChunks.flatten), .done, [], true⟩,
        [.ready (.ok [1, 2, 3]), .ready (.ok [])]) := by
    rfl
  obtain ⟨key, hfound, -, heof⟩ := endOfFile_authentic
    plainPrimitives.toPrimitives chunkReader UserSlot.organization userContext
    threeByteChunks (new_userContext _) hrun (by simp [NoError])
  cases getSymmetricKey_userContext.symm.trans hfound
  exact heof 10 8 rfl (by decide) rfl

/-! ## After an error -/

def Sticky : Prop :=
  answers.Pairwise fun earlier later =>
    (∃ e, earlier = .ready (.error e)) → ∃ e, later = .ready (.error e)

variable {answer : Poll (Except IoError (List UInt8))}
  {answers : List (Poll (Except IoError (List UInt8)))}

theorem pollRead_of_failed {rounds : ℕ}
    (hpoll : pollRead prims reader rounds self remaining = some (answer, self'))
    (hstate : self.state = .error) (hbuf : self.plaintextBuf = []) :
    (∃ e, answer = .ready (.error e)) ∧ self' = self := by
  cases rounds with
  | zero => cases hpoll
  | succ rounds =>
    simp only [pollRead, drainPlaintextInto, hbuf, hstate, length_nil, Nat.min_zero,
      if_true] at hpoll
    cases hpoll
    exact ⟨⟨_, rfl⟩, rfl⟩

def Settled (prims : Primitives) (key : Aes256CbcHmacKey)
    (s : StreamingAttachmentDecryptor (ρ × List UInt8) ×
      List (Poll (Except IoError (List UInt8)))) : Prop :=
  Sticky s.2 ∧ (s.1.state = .error ∧ s.1.plaintextBuf = [] ∨ NoError s.2 ∧
    Decrypting prims key s.1.inner.2 (returnedBytes s.2) s.1.state s.1.plaintextBuf)

theorem Sticky.concat (h : Sticky answers)
    (hlast : NoError answers ∨ ∃ e, answer = .ready (.error e)) : Sticky (answers ++ [answer]) := by
  refine pairwise_append.mpr ⟨h, pairwise_singleton _ _, ?_⟩
  rintro earlier hmem later hlater ⟨e, rfl⟩
  cases mem_singleton.mp hlater
  exact hlast.resolve_left fun hok => hok _ hmem e rfl

theorem Settled.call (h : Settled prims key s)
    (hrecognizes : s.1.Recognizes reader.recorded input.2)
    (hcall : call prims reader.recorded s input = some s') : Settled prims key s' := by
  obtain ⟨hsticky, ⟨hstate, hbuf⟩ | ⟨hok, hdecrypting⟩⟩ := h
  · obtain ⟨⟨answer, self'⟩, hpoll, rfl⟩ := map_eq_some_iff.mp hcall
    obtain ⟨herror, rfl⟩ := pollRead_of_failed hpoll hstate hbuf
    exact ⟨hsticky.concat (.inr herror), .inl ⟨hstate, hbuf⟩⟩
  · have hspec := call_spec hdecrypting hcall
    obtain ⟨⟨answer, self'⟩, hpoll, rfl⟩ := map_eq_some_iff.mp hcall
    refine ⟨hsticky.concat (.inl hok), ?_⟩
    by_cases herror : ∃ e, answer = .ready (.error e)
    · exact .inl ((pollRead_spec hdecrypting hpoll).1 herror hrecognizes)
    · have hok' : NoError (s.2 ++ [answer]) := by
        simpa [NoError, or_imp, forall_and] using ⟨hok, not_exists.mp herror⟩
      exact .inr ⟨hok', (hspec hok').1⟩

/-- After an error only errors are returned, if every call has room and the stream starts with
the known discriminator. -/
theorem errors_sticky [DecidableEq κ] [KeySlotId κ] (prims : Primitives)
    (reader : AsyncRead IoError ρ) (keySlot : κ) (ctx : KeyStoreContext κ) (inner : ρ)
    {decryptor self : StreamingAttachmentDecryptor (ρ × List UInt8)} {calls : List (ℕ × ℕ)}
    (hnew : new keySlot ctx (inner, []) = .ok decryptor)
    (hmeets : Meets (call prims reader.recorded)
      (fun s input => s.1.Recognizes reader.recorded input.2) (decryptor, []) calls)
    (hrun : run (call prims reader.recorded) (decryptor, []) calls = some (self, answers)) :
    Sticky answers := by
  obtain ⟨key, -, rfl⟩ := new_eq_ok hnew
  exact (run_invariant (call prims reader.recorded) (Settled prims key)
    (fun _ _ _ hrecognizes hcall h => h.call hrecognizes hcall) hmeets hrun
    ⟨.nil, .inr ⟨nofun, .start⟩⟩).1

theorem truncated_sticky :
    ∃ self e, run (call plainPrimitives.toPrimitives chunkReader.recorded)
      (started ([[0x02]], []), []) [(10, 8), (10, 8)] =
        some (self, [.ready (.error streamDecryptionError), .ready (.error e)]) ∧
      Sticky [.ready (.error streamDecryptionError), .ready (.error e)] := by
  have hmeets : Meets (call plainPrimitives.toPrimitives chunkReader.recorded)
      (fun s input => s.1.Recognizes chunkReader.recorded input.2) (started ([[0x02]], []), [])
      [(10, 8), (10, 8)] := by
    refine .cons ⟨by decide, ?_⟩ rfl (.cons ⟨by decide, fun _ h => by cases h⟩ rfl trivial)
    rintro key - - first rest hread
    cases hread
    rfl
  exact ⟨_, _, rfl, errors_sticky _ chunkReader UserSlot.organization userContext _
    (new_userContext _) hmeets rfl⟩

/-- An unknown discriminator is an error, after which the next chunks are returned as a whole
plaintext. -/
theorem unknown_discriminator_forgotten :
    new UserSlot.organization userContext ([0x00] :: threeByteChunks) =
        .ok (started ([0x00] :: threeByteChunks)) ∧
      ∃ self, run (call plainPrimitives.toPrimitives chunkReader)
        (started ([0x00] :: threeByteChunks), []) [(10, 8), (10, 8), (10, 8)] =
      some (self, [.ready (.error (.other
        "streaming attachment: unknown header discriminator byte")), .ready (.ok [1, 2, 3]),
        .ready (.ok [])]) :=
  ⟨new_userContext _, _, rfl⟩

end StreamingAttachmentDecryptor

end SdkInternal.Crypto
