import SdkInternal.Verification.Stream.AttachmentReader
import SdkInternal.Verification.Stream.Emission

/-! # Writing attachments

The bytes that the inner writer took and those that are queued are, at every point of a run,
the start of one stream. They are all of it once the writer has been shut down. -/

namespace SdkInternal.Crypto

open Shared List Aes256CbcHmacSha256 StreamingEncryptor Option Aes256CbcHmacSha256
open StreamingDecryptor (oneShotWire plainPrimitives)
open StreamingEncryptor (afterPlaintext emitting update_full)

namespace StreamingAttachmentEncryptor

/-! ## Collecting the wire -/

section

variable (prims : Primitives) (key : Aes256CbcHmacKey) (iv : Iv)

/-- The rounds that are left suffice for the bytes that are left. -/
theorem collectWire_emitting {rounds capacity emitted : ℕ} {bytes : List UInt8}
    (hcapacity : bytes.length ≤ capacity) (hemitted : emitted ≤ bytes.length)
    (hrounds : bytes.length - emitted < rounds) (wire : List UInt8) :
    collectWire prims rounds (emitting capacity bytes emitted) wire =
      some (.ok (wire ++ bytes.drop emitted)) := by
  induction rounds generalizing emitted wire with
  | zero => omega
  | succ rounds ih =>
    by_cases hall : bytes.length ≤ emitted
    · have hcall : update prims
          (emitting capacity bytes emitted) [] true =
            (.finalEncryptedChunk [], { emitting capacity bytes emitted with
              encryptorState := .done }) :=
        call_emitting_all prims hall ([], true)
      simp only [collectWire, hcall, drop_of_length_le hall]
    · have hsize : 0 < emissionChunkSize := by decide
      have hcall := call_emitting_some prims hcapacity (not_le.mp hall)
        ([], true)
      rw [call] at hcall
      simp only [collectWire, hcall]
      rw [ih (by omega) (by omega), append_assoc, ← drop_drop, ← length_drop,
        Nat.min_comm, take_eq_take_min, take_append_drop]

variable {plaintext : List UInt8}

theorem collectWire_afterPlaintext {capacity rounds : ℕ}
    (hroom : (plaintext.length / 16 + 1) * 16 ≤ capacity) (hrounds : capacity + 3 ≤ rounds) :
    collectWire prims rounds (afterPlaintext prims key iv capacity plaintext)
      [] = some (.ok (oneShotWire prims key iv plaintext)) := by
  obtain ⟨rounds, rfl⟩ : ∃ before, rounds = before + 1 := ⟨rounds - 1, by omega⟩
  rw [← append_nil plaintext] at hroom
  have hlast := update_last prims key iv hroom
  rw [append_nil] at hlast hroom
  have hlength : (encrypt prims iv plaintext key.key).2.length ≤ capacity := by
    rw [encrypt_length]
    exact hroom
  simp only [collectWire, hlast]
  rw [collectWire_emitting prims hlength (Nat.zero_le _) (by omega)]
  rfl

theorem collectWire_afterPlaintext_full (rounds : ℕ) {capacity : ℕ}
    (hplaintext : plaintext.length / 16 * 16 ≤ capacity)
    (hroom : capacity < (plaintext.length / 16 + 1) * 16) :
    collectWire prims (rounds + 1)
      (afterPlaintext prims key iv capacity plaintext) [] =
        some (.error streamEncryptionError) := by
  rw [← append_nil plaintext] at hroom
  obtain ⟨failed, hupdate, -⟩ :=
    update_full prims key iv hplaintext (Or.inr ⟨rfl, hroom⟩)
  simp only [collectWire, hupdate]

end

/-! ## Draining -/

variable {ω κ : Type}

def queued (self : StreamingAttachmentEncryptor (ω × List UInt8)) : List UInt8 :=
  self.inner.2 ++ self.pendingWrite.drop self.pendingHead

variable (writer : AsyncWrite IoError ω) (self : StreamingAttachmentEncryptor (ω × List UInt8))

theorem queued_advance (inner : ω) (count : ℕ) :
    queued { self with
      inner := (inner, self.inner.2 ++ (self.pendingWrite.drop self.pendingHead).take count)
      pendingHead := self.pendingHead + count } = queued self := by
  simp only [queued]
  rw [append_assoc, ← drop_drop, take_append_drop]

/-- What draining the queue in a given state can come to. -/
inductive Drained (state : StreamEncryptorState)
    (self' : StreamingAttachmentEncryptor (ω × List UInt8)) :
    Poll (Except IoError Unit) → Prop where
  | pending (hstate : self'.state = state) : Drained state self' .pending
  | failed (e : IoError) (hstate : self'.state = .error e) :
      Drained state self' (.ready (.error e))
  | drained (hstate : self'.state = state) (hempty : self'.pendingWrite = []) :
      Drained state self' (.ready (.ok ()))

theorem drainLoop_spec {rounds : ℕ} {self : StreamingAttachmentEncryptor (ω × List UInt8)}
    (hrounds : self.pendingWrite.length - self.pendingHead ≤ rounds) :
    queued (drainLoop writer.recorded rounds self).2 = queued self ∧
      Drained self.state (drainLoop writer.recorded rounds self).2
        (drainLoop writer.recorded rounds self).1 := by
  induction rounds generalizing self with
  | zero =>
    have hhead : ¬ self.pendingHead < self.pendingWrite.length := by omega
    rw [drainLoop, if_neg hhead]
    refine ⟨?_, .drained rfl rfl⟩
    simp only [queued, drop_nil, drop_of_length_le (not_lt.mp hhead)]
  | succ rounds ih =>
    by_cases hhead : self.pendingHead < self.pendingWrite.length
    · obtain ⟨⟨answer, inner⟩, hanswer⟩ : ∃ result, writer.pollWrite self.inner.1
          (self.pendingWrite.drop self.pendingHead) = result := ⟨_, rfl⟩
      rw [drainLoop, if_pos hhead]
      simp only [AsyncWrite.recorded, hanswer]
      cases answer with
      | pending =>
        refine ⟨?_, .pending rfl⟩
        simp only [queued, Poll.taken, take_zero, append_nil]
      | ready result =>
        cases result with
        | error e =>
          refine ⟨?_, .failed e rfl⟩
          simp only [queued, Poll.taken, take_zero, append_nil]
        | ok count =>
          cases count with
          | zero =>
            refine ⟨?_, .failed _ rfl⟩
            simp only [queued, Poll.taken, take_zero, append_nil]
          | succ count =>
            rw [← queued_advance self inner (count + 1)]
            refine ih ?_
            simp only
            omega
    · rw [drainLoop, if_neg hhead]
      refine ⟨?_, .drained rfl rfl⟩
      simp only [queued, drop_nil, drop_of_length_le (not_lt.mp hhead)]

theorem pollDrainPending_spec :
    ∃ answer self', self.pollDrainPending writer.recorded = (answer, self') ∧
      queued self' = queued self ∧ Drained self.state self' answer :=
  ⟨_, _, rfl, drainLoop_spec writer le_rfl⟩

/-! ## The queue through a run -/

/-- Before the shutdown only the discriminator has been queued, and the encryptor holds the
bytes that were accepted. After it their whole stream has been queued. -/
inductive Encrypting (prims : Primitives) (key : Aes256CbcHmacKey) (iv : Iv) (capacity : ℕ)
    (accepted : List UInt8) (self : StreamingAttachmentEncryptor (ω × List UInt8)) : Prop where
  | writing (hfits : accepted.length / 16 * 16 ≤ capacity)
      (hstate : self.state = .aes256CbcHmacLegacyStream
        (afterPlaintext prims key iv capacity accepted))
      (hqueued : queued self = [legacyStreamDiscriminator])
  | sealed (hstate : self.state = .finalized ∨ self.state = .done)
      (hqueued : queued self = legacyStreamDiscriminator ::
        oneShotWire prims key iv accepted)
  | failed (e : IoError) (hstate : self.state = .error e)

section

variable {prims : Primitives} {key : Aes256CbcHmacKey} {iv : Iv} {capacity : ℕ}
  {accepted : List UInt8} (writer : AsyncWrite IoError ω)
  {self self' : StreamingAttachmentEncryptor (ω × List UInt8)}

section

variable (h : Encrypting prims key iv capacity accepted self)

include h

theorem Encrypting.congr (hstate : self'.state = self.state)
    (hqueued : queued self' = queued self) : Encrypting prims key iv capacity accepted self' := by
  cases h with
  | writing hfits hs hq => exact .writing hfits (hstate.trans hs) (hqueued.trans hq)
  | sealed hs hq =>
    rw [← hstate] at hs
    exact .sealed hs (hqueued.trans hq)
  | failed e hs => exact .failed e (hstate.trans hs)

theorem pollWrite_spec (buf : List UInt8) :
    ∃ answer self', pollWrite prims writer.recorded self buf = some (answer, self') ∧
      Encrypting prims key iv capacity (accepted ++ buf.take answer.taken) self' := by
  cases h with
  | failed e hstate =>
    exact ⟨.ready (.error e), self, by simp only [pollWrite, hstate], .failed e hstate⟩
  | sealed hstate hqueued =>
    refine ⟨.ready (.error (.other "streaming attachment: write after shutdown")), self, ?_, ?_⟩
    · rcases hstate with hstate | hstate <;> simp only [pollWrite, hstate]
    · simp only [Poll.taken, take_zero, append_nil]
      exact .sealed hstate hqueued
  | writing hfits hstate hqueued =>
    obtain ⟨drain, drainedSelf, hdrain, hsame, hdrained⟩ := pollDrainPending_spec writer self
    rw [hqueued] at hsame
    rw [hstate] at hdrained
    simp only [pollWrite, hstate, hdrain]
    cases hdrained with
    | pending hs =>
      refine ⟨.pending, drainedSelf, rfl, ?_⟩
      simp only [Poll.taken, take_zero, append_nil]
      exact .writing hfits hs hsame
    | failed e hs =>
      exact ⟨.ready (.error e), drainedSelf, by simp only [hs], .failed e hs⟩
    | drained hs hempty =>
      simp only [hs]
      by_cases hbuf : buf = []
      · subst hbuf
        refine ⟨.ready (.ok 0), drainedSelf, rfl, ?_⟩
        rw [take_nil, append_nil]
        exact .writing hfits hs hsame
      · rw [if_neg (by simpa using hbuf)]
        by_cases hroom : (accepted ++ buf).length / 16 * 16 ≤ capacity
        · have hupdate := update_more prims key iv hroom
          refine ⟨.ready (.ok buf.length), _, by simp only [encryptChunk, hupdate]; rfl, ?_⟩
          simp only [Poll.taken, take_length]
          exact .writing hroom rfl hsame
        · obtain ⟨failed, hupdate, -⟩ : ∃ failed, update prims
              (afterPlaintext prims key iv capacity accepted) buf false =
                (.error, failed) ∧ failed.encryptorState = .error :=
            update_full prims key iv hfits (Or.inl (not_le.mp hroom))
          exact ⟨.ready (.error streamEncryptionError), _,
            by simp only [encryptChunk, hupdate]; rfl, .failed _ rfl⟩

theorem pollFlush_spec :
    Encrypting prims key iv capacity accepted (pollFlush writer.recorded self).2 := by
  obtain ⟨drain, drainedSelf, hdrain, hsame, hdrained⟩ := pollDrainPending_spec writer self
  simp only [pollFlush, hdrain]
  cases hdrained with
  | pending hs => exact h.congr hs hsame
  | failed e hs =>
    simp only [hs]
    exact .failed e hs
  | drained hs hempty =>
    simp only
    split
    case h_1 e he => exact .failed e he
    case h_2 => exact h.congr hs hsame

end

theorem shutdownInner_spec (hstate : self.state = .finalized ∨ self.state = .done)
    (hqueued : queued self =
      legacyStreamDiscriminator :: oneShotWire prims key iv accepted) :
    Encrypting prims key iv capacity accepted (shutdownInner writer.recorded self).2 ∧
      ((shutdownInner writer.recorded self).1 = .ready (.ok ()) →
        (shutdownInner writer.recorded self).2.state = .done ∧
          (shutdownInner writer.recorded self).2.pendingWrite = []) := by
  obtain ⟨drain, drainedSelf, hdrain, hsame, hdrained⟩ := pollDrainPending_spec writer self
  rw [hqueued] at hsame
  simp only [shutdownInner, hdrain]
  cases hdrained with
  | pending hs =>
    rw [← hs] at hstate
    exact ⟨.sealed hstate hsame, nofun⟩
  | failed e hs =>
    simp only [hs]
    exact ⟨.failed e hs, by simp⟩
  | drained hs hempty =>
    rw [← hs] at hstate
    obtain ⟨⟨answer, inner⟩, hanswer⟩ :
      ∃ result, writer.pollShutdown drainedSelf.inner.1 = result := ⟨_, rfl⟩
    simp only
    split
    case h_1 e he => exact ⟨.failed e he, by simp⟩
    case h_2 =>
      simp only [AsyncWrite.recorded, hanswer]
      cases answer with
      | pending => exact ⟨.sealed hstate hsame, by simp⟩
      | ready result =>
        cases result with
        | ok done => exact ⟨.sealed (Or.inr rfl) hsame, fun _ => ⟨rfl, hempty⟩⟩
        | error e => exact ⟨.failed e rfl, by simp⟩

theorem pollShutdown_spec (h : Encrypting prims key iv capacity accepted self) :
    ∃ answer self', pollShutdown prims writer.recorded self = some (answer, self') ∧
      Encrypting prims key iv capacity accepted self' ∧
      (answer = .ready (.ok ()) → self'.state = .done ∧ self'.pendingWrite = []) := by
  obtain ⟨drain, drainedSelf, hdrain, hsame, hdrained⟩ := pollDrainPending_spec writer self
  simp only [pollShutdown, hdrain]
  cases hdrained with
  | pending hs => exact ⟨.pending, drainedSelf, rfl, h.congr hs hsame, by simp⟩
  | failed e hs =>
    exact ⟨.ready (.error e), drainedSelf, by simp only [hs], .failed e hs, by simp⟩
  | drained hs hempty =>
    cases h with
    | failed e hstate =>
      rw [hstate] at hs
      exact ⟨.ready (.error e), drainedSelf, by simp only [hs], .failed e hs, by simp⟩
    | sealed hstate hqueued =>
      rw [hqueued] at hsame
      rw [← hs] at hstate
      obtain ⟨hspec, hready⟩ := shutdownInner_spec writer hstate hsame
      refine ⟨_, _, ?_, hspec, hready⟩
      rcases hstate with hstate | hstate <;> simp only [hstate]
    | writing hfits hstate hqueued =>
      rw [hstate] at hs
      rw [hqueued] at hsame
      simp only [hs]
      by_cases hroom : (accepted.length / 16 + 1) * 16 ≤ capacity
      · have hwire : collectWire prims
            ((afterPlaintext prims key iv capacity
              accepted).ciphertextBuffer.inner.capacity + 3)
            (afterPlaintext prims key iv capacity accepted) [] =
            some (.ok (oneShotWire prims key iv accepted)) :=
          collectWire_afterPlaintext prims key iv hroom le_rfl
        have hinner : drainedSelf.inner.2 = [legacyStreamDiscriminator] := by
          rw [queued, hempty, drop_nil, append_nil] at hsame
          exact hsame
        -- the stream is queued only once the discriminator has been taken
        have hstream : queued { drainedSelf with
            state := .finalized
            pendingWrite := oneShotWire prims key iv accepted
            pendingHead := 0 } =
            legacyStreamDiscriminator :: oneShotWire prims key iv accepted := by
          simp only [queued, hinner, drop_zero, singleton_append]
        obtain ⟨hspec, hready⟩ := shutdownInner_spec writer (Or.inl rfl) hstream
        exact ⟨_, _, by simp only [hwire], hspec, hready⟩
      · have hwire := collectWire_afterPlaintext_full prims key iv
          ((afterPlaintext prims key iv capacity
            accepted).ciphertextBuffer.inner.capacity + 2) hfits (not_le.mp hroom)
        exact ⟨.ready (.error streamEncryptionError), _, by simp only [hwire]; rfl,
          .failed _ rfl, by simp⟩

end

/-! ## Runs -/

inductive WriterCall where
  | write (buf : List UInt8)
  | flush
  | shutdown

inductive WriterEvent where
  | write (buf : List UInt8) (answer : Poll (Except IoError ℕ))
  | flush (answer : Poll (Except IoError Unit))
  | shutdown (answer : Poll (Except IoError Unit))
  deriving DecidableEq

def WriterEvent.accepted : WriterEvent → List UInt8
  | .write buf answer => buf.take answer.taken
  | .flush _ | .shutdown _ => []

variable (events : List WriterEvent)

def acceptedBytes : List UInt8 :=
  (events.map WriterEvent.accepted).flatten

theorem acceptedBytes_concat (event : WriterEvent) :
    acceptedBytes (events ++ [event]) = acceptedBytes events ++ event.accepted := by
  simp [acceptedBytes]

def call (prims : Primitives) (writer : AsyncWrite IoError ω)
    (s : StreamingAttachmentEncryptor ω × List WriterEvent) :
    WriterCall → Option (StreamingAttachmentEncryptor ω × List WriterEvent)
  | .write buf =>
    (pollWrite prims writer s.1 buf).map fun (answer, self) =>
      (self, s.2 ++ [.write buf answer])
  | .flush =>
    let (answer, self) := pollFlush writer s.1
    some (self, s.2 ++ [.flush answer])
  | .shutdown =>
    (pollShutdown prims writer s.1).map fun (answer, self) =>
      (self, s.2 ++ [.shutdown answer])

section

variable {prims : Primitives} {key : Aes256CbcHmacKey} {iv : Iv} {capacity : ℕ}
  {writer : AsyncWrite IoError ω}

/-- The writer holds exactly the bytes that were accepted in the calls so far. -/
def Holds (prims : Primitives) (key : Aes256CbcHmacKey) (iv : Iv) (capacity : ℕ)
    (s : StreamingAttachmentEncryptor (ω × List UInt8) × List WriterEvent) : Prop :=
  Encrypting prims key iv capacity (acceptedBytes s.2) s.1

variable {s s' : StreamingAttachmentEncryptor (ω × List UInt8) × List WriterEvent}

theorem call_spec {input : WriterCall} (h : Holds prims key iv capacity s)
    (hcall : call prims writer.recorded s input = some s') :
    Holds prims key iv capacity s' ∧
      (s'.2.getLast? = some (.shutdown (.ready (.ok ()))) →
        s'.1.state = .done ∧ s'.1.pendingWrite = []) := by
  cases input with
  | write buf =>
    obtain ⟨answer, self', hpoll, hspec⟩ := pollWrite_spec writer h buf
    simp only [call, hpoll, map_some, some.injEq] at hcall
    subst hcall
    rw [Holds, acceptedBytes_concat]
    exact ⟨hspec, by simp⟩
  | flush =>
    have hspec := pollFlush_spec writer h
    simp only [call, some.injEq] at hcall
    subst hcall
    rw [Holds, acceptedBytes_concat, WriterEvent.accepted, append_nil]
    exact ⟨hspec, by simp⟩
  | shutdown =>
    obtain ⟨answer, self', hpoll, hspec, hready⟩ := pollShutdown_spec writer h
    simp only [call, hpoll, map_some, some.injEq] at hcall
    subst hcall
    rw [Holds, acceptedBytes_concat, WriterEvent.accepted, append_nil]
    refine ⟨hspec, ?_⟩
    intro hlast
    rw [getLast?_concat] at hlast
    cases hlast
    exact hready rfl

theorem run_spec {calls : List WriterCall} (h : Holds prims key iv capacity s) (hfresh : s.2 = [])
    (hrun : run (call prims writer.recorded) s calls = some s') :
    Holds prims key iv capacity s' ∧
      (s'.2.getLast? = some (.shutdown (.ready (.ok ()))) →
        s'.1.state = .done ∧ s'.1.pendingWrite = []) := by
  refine run_invariant (call prims writer.recorded)
    (fun s => Holds prims key iv capacity s ∧
      (s.2.getLast? = some (.shutdown (.ready (.ok ()))) →
        s.1.state = .done ∧ s.1.pendingWrite = []))
    ?_ (meets_true _ s calls) hrun ⟨h, by simp [hfresh]⟩
  intro s input s' _ hcall hs
  exact call_spec hs.1 hcall

theorem new_eq_ok [DecidableEq κ] [KeySlotId κ] (prims : Primitives) {keySlot : κ}
    {ctx : KeyStoreContext κ} {inner : ω} {plaintextSize : UInt64} {iv : Iv}
    {encryptor : StreamingAttachmentEncryptor ω}
    (h : new keySlot ctx inner plaintextSize iv = some (.ok encryptor)) :
    ∃ key, ctx.getSymmetricKey keySlot = .ok (.aes256CbcHmacKey key) ∧
      encryptor = ⟨inner, .aes256CbcHmacLegacyStream (afterPlaintext prims key iv
        (ciphertextCapacity plaintextSize).toNat []),
        [legacyStreamDiscriminator], 0⟩ := by
  unfold new at h
  split at h
  · cases h
  · rename_i key hget
    simp only [tryNew_eq prims] at h
    split_ifs at h
    · cases h
      exact ⟨key, hget, rfl⟩
    · cases h
  · cases h

theorem holds_new (prims : Primitives) (key : Aes256CbcHmacKey) (iv : Iv) (capacity : ℕ)
    (inner : ω) :
    Holds prims key iv capacity (⟨(inner, []), .aes256CbcHmacLegacyStream
      (afterPlaintext prims key iv capacity []),
      [legacyStreamDiscriminator], 0⟩, []) :=
  .writing (by simp [acceptedBytes]) rfl rfl

theorem Encrypting.inner_eq {accepted : List UInt8}
    {self : StreamingAttachmentEncryptor (ω × List UInt8)}
    (h : Encrypting prims key iv capacity accepted self) (hstate : self.state = .done)
    (hempty : self.pendingWrite = []) :
    self.inner.2 =
      legacyStreamDiscriminator :: oneShotWire prims key iv accepted := by
  cases h with
  | writing hfits hs hqueued | failed e hs =>
    rw [hstate] at hs
    cases hs
  | sealed hs hqueued =>
    rw [queued, hempty, drop_nil, append_nil] at hqueued
    exact hqueued

/-- Once a shutdown has succeeded, the inner writer has taken the discriminator and the
one-shot encryption of exactly the bytes that were accepted, whatever the order of the calls
and whatever it answered to them. -/
theorem shutdown_oneShot [DecidableEq κ] [KeySlotId κ] (prims : Primitives)
    (writer : AsyncWrite IoError ω) (keySlot : κ) (ctx : KeyStoreContext κ) (inner : ω)
    (plaintextSize : UInt64) (iv : Iv)
    {encryptor self : StreamingAttachmentEncryptor (ω × List UInt8)} {calls : List WriterCall}
    {events : List WriterEvent}
    (hnew : new keySlot ctx (inner, []) plaintextSize iv = some (.ok encryptor))
    (hrun : run (call prims writer.recorded) (encryptor, []) calls = some (self, events))
    (hlast : events.getLast? = some (.shutdown (.ready (.ok ())))) :
    ∃ key, ctx.getSymmetricKey keySlot = .ok (.aes256CbcHmacKey key) ∧
      self.inner.2 = 0x02 :: (iv.toList ++
        (encrypt prims iv (acceptedBytes events) key.key).1.toList ++
        (encrypt prims iv (acceptedBytes events) key.key).2) := by
  obtain ⟨key, hkey, rfl⟩ := new_eq_ok prims hnew
  refine ⟨key, hkey, ?_⟩
  obtain ⟨hholds, hdone⟩ := run_spec (holds_new prims key iv _ inner) rfl hrun
  obtain ⟨hstate, hempty⟩ := hdone hlast
  rw [hholds.inner_eq hstate hempty]
  rfl

/-- A writer that takes at most twenty bytes and is then busy for a poll. -/
def slowWriter : AsyncWrite IoError Bool where
  pollWrite busy data :=
    if busy then (.pending, false) else (.ready (.ok (min 20 data.length)), true)
  pollFlush busy := if busy then (.pending, false) else (.ready (.ok ()), busy)
  pollShutdown busy := if busy then (.pending, false) else (.ready (.ok ()), busy)

def threeByteCalls : List WriterCall :=
  [.write [1, 2], .flush, .write [3]] ++ List.replicate 5 .shutdown

def threeByteEvents : List WriterEvent :=
  [.write [1, 2] (.ready (.ok 2)), .flush .pending, .write [3] (.ready (.ok 1))] ++
    List.replicate 4 (.shutdown .pending) ++ [.shutdown (.ready (.ok ()))]

theorem shutdown_three_bytes :
    ∃ key, userContext.getSymmetricKey .organization = .ok (.aes256CbcHmacKey key) ∧
      StreamingAttachmentDecryptor.threeByteChunks.flatten =
        0x02 :: ((Vector.replicate 16 0 : Iv).toList ++ (encrypt
          plainPrimitives.toPrimitives (Vector.replicate 16 0) [1, 2, 3]
            key.key).1.toList ++
        (encrypt plainPrimitives.toPrimitives
          (Vector.replicate 16 0) [1, 2, 3] key.key).2) := by
  have hkey : userContext.getSymmetricKey .organization =
      .ok (.aes256CbcHmacKey zeroLegacyKey) := by decide +kernel
  have hnew : new UserSlot.organization userContext (false, ([] : List UInt8)) 3
      (Vector.replicate 16 0) = some (.ok ⟨(false, []), .aes256CbcHmacLegacyStream
        (afterPlaintext plainPrimitives.toPrimitives
          zeroLegacyKey (Vector.replicate 16 0) 16 []), [legacyStreamDiscriminator], 0⟩) := by
    rw [new, hkey]
    rfl
  have hresult : (run (call plainPrimitives.toPrimitives slowWriter.recorded)
      (⟨(false, []), .aes256CbcHmacLegacyStream (afterPlaintext
        plainPrimitives.toPrimitives zeroLegacyKey (Vector.replicate 16 0)
          16 []), [legacyStreamDiscriminator], 0⟩, []) threeByteCalls).map
        (fun s => (s.1.inner.2, s.2)) =
      some (StreamingAttachmentDecryptor.threeByteChunks.flatten, threeByteEvents) := by
    decide +kernel
  obtain ⟨⟨self, events⟩, hrun, hself⟩ := map_eq_some_iff.mp hresult
  obtain ⟨hinner, rfl⟩ := Prod.mk.inj hself
  have haccepted : acceptedBytes threeByteEvents = [1, 2, 3] := by decide
  have hlast : threeByteEvents.getLast? = some (.shutdown (.ready (.ok ()))) := by decide
  have hwire := shutdown_oneShot plainPrimitives.toPrimitives slowWriter
    UserSlot.organization userContext false 3 (Vector.replicate 16 0) hnew hrun hlast
  rw [haccepted, hinner] at hwire
  exact hwire

end

end StreamingAttachmentEncryptor

end SdkInternal.Crypto
