import SdkInternal.Model.Ipc.Message
import SdkInternal.Shared.KeyedStore
import SdkInternal.Shared.Run

/-! # Splitting payloads into fragments and reassembling them

A payload larger than one crypto provider message is sent as fragments. The receiver
keeps one partial message for each source and message id, in a map guarded by quotas
and swept of expired entries whenever a valid fragment arrives.

Instants of the receiver's monotonic clock and durations are counted in nanoseconds. -/

namespace SdkInternal.Ipc

open Shared

/-- The topic of the message a fragment belongs to, which may itself have none. -/
abbrev OriginalTopic := Option String

/-- Reserved topic that marks a message as a fragment. -/
def fragmentTopic : String := "IpcFragment"

/-- Largest payload that can be sent, and the largest reassembled payload. -/
def maxPayloadSize : ℕ := 5 * 1024 * 1024

/-- Upper bound on the encoded size of a `FragmentHeader`. -/
def maxHeaderLen : ℕ := 128

def reassemblyTimeout : ℕ := 10 * 1000000000

def reassemblyIdleTimeout : ℕ := 5 * 1000000000

/-! ## Fragment frames -/

structure FragmentHeader where
  messageId : UInt64
  index : UInt32
  totalLen : UInt32

structure FragmentFrame where
  header : FragmentHeader
  data : List UInt8

/-- The `ciborium` encoder and decoder of fragment headers. The decoder returns the
header and what it left of the input. -/
structure HeaderCodec where
  intoWriter : FragmentHeader → List UInt8
  fromReader : List UInt8 → Option (FragmentHeader × List UInt8)

variable (codec : HeaderCodec)

/-- What the fragmentation code relies on: decoding consumes exactly the bytes that were
encoded, and no header needs more than `maxHeaderLen` of them. -/
structure HeaderCodec.Lawful : Prop where
  fromReader_intoWriter : ∀ header rest,
    codec.fromReader (codec.intoWriter header ++ rest) = some (header, rest)
  length_intoWriter_le : ∀ header, (codec.intoWriter header).length ≤ maxHeaderLen

def FragmentFrame.encode (frame : FragmentFrame) : List UInt8 :=
  codec.intoWriter frame.header ++ frame.data

def FragmentFrame.decode (payload : List UInt8) : Option FragmentFrame :=
  (codec.fromReader payload).map fun (header, data) => ⟨header, data⟩

/-! ## Topics -/

/-- `str::strip_prefix`. -/
def stripPrefix (s pattern : String) : Option String :=
  (s.toList.dropPrefix? pattern.toList).map String.ofList

/-- `none` if the topic does not mark a fragment, otherwise the topic of the message the
fragment belongs to. -/
def Reassembler.originalTopic (topic : Option String) : Option OriginalTopic :=
  match topic with
  | none => none
  | some topic =>
    match stripPrefix topic fragmentTopic with
    | none => none
    | some rest =>
      if rest.isEmpty then some none
      else (stripPrefix rest "/").map some

/-- The topic carried by the fragments of a message with `topic`. -/
def Fragments.fragmentTopic : Option String → String
  | some topic => Ipc.fragmentTopic ++ "/" ++ topic
  | none => Ipc.fragmentTopic

/-! ## Splitting -/

inductive FragmentationError where
  | payloadTooLarge (len : ℕ)
  | providerLimitTooSmall (len : ℕ)
  | reservedTopic (topic : String)

/-- The messages that carry one outgoing message, produced one at a time. -/
inductive Fragments where
  | single (message : Option OutgoingMessage)
  | many (message : OutgoingMessage) (messageId : UInt64) (topic : String)
      (fragmentLen : ℕ) (nextIndex : UInt32)

/-- The random number generator's draw for the message is the argument `messageId`. -/
def Fragments.split (messageId : UInt64) (message : OutgoingMessage) (maxPayloadLen : ℕ) :
    Except FragmentationError Fragments :=
  match message.topic with
  | some topic =>
    if (Reassembler.originalTopic (some topic)).isSome then .error (.reservedTopic topic)
    else splitPayload
  | none => splitPayload
where
  splitPayload : Except FragmentationError Fragments :=
    let totalLen := message.payload.length
    if totalLen > maxPayloadSize then .error (.payloadTooLarge totalLen)
    else if totalLen ≤ maxPayloadLen then .ok (.single (some message))
    else
      let fragmentLen := maxPayloadLen - maxHeaderLen
      if fragmentLen = 0 then .error (.providerLimitTooSmall maxPayloadLen)
      else .ok (.many message messageId (Fragments.fragmentTopic message.topic) fragmentLen 0)

def Fragments.next : Fragments → Option (OutgoingMessage × Fragments)
  | .single message => message.map fun m => (m, .single none)
  | .many message messageId topic fragmentLen nextIndex =>
    let totalLen := message.payload.length
    let start := nextIndex.toNat * fragmentLen
    if start ≥ totalLen then none
    else
      let stop := min totalLen (start + fragmentLen)
      let frame : FragmentFrame :=
        { header := { messageId, index := nextIndex, totalLen := totalLen.toUInt32 }
          data := (message.payload.take stop).drop start }
      some ({ payload := frame.encode codec
              destination := message.destination
              topic := some topic },
        .many message messageId topic fragmentLen (nextIndex + 1))

/-- The messages of the first `fuel` calls of the iterator. -/
def Fragments.iterate (codec : HeaderCodec) : ℕ → Fragments → List OutgoingMessage
  | 0, _ => []
  | fuel + 1, fragments =>
    match fragments.next codec with
    | none => []
    | some (message, rest) => message :: iterate codec fuel rest

/-- A number of calls after which the iterator has ended. -/
def Fragments.bound : Fragments → ℕ
  | .single _ => 1
  | .many message _ _ _ _ => message.payload.length

def Fragments.collect (fragments : Fragments) : List OutgoingMessage :=
  fragments.iterate codec fragments.bound

/-! ## Quotas -/

inductive ReassemblyError where
  | malformed
  | invalidHeader
  | outOfOrder
  | tooManyPartialMessages
  | bufferFull
  | sourceBufferFull
  | inconsistent
deriving DecidableEq

abbrev MessageKey := Source × UInt64

structure Usage where
  messages : ℕ
  bytes : ℕ

def sourceLimit : Usage := ⟨4, maxPayloadSize⟩

def otherPoolLimit : Usage := ⟨16, 4 * maxPayloadSize⟩

def webPoolLimit : Usage := ⟨4, maxPayloadSize⟩

inductive Pool where
  | web
  | other
deriving DecidableEq

def Pool.of : Source → Pool
  | .web .. => .web
  | _ => .other

def Pool.limit : Pool → Usage
  | .web => webPoolLimit
  | .other => otherPoolLimit

/-! ## Partial messages -/

structure PartialMessage where
  deadline : ℕ
  expiresAt : ℕ
  totalLen : ℕ
  topic : OriginalTopic
  nextIndex : UInt32
  payload : List UInt8

variable (p : PartialMessage)

def PartialMessage.check (header : FragmentHeader) (topic : OriginalTopic) (dataLen : ℕ) :
    Except ReassemblyError Unit :=
  if header.index ≠ p.nextIndex then .error .outOfOrder
  else if header.totalLen.toNat ≠ p.totalLen ∨ topic ≠ p.topic ∨
      p.payload.length + dataLen > p.totalLen then .error .inconsistent
  else .ok ()

def PartialMessage.append (data : List UInt8) : PartialMessage :=
  { p with payload := p.payload ++ data, nextIndex := p.nextIndex + 1 }

def PartialMessage.isComplete : Bool :=
  p.payload.length == p.totalLen

structure ReassemblyState where
  partials : Store MessageKey PartialMessage

instance : Inhabited ReassemblyState := ⟨⟨∅⟩⟩

/-- Adds up the entries whose source passes the filter. -/
def ReassemblyState.usage (state : ReassemblyState) (filter : Source → Bool) : Usage :=
  (state.partials.entries.filter fun e => filter e.1.1).foldl
    (fun usage e => ⟨usage.messages + 1, usage.bytes + e.2.totalLen⟩) ⟨0, 0⟩

/-- Whether `source` can start another incomplete message of `totalLen` bytes. -/
def ReassemblyState.admitMessage (state : ReassemblyState) (source : Source) (totalLen : ℕ) :
    Except ReassemblyError Unit :=
  let pool := Pool.of source
  let poolLimit := pool.limit
  let sourceUsage := state.usage (fun s => decide (s = source))
  let poolUsage := state.usage (fun s => decide (Pool.of s = pool))
  if sourceUsage.messages ≥ sourceLimit.messages ∨
      poolUsage.messages ≥ poolLimit.messages then .error .tooManyPartialMessages
  else if sourceUsage.bytes + totalLen > sourceLimit.bytes then .error .sourceBufferFull
  else if poolUsage.bytes + totalLen > poolLimit.bytes then .error .bufferFull
  else .ok ()

def ReassemblyState.removeExpired (state : ReassemblyState) (now : ℕ) :
    ReassemblyState :=
  ⟨state.partials.retain fun _ partialMessage => decide (partialMessage.expiresAt > now)⟩

/-! ## The reassembler -/

/-- The timeouts of a reassembler. The state behind its mutex is passed explicitly. -/
structure Reassembler where
  timeout : ℕ
  idleTimeout : ℕ

variable (r : Reassembler)

/-- The partial message a fragment continues: the stored one, or a new one for the first
fragment of an admitted message. The new one is inserted before the fragment is checked. -/
def Reassembler.findOrInsert (state : ReassemblyState) (key : MessageKey)
    (header : FragmentHeader) (topic : OriginalTopic) (now : ℕ) :
    Except ReassemblyError (PartialMessage × ReassemblyState) :=
  match state.partials.lookup key with
  | some partialMessage => .ok (partialMessage, state)
  | none =>
    if header.index ≠ 0 then .error .outOfOrder
    else
      match state.admitMessage key.1 header.totalLen.toNat with
      | .error error => .error error
      | .ok () =>
        let deadline := now + r.timeout
        let partialMessage : PartialMessage :=
          { deadline, expiresAt := deadline, totalLen := header.totalLen.toNat, topic
            nextIndex := 0, payload := [] }
        .ok (partialMessage, ⟨state.partials.insert key partialMessage⟩)

/-- Appends one fragment received at `now` and returns the reassembled message once the
last fragment arrived. -/
def Reassembler.accept (codec : HeaderCodec) (state : ReassemblyState) (message : IncomingMessage)
    (topic : OriginalTopic) (now : ℕ) :
    Except ReassemblyError (Option IncomingMessage) × ReassemblyState :=
  match FragmentFrame.decode codec message.payload with
  | none => (.error .malformed, state)
  | some ⟨header, data⟩ =>
    if header.totalLen.toNat > maxPayloadSize ∨ data = [] then (.error .invalidHeader, state)
    else
      let key := (message.source, header.messageId)
      let state := state.removeExpired now
      match r.findOrInsert state key header topic now with
      | .error error => (.error error, state)
      | .ok (partialMessage, state) =>
        match partialMessage.check header topic data.length with
        | .error error => (.error error, ⟨state.partials.erase key⟩)
        | .ok () =>
          let appended := partialMessage.append data
          let updated : PartialMessage :=
            { appended with expiresAt := min appended.deadline (now + r.idleTimeout) }
          if updated.isComplete then
            (.ok (some { payload := updated.payload, destination := message.destination
                         source := key.1, topic := updated.topic }),
              ⟨state.partials.erase key⟩)
          else (.ok none, ⟨state.partials.insert key updated⟩)

/-- Passes non-fragment messages through, and returns a reassembled message once its last
fragment arrives. Invalid fragments are dropped. -/
def Reassembler.process (codec : HeaderCodec) (state : ReassemblyState)
    (message : IncomingMessage) (now : ℕ) : Option IncomingMessage × ReassemblyState :=
  match Reassembler.originalTopic message.topic with
  | none => (some message, state)
  | some topic =>
    match r.accept codec state message topic now with
    | (.error _, state) => (none, state)
    | (.ok result, state) => (result, state)

structure AcceptCall where
  message : IncomingMessage
  topic : OriginalTopic
  now : ℕ

def Reassembler.acceptAll (codec : HeaderCodec) :
    ReassemblyState → List AcceptCall →
      List (Except ReassemblyError (Option IncomingMessage)) × ReassemblyState :=
  feed fun state call => r.accept codec state call.message call.topic call.now

structure Arrival where
  message : IncomingMessage
  now : ℕ

def Reassembler.processAll (codec : HeaderCodec) :
    ReassemblyState → List Arrival → List (Option IncomingMessage) × ReassemblyState :=
  feed fun state arrival => r.process codec state arrival.message arrival.now

end SdkInternal.Ipc
