import SdkInternal.Model.Ipc.Message
import SdkInternal.Model.Ipc.Noise.Handshake
import SdkInternal.Shared.KeyedStore

/-! # The Noise crypto provider

One provider with its session repository, as a machine that interleaves any number of
calls of `send` with the receive loop. A step performs one awaited operation together with
the code up to the next one. What the environment decides is part of the action: the
clock, random numbers, the answers of the communication backend and the frames that
arrive. Handing a frame to the backend and getting the backend's answer are two steps. -/

namespace SdkInternal.Ipc.Noise

open Shared

/-! ## Frames and errors -/

inductive Frame where
  | handshakeStart (message : HandshakeStartMessage)
  | handshakeFinish (message : HandshakeFinishMessage)
  | transportFrame (frame : TransportFrame)
  | cryptoInvalidated
deriving DecidableEq

/-- An outgoing message whose payload is the encoding of `frame`. -/
structure OutgoingFrame where
  destination : Endpoint
  topic : Option String
  frame : Frame

/-- An incoming message. The frame is missing if the payload is malformed. -/
structure IncomingFrame where
  source : Source
  destination : Endpoint
  topic : Option String
  frame : Option Frame
deriving DecidableEq

inductive NoiseCryptoProviderError where
  | handshakeProtocol
  | timeout
  | transportUnreachable
  | transportSend (kind : ErrorKind)
  | transportReceive (kind : ErrorKind)
  | decryptionFailure
deriving DecidableEq

def NoiseCryptoProviderError.kind : NoiseCryptoProviderError → ErrorKind
  | .handshakeProtocol => .other
  | .timeout => .other
  | .decryptionFailure => .other
  | .transportUnreachable => .unreachable
  | .transportSend kind => kind
  | .transportReceive kind => kind

/-- Classifies a failed send of the backend. -/
def transportSendError : ErrorKind → NoiseCryptoProviderError
  | .unreachable => .transportUnreachable
  | kind => .transportSend kind

/-- Sessions older than this many seconds are replaced on the next send. -/
def rehandshakeIntervalSecs : UInt64 := 300

/-- The cryptography that the provider is built on. -/
structure Primitives where
  aead : Aead
  snow : Snow

/-! ## Calls of `send` -/

/-- Where a call of `send` stands. It holds the guard in every place but the first two and
the last two. -/
inductive SendPc where
  | idle
  | locking (message : OutgoingMessage)
  | getting (message : OutgoingMessage)
  | removing (message : OutgoingMessage)
  | subscribing (message : OutgoingMessage)
  | sendingStart (message : OutgoingMessage) (initiator : HandshakeInitiator)
  | startHanded (message : OutgoingMessage) (initiator : HandshakeInitiator)
  | awaitingFinish (message : OutgoingMessage) (initiator : HandshakeInitiator)
  | savingHandshake (message : OutgoingMessage) (session : PersistentTransportState)
  | gettingAgain (message : OutgoingMessage)
  | encrypting (message : OutgoingMessage) (session : PersistentTransportState)
  | frameHanded (message : OutgoingMessage) (session : PersistentTransportState)
  | saving (message : OutgoingMessage) (session : PersistentTransportState)
  | clearing (message : OutgoingMessage) (session : PersistentTransportState)
      (error : NoiseCryptoProviderError)
  | returned (result : Except NoiseCryptoProviderError Unit)
  | panicked

/-- The awaited operations of `send`. An answer of the backend is the kind of its error,
or none. -/
inductive SendAction where
  | call (message : OutgoingMessage)
  | lock
  | get (now : UInt64)
  | remove
  | subscribe (ephemeral : ℕ)
  | handStart
  | startAnswer (answer : Option ErrorKind)
  | incoming (message : IncomingFrame) (now : UInt64)
  | receiveError (kind : ErrorKind)
  | timeout
  | saveHandshake
  | getAgain
  | handFrame
  | frameAnswer (answer : Option ErrorKind)
  | save
  | clear
deriving DecidableEq

/-! ## The receive loop -/

inductive LoopPc where
  | receiving
  | finishHanded (endpoint : Endpoint) (responder : HandshakeResponder)
  | savingResponder (endpoint : Endpoint) (session : PersistentTransportState)
  | locking (message : IncomingFrame) (frame : TransportFrame)
  | getting (message : IncomingFrame) (frame : TransportFrame)
  | invalidatedHanded
  | savingReceived (message : IncomingFrame) (session : PersistentTransportState)
      (payload : List UInt8)
  | removing (endpoint : Endpoint)

/-- The awaited operations of the receive loop, and its abort at any of them. -/
inductive LoopAction where
  | receive (message : IncomingFrame) (ephemeral : ℕ)
  | receiveError
  | finishAnswer (answer : Option ErrorKind) (now : UInt64)
  | saveResponder
  | lock
  | get
  | invalidatedAnswer (answer : Option ErrorKind)
  | saveReceived
  | remove
  | abort
deriving DecidableEq

inductive Action where
  | send (task : ℕ) (action : SendAction)
  | loop (action : LoopAction)

/-! ## States -/

/-- Who holds the guard of the persisted transport states. -/
inductive Owner where
  | send (task : ℕ)
  | loop
deriving DecidableEq

/-- One use of a send key. -/
structure Encryption where
  transportCipher : TransportCipher
  sendKey : SymmetricKey
  nonce : UInt64
  plaintext : List UInt8

/-- The provider with its repository, its calls and what it handed to the backend. The
last two fields record the sessions that handshakes established, in the order they were
saved, and every encryption of a frame. -/
structure Provider where
  sessions : Store Endpoint PersistentTransportState
  guard : Option Owner
  sends : ℕ → SendPc
  loop : LoopPc
  outbox : List OutgoingFrame
  received : List IncomingMessage
  established : List (Endpoint × SymmetricKey)
  encrypted : List Encryption

namespace Provider

def start (sessions : Store Endpoint PersistentTransportState) : Provider where
  sessions
  guard := none
  sends := fun _ => .idle
  loop := .receiving
  outbox := []
  received := []
  established := sessions.entries.map fun e => (e.1, e.2.sendKey)
  encrypted := []

variable (s : Provider)

def setSend (task : ℕ) (pc : SendPc) : Provider :=
  { s with sends := Function.update s.sends task pc }

def endSend (task : ℕ) (pc : SendPc) : Provider :=
  { s.setSend task pc with guard := none }

def transmit (destination : Endpoint) (topic : Option String) (frame : Frame) : Provider :=
  { s with outbox := s.outbox ++ [{ destination, topic, frame }] }

variable (endpoint : Endpoint) (session : PersistentTransportState)

def saveSession : Provider :=
  { s with sessions := s.sessions.insert endpoint session }

def removeSession : Provider :=
  { s with sessions := s.sessions.erase endpoint }

def establish : Provider :=
  { s.saveSession endpoint session with
    established := s.established ++ [(endpoint, session.sendKey)] }

/-! ## Steps -/

variable (prims : Primitives)

def stepSend (s : Provider) (task : ℕ) : SendAction → Option Provider
  | .call message =>
    match s.sends task with
    | .idle => some (s.setSend task (.locking message))
    | _ => none
  | .lock =>
    match s.sends task, s.guard with
    | .locking message, none =>
      some { s.setSend task (.getting message) with guard := some (.send task) }
    | _, _ => none
  | .get now =>
    match s.sends task with
    | .getting message =>
      match s.sessions.lookup message.destination with
      | none => some (s.setSend task (.subscribing message))
      | some session =>
        if session.isOlderThan now rehandshakeIntervalSecs then
          some (s.setSend task (.removing message))
        else some (s.setSend task (.gettingAgain message))
    | _ => none
  | .remove =>
    match s.sends task with
    | .removing message =>
      some ((s.setSend task (.subscribing message)).removeSession message.destination)
    | _ => none
  | .subscribe ephemeral =>
    match s.sends task with
    | .subscribing message =>
      some (s.setSend task (.sendingStart message ⟨default, ephemeral⟩))
    | _ => none
  | .handStart =>
    match s.sends task with
    | .sendingStart message initiator =>
      some ((s.setSend task (.startHanded message initiator)).transmit message.destination
        none (.handshakeStart (initiator.writeStartMessage prims.snow)))
    | _ => none
  | .startAnswer answer =>
    match s.sends task with
    | .startHanded message initiator =>
      match answer with
      | none => some (s.setSend task (.awaitingFinish message initiator))
      | some kind => some (s.endSend task (.returned (.error (transportSendError kind))))
    | _ => none
  | .incoming incoming now =>
    match s.sends task with
    | .awaitingFinish message initiator =>
      if incoming.source.toEndpoint ≠ message.destination then some s
      else
        match incoming.frame with
        | none => some (s.endSend task (.returned (.error .handshakeProtocol)))
        | some (.handshakeFinish finish) =>
          match initiator.readResponseMessage prims.snow finish with
          | none => some (s.endSend task (.returned (.error .handshakeProtocol)))
          | some split =>
            some (s.setSend task
              (.savingHandshake message (initiator.transportState split now)))
        | some _ => some s
    | _ => none
  | .receiveError kind =>
    match s.sends task with
    | .awaitingFinish _ _ =>
      some (s.endSend task (.returned (.error (.transportReceive kind))))
    | _ => none
  | .timeout =>
    match s.sends task with
    | .awaitingFinish _ _ => some (s.endSend task (.returned (.error .timeout)))
    | _ => none
  | .saveHandshake =>
    match s.sends task with
    | .savingHandshake message session =>
      some ((s.setSend task (.gettingAgain message)).establish message.destination session)
    | _ => none
  | .getAgain =>
    match s.sends task with
    | .gettingAgain message =>
      match s.sessions.lookup message.destination with
      | none => some (s.endSend task .panicked)
      | some session => some (s.setSend task (.encrypting message session))
    | _ => none
  | .handFrame =>
    match s.sends task with
    | .encrypting message session =>
      match session.send prims.aead message.payload with
      | none => some (s.endSend task .panicked)
      | some (frame, session') =>
        some { (s.setSend task (.frameHanded message session')).transmit
            message.destination message.topic (.transportFrame frame) with
          encrypted := s.encrypted ++
            [⟨session.transportCipher, session.sendKey, frame.nonce, message.payload⟩] }
    | _ => none
  | .frameAnswer answer =>
    match s.sends task with
    | .frameHanded message session =>
      match answer with
      | none => some (s.setSend task (.saving message session))
      | some kind =>
        let error := transportSendError kind
        match error.kind with
        | .fatal => some (s.setSend task (.clearing message session error))
        | .unreachable => some (s.setSend task (.clearing message session error))
        -- The error is logged and the call goes on as if the frame had been accepted.
        | .other => some (s.setSend task (.saving message session))
    | _ => none
  | .save =>
    match s.sends task with
    | .saving message session =>
      some ((s.endSend task (.returned (.ok ()))).saveSession message.destination session)
    | _ => none
  | .clear =>
    match s.sends task with
    | .clearing message _ error =>
      some ((s.endSend task (.returned (.error error))).removeSession message.destination)
    | _ => none

/-- One step of the receive loop. It takes no guard for handshakes and invalidations. -/
def stepLoop (s : Provider) : LoopAction → Option Provider
  | .receive message ephemeral =>
    match s.loop with
    | .receiving =>
      match message.frame with
      | none => some s
      | some (.handshakeStart start) =>
        match HandshakeResponder.respond prims.snow start ephemeral with
        -- `receive` returns the error, and its caller calls it again.
        | none => some s
        | some (response, responder) =>
          some (({ s with loop := .finishHanded message.source.toEndpoint responder } :
            Provider).transmit message.source.toEndpoint none
              (.handshakeFinish response))
      | some (.transportFrame frame) => some { s with loop := .locking message frame }
      | some .cryptoInvalidated =>
        some { s with loop := .removing message.source.toEndpoint }
      | some (.handshakeFinish _) => some s
    | _ => none
  | .receiveError =>
    match s.loop with
    | .receiving => some s
    | _ => none
  | .finishAnswer answer now =>
    match s.loop with
    | .finishHanded endpoint responder =>
      match answer with
      | none =>
        some { s with loop := .savingResponder endpoint (responder.transportState now) }
      | some _ => some { s with loop := .receiving }
    | _ => none
  | .saveResponder =>
    match s.loop with
    | .savingResponder endpoint session =>
      some (({ s with loop := .receiving } : Provider).establish endpoint session)
    | _ => none
  | .lock =>
    match s.loop, s.guard with
    | .locking message frame, none =>
      some { s with loop := .getting message frame, guard := some .loop }
    | _, _ => none
  | .get =>
    match s.loop with
    | .getting message frame =>
      match s.sessions.lookup message.source.toEndpoint with
      | none =>
        some (({ s with loop := .invalidatedHanded } : Provider).transmit
          message.source.toEndpoint none .cryptoInvalidated)
      | some session =>
        match session.receive prims.aead frame with
        | (.error _, _) => some { s with loop := .receiving, guard := none }
        | (.ok payload, session') =>
          some { s with loop := .savingReceived message session' payload }
    | _ => none
  | .invalidatedAnswer _ =>
    match s.loop with
    | .invalidatedHanded => some { s with loop := .receiving, guard := none }
    | _ => none
  | .saveReceived =>
    match s.loop with
    | .savingReceived message session payload =>
      some (({ s with
        loop := .receiving
        guard := none
        received := s.received ++
          [{ payload, destination := message.destination, source := message.source
             topic := message.topic }] } : Provider).saveSession
          message.source.toEndpoint session)
    | _ => none
  | .remove =>
    match s.loop with
    | .removing endpoint =>
      some (({ s with loop := .receiving } : Provider).removeSession endpoint)
    | _ => none
  | .abort =>
    some { s with
      loop := .receiving
      guard := if s.guard = some .loop then none else s.guard }

def step (s : Provider) : Action → Option Provider
  | .send task action => s.stepSend prims task action
  | .loop action => s.stepLoop prims action

end Provider

end SdkInternal.Ipc.Noise
