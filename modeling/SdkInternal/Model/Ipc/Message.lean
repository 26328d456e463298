import Mathlib.Data.List.Basic

/-! # Endpoints, messages and error kinds of the IPC crate -/

namespace SdkInternal.Ipc

inductive HostId where
  | own
  | id (value : Int32)
deriving DecidableEq

inductive Endpoint where
  | web (tabId : Int32) (documentId : String)
  | browserForeground (id : Int32)
  | browserBackground (id : HostId)
  | cli (id : HostId)
  | desktopRenderer
  | desktopMain
deriving DecidableEq

/-- Who sent an incoming message; mirrors `Endpoint` with the origin of web pages. -/
inductive Source where
  | web (tabId : Int32) (documentId : String) (origin : String)
  | browserForeground (id : Int32)
  | browserBackground (id : HostId)
  | cli (id : HostId)
  | desktopRenderer
  | desktopMain
deriving DecidableEq

def Source.toEndpoint : Source → Endpoint
  | .web tabId documentId _ => .web tabId documentId
  | .browserForeground id => .browserForeground id
  | .browserBackground id => .browserBackground id
  | .cli id => .cli id
  | .desktopRenderer => .desktopRenderer
  | .desktopMain => .desktopMain

def Source.isWeb : Source → Bool
  | .web .. => true
  | _ => false

structure OutgoingMessage where
  payload : List UInt8
  destination : Endpoint
  topic : Option String
deriving DecidableEq

structure IncomingMessage where
  payload : List UInt8
  destination : Endpoint
  source : Source
  topic : Option String

inductive ErrorKind where
  | fatal
  | unreachable
  | other
deriving DecidableEq

def ErrorKind.debug : ErrorKind → String
  | .fatal => "Fatal"
  | .unreachable => "Unreachable"
  | .other => "Other"

end SdkInternal.Ipc
