import Mathlib.Data.Int.Notation
import Mathlib.Data.Nat.Notation

/-! # Syncing with the server

A call is given what its requests, its handlers and the setting answer. Calls exclude each
other by a lock. Dates are nanoseconds since the epoch. -/

namespace SdkInternal.Sync

abbrev Date := ℕ

def nanosPerMilli : ℕ := 1000000

/-- The last date of the `chrono` crate, in milliseconds. -/
def maxTimestampMillis : ℤ := 8210266876799999

def fromTimestampMillis (millis : ℤ) : Option Date :=
  if millis ≤ maxTimestampMillis then some (millis.toNat * nanosPerMilli) else none

inductive SyncError where
  | api
  | handlerFailed
  | accountDeleted
  | setting
  | invalidRevisionDate
  deriving DecidableEq

structure SyncClient where
  /-- The stored date, if there is a state backend. -/
  lastSync : Option (Option Date)

structure SyncCall where
  force : Bool
  syncStart : Date
  settingReadable : Bool
  settingWritable : Bool
  revisionMs : Option ℤ
  downloaded : Bool
  handlers : List Bool

namespace SyncClient

variable (self : SyncClient) (call : SyncCall)

def needsSync : Except SyncError Bool :=
  match self.lastSync with
  | none => .ok true
  | some stored =>
    if call.settingReadable then
      match stored, call.revisionMs with
      | none, _ => .ok true
      | some _, none => .error .api
      | some lastSync, some revisionMs =>
        if revisionMs < 0 then .error .accountDeleted
        else
          match fromTimestampMillis revisionMs with
          | none => .error .invalidRevisionDate
          | some revision => .ok (decide (lastSync < revision))
    else .error .setting

def updateLastSync (now : Date) : SyncClient :=
  if self.lastSync.isSome ∧ call.settingWritable then ⟨some (some now)⟩ else self

def performSync : Except SyncError Unit :=
  if call.downloaded then .ok () else .error .api

/-- Stops at the first handler that fails. -/
def runHandlers : Except SyncError Unit :=
  call.handlers.forM fun succeeds => if succeeds then .ok () else .error .handlerFailed

def sync : Except SyncError Bool × SyncClient :=
  match if call.force then .ok true else self.needsSync call with
  | .error e => (.error e, self)
  | .ok false => (.ok false, self.updateLastSync call call.syncStart)
  | .ok true =>
    match performSync call >>= fun _ => runHandlers call with
    | .ok _ => (.ok true, self.updateLastSync call call.syncStart)
    | .error e => (.error e, self)

end SyncClient

end SdkInternal.Sync
