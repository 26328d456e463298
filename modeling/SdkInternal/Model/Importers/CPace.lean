import SdkInternal.Shared.Framing

/-! # The CPace exchange of the 1Password importer

What the hash of the session secret covers. -/

namespace SdkInternal.Importers

open Shared

structure Ad where
  sessionId : List UInt8

structure MsgA where
  ad : Ad
  originalMessage : List UInt8

def writeLeb128Prefixed (buffer data : List UInt8) : List UInt8 :=
  buffer ++ (Framing.leb128 data.length ++ data)

def leb128Prefixed (fields : List (List UInt8)) : List UInt8 :=
  fields.foldl writeLeb128Prefixed []

/-- The bytes that `calculate_auth_b_hash` hashes. -/
def authBInput (authA : List UInt8) (msgA : MsgA) (msgB : List UInt8) : List UInt8 :=
  leb128Prefixed ["CPaceRistretto255_ISK".toUTF8.toList, msgA.ad.sessionId, authA] ++
    msgA.originalMessage ++ msgB

def calculateAuthBHash (sha512 : List UInt8 → Vector UInt8 64) (authA : List UInt8) (msgA : MsgA)
    (msgB : List UInt8) : Vector UInt8 64 :=
  sha512 (authBInput authA msgA msgB)

end SdkInternal.Importers
