import SdkInternal.Model.Crypto.Aes256CbcHmac
import SdkInternal.Model.Crypto.Error
import SdkInternal.Shared.Framing

/-! # AES-256-CBC with HMAC-SHA256 as an AEAD

The construction for COSE messages. Unlike the one behind type 2 encrypted strings, its MAC
also covers associated data, and a label stands before everything else. -/

namespace SdkInternal.Crypto.Aes256CbcHmacSha256Aead

open Shared

variable (prims : Primitives)

def macDomainSeparator : List UInt8 := "bitwarden.aes256-cbc-hmac-sha256-aead.v1".toUTF8.toList

/-- The bytes that `calculate_mac_with_aad` feeds to the HMAC. The lengths are cast to `u64`. -/
def macInput (iv : Iv) (data associatedData : List UInt8) : List UInt8 :=
  macDomainSeparator ++ iv.toList ++ Framing.frame 8 data ++ Framing.frame 8 associatedData

def calculateMacWithAad (iv : Iv) (data associatedData : List UInt8) (macKey : Subkey) : Mac :=
  prims.hmac macKey (macInput iv data associatedData)

/-- The ciphertext followed by its MAC. -/
def encrypt (key : Vector UInt8 64) (nonce : Iv) (plaintext associatedData : List UInt8) :
    List UInt8 :=
  let subkeys := splitToSubkeys key
  let encryptedBytes := encryptPaddedVec prims subkeys.1 nonce plaintext
  encryptedBytes ++ (calculateMacWithAad prims nonce encryptedBytes associatedData subkeys.2).toList

def decrypt (key : Vector UInt8 64) (nonce : Iv) (encryptedBytes associatedData : List UInt8) :
    Except CryptoError (List UInt8) :=
  let subkeys := splitToSubkeys key
  if encryptedBytes.length < 32 then .error .keyDecrypt
  else
    let data := encryptedBytes.take (encryptedBytes.length - 32)
    let receivedMac := encryptedBytes.drop (encryptedBytes.length - 32)
    if (calculateMacWithAad prims nonce data associatedData subkeys.2).toList ≠ receivedMac then
      .error .keyDecrypt
    else
      match decryptPadded prims subkeys.1 nonce data with
      | none => .error .keyDecrypt
      | some plaintext => .ok plaintext

end SdkInternal.Crypto.Aes256CbcHmacSha256Aead
