import SdkInternal.Model.Crypto.KeyStore
import Mathlib.Algebra.Order.Floor.Div
import Mathlib.Control.Traversable.Instances

/-! # Operations on lists of items

A list is cut into chunks that are processed on several threads, each with its own context. -/

namespace SdkInternal.Crypto

open Shared

variable {Slot Key : KeyKind → Type} {Data Output : Type}

namespace FullContext

/-- The context that `KeyStore::context` makes. -/
def reading (globalKeys : ∀ kind, Store (Slot kind) (Key kind)) : FullContext Slot Key where
  globalKeys
  readWrite := false
  localKeys _ := ∅

def clearLocal (self : FullContext Slot Key) : FullContext Slot Key :=
  { self with localKeys := fun _ => ∅ }

/-- A context for reading lets the computation change nothing but the local keys. -/
def ReadOnly (m : M Slot Key Output) : Prop :=
  ∀ self : FullContext Slot Key, self.readWrite = false →
    m.Post self fun _ after => ∃ localKeys, after = { self with localKeys }

end FullContext

/-- Encrypting or decrypting one item, together with what is drawn for it. -/
structure ItemOperation (Slot Key : KeyKind → Type) (Data Output : Type) where
  run : Data → FullContext.M Slot Key Output
  readOnly : ∀ item, FullContext.ReadOnly (run item)

structure Processed (Slot Key : KeyKind → Type) (Data Output : Type) where
  item : Data
  context : FullContext Slot Key
  result : Except CryptoError Output

def parChunks (size : ℕ) : List Data → List (List Data)
  | [] => []
  | item :: rest => (item :: rest.take (size - 1)) :: parChunks size (rest.drop (size - 1))
termination_by data => data.length
decreasing_by
  simp only [List.length_drop, List.length_cons]
  omega

def batchChunkSize (threads len : ℕ) : ℕ := max (len ⌈/⌉ threads) 50

namespace ItemOperation

variable (op : ItemOperation Slot Key Data Output)
  (store : ∀ kind, Store (Slot kind) (Key kind)) (threads : ℕ)
  (anyError : List (Except CryptoError Output) → CryptoError)

/-- `KeyStore::encrypt` and `KeyStore::decrypt`. -/
def single (item : Data) : Except CryptoError Output := (op.run item (.reading store)).1

def processChunk (context : FullContext Slot Key) :
    List Data → List (Processed Slot Key Data Output)
  | [] => []
  | item :: rest =>
    ⟨item, context, (op.run item context).1⟩ ::
      processChunk (op.run item context).2.clearLocal rest

variable (data : List Data)

def process : List (Processed Slot Key Data Output) :=
  (parChunks (batchChunkSize threads data.length) data).flatMap (op.processChunk (.reading store))

/-- The outputs, or one of the errors: which one depends on the threads. -/
def collect (results : List (Except CryptoError Output)) : Except CryptoError (List Output) :=
  (traverse id results).mapError fun _ => anyError results

def processList : Except CryptoError (List Output) :=
  collect anyError ((op.process store threads data).map (·.result))

def decryptList := @processList Slot Key Data Output

def encryptList := @processList Slot Key Data Output

def decryptListWithFailures : List Output × List Data :=
  let processed := op.process store threads data
  (processed.filterMap (·.result.toOption), (processed.filter (!·.result.isOk)).map (·.item))

end ItemOperation

/-! ## Items with keys of their own -/

def ContextKey (PrivateKey SigningKey : Type) : KeyKind → Type
  | .symmetric => SymmetricCryptoKey
  | .privateKey => PrivateKey
  | .signing => SigningKey

section Symmetric

variable {PrivateKey SigningKey : Type}

namespace FullContext

def symmetric (self : FullContext Slot (ContextKey PrivateKey SigningKey)) :
    KeyStoreContext (Slot .symmetric) where
  globalSymmetricKeys := self.globalKeys .symmetric
  readWrite := self.readWrite
  localSymmetricKeys := self.localKeys .symmetric

def withSymmetric (context : KeyStoreContext (Slot .symmetric))
    (self : FullContext Slot (ContextKey PrivateKey SigningKey)) :
    FullContext Slot (ContextKey PrivateKey SigningKey) where
  globalKeys := Function.update self.globalKeys .symmetric context.globalSymmetricKeys
  readWrite := context.readWrite
  localKeys := Function.update self.localKeys .symmetric context.localSymmetricKeys

/-- A call that is about the symmetric keys of a context. -/
def onSymmetric (call : StateT (KeyStoreContext (Slot .symmetric)) (Except CryptoError) Output) :
    M Slot (ContextKey PrivateKey SigningKey) Output :=
  Stateful.zoom symmetric withSymmetric call

end FullContext

/-- An item whose key is wrapped with the key of a slot, and which has one value. -/
structure KeyedItem (κ : Type) where
  keyIdentifier : κ
  key : EncString
  /-- Drawn for the slot of the unwrapped key. -/
  localId : LocalId
  value : EncString

open FullContext in
def KeyedItem.decrypt [DecidableEq (Slot .symmetric)] [KeySlotId (Slot .symmetric)]
    (prims : Primitives) (cose : CosePrimitives) (item : KeyedItem (Slot .symmetric)) :
    M Slot (ContextKey PrivateKey SigningKey) (List UInt8) := do
  let key ← onSymmetric fun context =>
    context.unwrapSymmetricKey prims cose item.keyIdentifier item.key item.localId
  onSymmetric fun context => do
    return (← context.decryptDataWithSymmetricKey prims cose key item.value, context)

end Symmetric

end SdkInternal.Crypto
