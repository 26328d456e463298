import Mathlib.Data.Nat.Notation

/-! # Polled readers and writers

A reader or a writer is a state and what a poll answers in it. Answers are arbitrary: bytes
may come and go in pieces of any size, and a poll may ask to be repeated. A recorded reader
or writer keeps the bytes that went through it. -/

namespace SdkInternal.Shared

inductive Poll (α : Type*) where
  | pending
  | ready (value : α)
  deriving DecidableEq

/-- A poll reads into a buffer of the given size. No bytes are the end of the file. -/
structure AsyncRead (ε ρ : Type*) where
  pollRead : ρ → ℕ → Poll (Except ε (List UInt8)) × ρ

structure AsyncWrite (ε ω : Type*) where
  /-- The answer is the number of bytes that were taken. -/
  pollWrite : ω → List UInt8 → Poll (Except ε ℕ) × ω
  pollFlush : ω → Poll (Except ε Unit) × ω
  pollShutdown : ω → Poll (Except ε Unit) × ω

section Recording

variable {ε ρ ω : Type*}

def Poll.bytes : Poll (Except ε (List UInt8)) → List UInt8
  | .ready (.ok bytes) => bytes
  | _ => []

def Poll.taken : Poll (Except ε ℕ) → ℕ
  | .ready (.ok count) => count
  | _ => 0

def AsyncRead.recorded (reader : AsyncRead ε ρ) : AsyncRead ε (ρ × List UInt8) where
  pollRead state capacity :=
    let answer := reader.pollRead state.1 capacity
    (answer.1, (answer.2, state.2 ++ answer.1.bytes))

def AsyncWrite.recorded (writer : AsyncWrite ε ω) : AsyncWrite ε (ω × List UInt8) where
  pollWrite state data :=
    let answer := writer.pollWrite state.1 data
    (answer.1, (answer.2, state.2 ++ data.take answer.1.taken))
  pollFlush state :=
    let answer := writer.pollFlush state.1
    (answer.1, (answer.2, state.2))
  pollShutdown state :=
    let answer := writer.pollShutdown state.1
    (answer.1, (answer.2, state.2))

end Recording

end SdkInternal.Shared
