/-
SHA-256 on byte strings: padding to 64-byte blocks, the message schedule and 64
rounds a block. It gives the journal's digest a concrete instance; the only fact
used of it is the length of the result.
-/

import Bookie.Text.Lines

namespace Bookie.Chain

open Text

structure Sha256State where
  a : UInt32
  b : UInt32
  c : UInt32
  d : UInt32
  e : UInt32
  f : UInt32
  g : UInt32
  h : UInt32

namespace Sha256State

def initial : Sha256State :=
  { a := 0x6a09e667
    b := 0xbb67ae85
    c := 0x3c6ef372
    d := 0xa54ff53a
    e := 0x510e527f
    f := 0x9b05688c
    g := 0x1f83d9ab
    h := 0x5be0cd19 }

def rotateRight (word count : UInt32) : UInt32 := word >>> count ||| word <<< (32 - count)

def round (state : Sha256State) (word : UInt32) : Sha256State :=
  let sum1 := rotateRight state.e 6 ^^^ rotateRight state.e 11 ^^^ rotateRight state.e 25
  let choice := state.e &&& state.f ^^^ ~~~state.e &&& state.g
  let temp1 := state.h + sum1 + choice + word
  let sum0 := rotateRight state.a 2 ^^^ rotateRight state.a 13 ^^^ rotateRight state.a 22
  let majority := state.a &&& state.b ^^^ state.a &&& state.c ^^^ state.b &&& state.c
  { a := temp1 + (sum0 + majority)
    b := state.a
    c := state.b
    d := state.c
    e := state.d + temp1
    f := state.e
    g := state.f
    h := state.g }

def add (left right : Sha256State) : Sha256State :=
  { a := left.a + right.a
    b := left.b + right.b
    c := left.c + right.c
    d := left.d + right.d
    e := left.e + right.e
    f := left.f + right.f
    g := left.g + right.g
    h := left.h + right.h }

end Sha256State

def roundConstants : List UInt32 :=
  [0x428a2f98, 0x71374491, 0xb5c0fbcf, 0xe9b5dba5, 0x3956c25b, 0x59f111f1, 0x923f82a4, 0xab1c5ed5,
   0xd807aa98, 0x12835b01, 0x243185be, 0x550c7dc3, 0x72be5d74, 0x80deb1fe, 0x9bdc06a7, 0xc19bf174,
   0xe49b69c1, 0xefbe4786, 0x0fc19dc6, 0x240ca1cc, 0x2de92c6f, 0x4a7484aa, 0x5cb0a9dc, 0x76f988da,
   0x983e5152, 0xa831c66d, 0xb00327c8, 0xbf597fc7, 0xc6e00bf3, 0xd5a79147, 0x06ca6351, 0x14292967,
   0x27b70a85, 0x2e1b2138, 0x4d2c6dfc, 0x53380d13, 0x650a7354, 0x766a0abb, 0x81c2c92e, 0x92722c85,
   0xa2bfe8a1, 0xa81a664b, 0xc24b8b70, 0xc76c51a3, 0xd192e819, 0xd6990624, 0xf40e3585, 0x106aa070,
   0x19a4c116, 0x1e376c08, 0x2748774c, 0x34b0bcb5, 0x391c0cb3, 0x4ed8aa4a, 0x5b9cca4f, 0x682e6ff3,
   0x748f82ee, 0x78a5636f, 0x84c87814, 0x8cc70208, 0x90befffa, 0xa4506ceb, 0xbef9a3f7, 0xc67178f2]

def bigEndian (word : UInt32) : Bytes :=
  [(word >>> 24).toUInt8, (word >>> 16).toUInt8, (word >>> 8).toUInt8, word.toUInt8]

def wordsOf : Bytes → List UInt32
  | a :: b :: c :: d :: rest =>
    (a.toUInt32 <<< 24 ||| b.toUInt32 <<< 16 ||| c.toUInt32 <<< 8 ||| d.toUInt32) :: wordsOf rest
  | _ => []

/-- The next schedule word from the last sixteen. -/
def nextWord (window : List UInt32) : UInt32 :=
  let s0 (word : UInt32) :=
    Sha256State.rotateRight word 7 ^^^ Sha256State.rotateRight word 18 ^^^ word >>> 3
  let s1 (word : UInt32) :=
    Sha256State.rotateRight word 17 ^^^ Sha256State.rotateRight word 19 ^^^ word >>> 10
  window.getD 0 0 + s0 (window.getD 1 0) + window.getD 9 0 + s1 (window.getD 14 0)

/-- The rounds of one block; the window holds the next sixteen schedule words. -/
def compress : List UInt32 → List UInt32 → Sha256State → Sha256State
  | [], _, state => state
  | constant :: constants, window, state =>
    compress constants (window.drop 1 ++ [nextWord window])
      (state.round (constant + window.getD 0 0))

def padded (message : Bytes) : Bytes :=
  let zeros := (119 - message.length % 64) % 64
  let bits := 8 * message.length
  message ++ [0x80] ++ List.replicate zeros 0 ++
    bigEndian (UInt32.ofNat (bits / 0x100000000)) ++ bigEndian (UInt32.ofNat bits)

def hashBlocks : Nat → Bytes → Sha256State → Sha256State
  | 0, _, state => state
  | blocks + 1, message, state =>
    hashBlocks blocks (message.drop 64)
      (state.add (compress roundConstants (wordsOf (message.take 64)) state))

def sha256 (message : Bytes) : Bytes :=
  let text := padded message
  let state := hashBlocks (text.length / 64) text Sha256State.initial
  [state.a, state.b, state.c, state.d, state.e, state.f, state.g, state.h].flatMap bigEndian

theorem sha256_length (message : Bytes) : (sha256 message).length = 32 := rfl

end Bookie.Chain
