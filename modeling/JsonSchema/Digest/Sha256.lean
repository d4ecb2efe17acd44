/-!
# SHA-256

The digest by which plans are keyed.

## What is here

* `Sha256.padded` — a message followed by a one bit, zeros and its length, in blocks of 64 bytes.
* `Sha256.schedule`, `Sha256.round`, `Sha256.compress` — the expansion of a block to 64 words, one round,
  and the effect of a block on the state.
* `Sha256.hex` — **the digest** of a text in UTF-8, in hexadecimal.
-/

set_option autoImplicit false

namespace JsonSchema.Sha256

/-- The first 32 bits of the fractional parts of the cube roots of the first 64 primes. -/
def constants : Array UInt32 := #[
  0x428a2f98, 0x71374491, 0xb5c0fbcf, 0xe9b5dba5, 0x3956c25b, 0x59f111f1, 0x923f82a4, 0xab1c5ed5,
  0xd807aa98, 0x12835b01, 0x243185be, 0x550c7dc3, 0x72be5d74, 0x80deb1fe, 0x9bdc06a7, 0xc19bf174,
  0xe49b69c1, 0xefbe4786, 0x0fc19dc6, 0x240ca1cc, 0x2de92c6f, 0x4a7484aa, 0x5cb0a9dc, 0x76f988da,
  0x983e5152, 0xa831c66d, 0xb00327c8, 0xbf597fc7, 0xc6e00bf3, 0xd5a79147, 0x06ca6351, 0x14292967,
  0x27b70a85, 0x2e1b2138, 0x4d2c6dfc, 0x53380d13, 0x650a7354, 0x766a0abb, 0x81c2c92e, 0x92722c85,
  0xa2bfe8a1, 0xa81a664b, 0xc24b8b70, 0xc76c51a3, 0xd192e819, 0xd6990624, 0xf40e3585, 0x106aa070,
  0x19a4c116, 0x1e376c08, 0x2748774c, 0x34b0bcb5, 0x391c0cb3, 0x4ed8aa4a, 0x5b9cca4f, 0x682e6ff3,
  0x748f82ee, 0x78a5636f, 0x84c87814, 0x8cc70208, 0x90befffa, 0xa4506ceb, 0xbef9a3f7, 0xc67178f2]

/-- The eight words a digest is made of. -/
structure State where
  a : UInt32
  b : UInt32
  c : UInt32
  d : UInt32
  e : UInt32
  f : UInt32
  g : UInt32
  h : UInt32

/-- The first 32 bits of the fractional parts of the square roots of the first eight primes. -/
def start : State :=
  ⟨0x6a09e667, 0xbb67ae85, 0x3c6ef372, 0xa54ff53a, 0x510e527f, 0x9b05688c, 0x1f83d9ab, 0x5be0cd19⟩

/-- A word turned to the right. -/
def rotate (x n : UInt32) : UInt32 :=
  (x >>> n) ||| (x <<< (32 - n))

/-! ## Padding -/

/-- A number as eight bytes, the most significant first. -/
def lengthBytes (n : Nat) : List UInt8 :=
  (List.range 8).reverse.map fun i => UInt8.ofNat (n >>> (8 * i))

/-- The message with its padding, whose length is a multiple of 64. -/
def padded (message : ByteArray) : ByteArray :=
  let zeros := (119 - message.size % 64) % 64
  (List.replicate zeros (0 : UInt8) ++ lengthBytes (8 * message.size)).foldl ByteArray.push (message.push 0x80)

/-! ## Compression -/

/-- The word that starts at a byte. -/
def wordAt (bytes : ByteArray) (i : Nat) : UInt32 :=
  let byte (k : Nat) : UInt32 := (bytes.get! (i + k)).toUInt32
  (byte 0 <<< 24) ||| (byte 1 <<< 16) ||| (byte 2 <<< 8) ||| byte 3

/-- The next word of the schedule, from the words before it. -/
def nextWord (w : Array UInt32) : UInt32 :=
  let back (n : Nat) : UInt32 := w.getD (w.size - n) 0
  let x := back 15
  let y := back 2
  let s := rotate x 7 ^^^ rotate x 18 ^^^ (x >>> 3)
  let t := rotate y 17 ^^^ rotate y 19 ^^^ (y >>> 10)
  back 16 + s + back 7 + t

/-- The 64 words of the block that starts at a byte. -/
def schedule (bytes : ByteArray) (start : Nat) : Array UInt32 :=
  (List.range 48).foldl (fun w _ => w.push (nextWord w))
    ((Array.range 16).map fun i => wordAt bytes (start + 4 * i))

/-- One round. -/
def round (s : State) (k w : UInt32) : State :=
  let sum := rotate s.e 6 ^^^ rotate s.e 11 ^^^ rotate s.e 25
  let choice := (s.e &&& s.f) ^^^ (s.e.complement &&& s.g)
  let t := s.h + sum + choice + k + w
  let sum := rotate s.a 2 ^^^ rotate s.a 13 ^^^ rotate s.a 22
  let majority := (s.a &&& s.b) ^^^ (s.a &&& s.c) ^^^ (s.b &&& s.c)
  ⟨t + (sum + majority), s.a, s.b, s.c, s.d + t, s.e, s.f, s.g⟩

/-- The state after the block that starts at a byte. -/
def compress (bytes : ByteArray) (s : State) (start : Nat) : State :=
  let w := schedule bytes start
  let t := (List.range 64).foldl (fun t i => round t (constants.getD i 0) (w.getD i 0)) s
  ⟨s.a + t.a, s.b + t.b, s.c + t.c, s.d + t.d, s.e + t.e, s.f + t.f, s.g + t.g, s.h + t.h⟩

/-! ## The digest -/

/-- The state after a whole message. -/
def digest (message : ByteArray) : State :=
  let bytes := padded message
  (List.range (bytes.size / 64)).foldl (fun s i => compress bytes s (64 * i)) start

/-- A word as eight hexadecimal digits. -/
def wordHex (w : UInt32) : List Char :=
  (List.range 8).reverse.map fun i => Nat.digitChar ((w.toNat >>> (4 * i)) % 16)

/-- The digest of a text in hexadecimal. -/
def hex (text : String) : String :=
  let s := digest text.toUTF8
  String.ofList ([s.a, s.b, s.c, s.d, s.e, s.f, s.g, s.h].flatMap wordHex)

end JsonSchema.Sha256
