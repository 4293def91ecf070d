/-!
# SHA-256

The SHA-256 digest of a byte string (FIPS 180-4): the message is padded with a one bit, zeros
and its length in bits to a whole number of 64-byte blocks; each block is expanded to 64 words
and mixed into eight words of state by 64 rounds; the final state, written big-endian, is the
digest.  Hex text of bytes, two lower-case digits a byte, sits beside it.
-/

namespace DataQuality.Digest

/-- The round constants: the first 32 bits of the fractional parts of the cube roots of the
first 64 primes. -/
def roundConstants : Array UInt32 := #[
  0x428a2f98, 0x71374491, 0xb5c0fbcf, 0xe9b5dba5, 0x3956c25b, 0x59f111f1, 0x923f82a4, 0xab1c5ed5,
  0xd807aa98, 0x12835b01, 0x243185be, 0x550c7dc3, 0x72be5d74, 0x80deb1fe, 0x9bdc06a7, 0xc19bf174,
  0xe49b69c1, 0xefbe4786, 0x0fc19dc6, 0x240ca1cc, 0x2de92c6f, 0x4a7484aa, 0x5cb0a9dc, 0x76f988da,
  0x983e5152, 0xa831c66d, 0xb00327c8, 0xbf597fc7, 0xc6e00bf3, 0xd5a79147, 0x06ca6351, 0x14292967,
  0x27b70a85, 0x2e1b2138, 0x4d2c6dfc, 0x53380d13, 0x650a7354, 0x766a0abb, 0x81c2c92e, 0x92722c85,
  0xa2bfe8a1, 0xa81a664b, 0xc24b8b70, 0xc76c51a3, 0xd192e819, 0xd6990624, 0xf40e3585, 0x106aa070,
  0x19a4c116, 0x1e376c08, 0x2748774c, 0x34b0bcb5, 0x391c0cb3, 0x4ed8aa4a, 0x5b9cca4f, 0x682e6ff3,
  0x748f82ee, 0x78a5636f, 0x84c87814, 0x8cc70208, 0x90befffa, 0xa4506ceb, 0xbef9a3f7, 0xc67178f2]

/-- The initial state: the first 32 bits of the fractional parts of the square roots of the
first eight primes. -/
def initialState : Array UInt32 := #[
  0x6a09e667, 0xbb67ae85, 0x3c6ef372, 0xa54ff53a, 0x510e527f, 0x9b05688c, 0x1f83d9ab, 0x5be0cd19]

/-- Rotation of a word right by `n` places, `0 < n < 32`. -/
def rotr (x : UInt32) (n : UInt32) : UInt32 := (x >>> n) ||| (x <<< (32 - n))

/-- The byte at a position, zero past the end. -/
def byteAt (bytes : ByteArray) (i : Nat) : UInt8 := (bytes[i]?).getD 0

/-- The message followed by the byte `0x80`, zeros up to 56 modulo 64, and its length in bits
as a big-endian 64-bit number. -/
def pad (msg : ByteArray) : ByteArray :=
  let len := msg.size
  let zeros := (119 - len % 64) % 64
  let bits := 8 * len
  let tail := (List.range 8).reverse.map fun k => UInt8.ofNat (bits / Nat.pow 2 (8 * k) % 256)
  (msg.push 0x80 ++ ByteArray.mk (Array.replicate zeros 0)) ++ ByteArray.mk tail.toArray

/-- The big-endian word of four bytes from an offset. -/
def wordAt (bytes : ByteArray) (i : Nat) : UInt32 :=
  (byteAt bytes i).toUInt32 <<< 24 ||| (byteAt bytes (i + 1)).toUInt32 <<< 16 |||
    (byteAt bytes (i + 2)).toUInt32 <<< 8 ||| (byteAt bytes (i + 3)).toUInt32

/-- The 64 words of the block at an offset: its own 16, then each from four earlier ones. -/
def schedule (bytes : ByteArray) (offset : Nat) : Array UInt32 :=
  let first := (Array.range 16).map fun t => wordAt bytes (offset + 4 * t)
  (List.range 48).foldl (fun (w : Array UInt32) k =>
    let t := k + 16
    let a := w[t - 15]!
    let b := w[t - 2]!
    let s0 := rotr a 7 ^^^ rotr a 18 ^^^ (a >>> 3)
    let s1 := rotr b 17 ^^^ rotr b 19 ^^^ (b >>> 10)
    w.push (s1 + w[t - 7]! + s0 + w[t - 16]!)) first

/-- Eight words of working state. -/
structure Words where
  a : UInt32
  b : UInt32
  c : UInt32
  d : UInt32
  e : UInt32
  f : UInt32
  g : UInt32
  h : UInt32

/-- One round with the round constant `k` and the schedule word `w`. -/
def Words.round (s : Words) (k w : UInt32) : Words :=
  let s1 := rotr s.e 6 ^^^ rotr s.e 11 ^^^ rotr s.e 25
  let ch := (s.e &&& s.f) ^^^ (~~~s.e &&& s.g)
  let t1 := s.h + s1 + ch + k + w
  let s0 := rotr s.a 2 ^^^ rotr s.a 13 ^^^ rotr s.a 22
  let maj := (s.a &&& s.b) ^^^ (s.a &&& s.c) ^^^ (s.b &&& s.c)
  let t2 := s0 + maj
  ⟨t1 + t2, s.a, s.b, s.c, s.d + t1, s.e, s.f, s.g⟩

/-- The state after mixing in the block at an offset. -/
def compress (state : Array UInt32) (bytes : ByteArray) (offset : Nat) : Array UInt32 :=
  let w := schedule bytes offset
  let start : Words := ⟨state[0]!, state[1]!, state[2]!, state[3]!, state[4]!, state[5]!,
    state[6]!, state[7]!⟩
  let s := (List.range 64).foldl (fun s t => s.round roundConstants[t]! w[t]!) start
  #[state[0]! + s.a, state[1]! + s.b, state[2]! + s.c, state[3]! + s.d,
    state[4]! + s.e, state[5]! + s.f, state[6]! + s.g, state[7]! + s.h]

/-- The four big-endian bytes of a word. -/
def wordBytes (x : UInt32) : List UInt8 :=
  [(x >>> 24).toUInt8, (x >>> 16).toUInt8, (x >>> 8).toUInt8, x.toUInt8]

/-- The SHA-256 digest of a byte string: 32 bytes. -/
def sha256 (msg : ByteArray) : List UInt8 :=
  let padded := pad msg
  let final := (List.range (padded.size / 64)).foldl
    (fun state i => compress state padded (64 * i)) initialState
  final.toList.flatMap wordBytes

/-- The lower-case hex digit of a number below 16. -/
def hexDigit (n : Nat) : Char :=
  if n < 10 then Char.ofNat (48 + n) else Char.ofNat (87 + n)

/-- Bytes as hex text, two lower-case digits each. -/
def hexText (bytes : List UInt8) : String :=
  String.ofList (bytes.flatMap fun b => [hexDigit (b.toNat / 16), hexDigit (b.toNat % 16)])

end DataQuality.Digest
