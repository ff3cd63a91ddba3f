import AnchorPatch.Text.Basic

/-!
Fingerprints of texts.

The fingerprint of a text is the 64-bit XXH3 hash of its UTF-8 bytes, with seed zero and the
standard secret. The hash has one formula for each range of input lengths: up to 16 bytes the
input is read once, up to 240 bytes it is mixed in blocks of 16, and beyond that eight lanes run
over stripes of 64.
-/

namespace AnchorPatch.Fingerprint

def secret : ByteArray := ⟨#[
  0xb8, 0xfe, 0x6c, 0x39, 0x23, 0xa4, 0x4b, 0xbe, 0x7c, 0x01, 0x81, 0x2c, 0xf7, 0x21, 0xad, 0x1c,
  0xde, 0xd4, 0x6d, 0xe9, 0x83, 0x90, 0x97, 0xdb, 0x72, 0x40, 0xa4, 0xa4, 0xb7, 0xb3, 0x67, 0x1f,
  0xcb, 0x79, 0xe6, 0x4e, 0xcc, 0xc0, 0xe5, 0x78, 0x82, 0x5a, 0xd0, 0x7d, 0xcc, 0xff, 0x72, 0x21,
  0xb8, 0x08, 0x46, 0x74, 0xf7, 0x43, 0x24, 0x8e, 0xe0, 0x35, 0x90, 0xe6, 0x81, 0x3a, 0x26, 0x4c,
  0x3c, 0x28, 0x52, 0xbb, 0x91, 0xc3, 0x00, 0xcb, 0x88, 0xd0, 0x65, 0x8b, 0x1b, 0x53, 0x2e, 0xa3,
  0x71, 0x64, 0x48, 0x97, 0xa2, 0x0d, 0xf9, 0x4e, 0x38, 0x19, 0xef, 0x46, 0xa9, 0xde, 0xac, 0xd8,
  0xa8, 0xfa, 0x76, 0x3f, 0xe3, 0x9c, 0x34, 0x3f, 0xf9, 0xdc, 0xbb, 0xc7, 0xc7, 0x0b, 0x4f, 0x1d,
  0x8a, 0x51, 0xe0, 0x4b, 0xcd, 0xb4, 0x59, 0x31, 0xc8, 0x9f, 0x7e, 0xc9, 0xd9, 0x78, 0x73, 0x64,
  0xea, 0xc5, 0xac, 0x83, 0x34, 0xd3, 0xeb, 0xc3, 0xc5, 0x81, 0xa0, 0xff, 0xfa, 0x13, 0x63, 0xeb,
  0x17, 0x0d, 0xdd, 0x51, 0xb7, 0xf0, 0xda, 0x49, 0xd3, 0x16, 0x55, 0x26, 0x29, 0xd4, 0x68, 0x9e,
  0x2b, 0x16, 0xbe, 0x58, 0x7d, 0x47, 0xa1, 0xfc, 0x8f, 0xf8, 0xb8, 0xd1, 0x7a, 0xd0, 0x31, 0xce,
  0x45, 0xcb, 0x3a, 0x8f, 0x95, 0x16, 0x04, 0x28, 0xaf, 0xd7, 0xfb, 0xca, 0xbb, 0x4b, 0x40, 0x7e]⟩

def prime32a : UInt64 := 0x9E3779B1
def prime32b : UInt64 := 0x85EBCA77
def prime32c : UInt64 := 0xC2B2AE3D
def prime64a : UInt64 := 0x9E3779B185EBCA87
def prime64b : UInt64 := 0xC2B2AE3D27D4EB4F
def prime64c : UInt64 := 0x165667B19E3779F9
def prime64d : UInt64 := 0x85EBCA77C2B2AE63
def prime64e : UInt64 := 0x27D4EB2F165667C5

/-- The number that `width` bytes from byte `i` on spell, least significant byte first. -/
def word (b : ByteArray) (i : Nat) : (width : Nat) → UInt64
  | 0 => 0
  | w + 1 => (b[i]?.getD 0).toUInt64 ||| (word b (i + 1) w <<< 8)

def word32 (b : ByteArray) (i : Nat) : UInt64 := word b i 4
def word64 (b : ByteArray) (i : Nat) : UInt64 := word b i 8

def rotateLeft (x : UInt64) (n : UInt64) : UInt64 := (x <<< n) ||| (x >>> (64 - n))

def swapBytes (x : UInt64) : UInt64 :=
  (List.range 8).foldl (fun y i => (y <<< 8) ||| ((x >>> (8 * i).toUInt64) &&& 0xff)) 0

/-- The two halves of a product of 128 bits, put together. -/
def foldedProduct (x y : UInt64) : UInt64 :=
  let p := x.toNat * y.toNat
  UInt64.ofNat p ^^^ UInt64.ofNat (p / 0x10000000000000000)

def scatterShort (x : UInt64) : UInt64 :=
  let x := (x ^^^ (x >>> 33)) * prime64b
  let x := (x ^^^ (x >>> 29)) * prime64c
  x ^^^ (x >>> 32)

/-- Spreads the bits of a number over all of it. -/
def scatter (x : UInt64) : UInt64 :=
  let x := (x ^^^ (x >>> 37)) * 0x165667919E3779F9
  x ^^^ (x >>> 32)

def ofUpTo3 (b : ByteArray) : UInt64 :=
  let n := b.size
  let byte (i : Nat) : UInt64 := word b i 1
  let combined := (byte 0 <<< 16) ||| (byte (n / 2) <<< 24) ||| byte (n - 1) ||| (n.toUInt64 <<< 8)
  scatterShort (combined ^^^ (word32 secret 0 ^^^ word32 secret 4))

def of4To8 (b : ByteArray) : UInt64 :=
  let n := b.size
  let x := word32 b (n - 4) + (word32 b 0 <<< 32)
  let x := x ^^^ (word64 secret 8 ^^^ word64 secret 16)
  let x := (x ^^^ rotateLeft x 49 ^^^ rotateLeft x 24) * 0x9FB21C651E98DF25
  let x := (x ^^^ ((x >>> 35) + n.toUInt64)) * 0x9FB21C651E98DF25
  x ^^^ (x >>> 28)

def of9To16 (b : ByteArray) : UInt64 :=
  let n := b.size
  let lo := word64 b 0 ^^^ (word64 secret 24 ^^^ word64 secret 32)
  let hi := word64 b (n - 8) ^^^ (word64 secret 40 ^^^ word64 secret 48)
  scatter (n.toUInt64 + swapBytes lo + hi + foldedProduct lo hi)

/-- The contribution of the sixteen bytes from byte `i` on, under the secret from byte `k` on. -/
def mix16 (b : ByteArray) (i k : Nat) : UInt64 :=
  foldedProduct (word64 b i ^^^ word64 secret k) (word64 b (i + 8) ^^^ word64 secret (k + 8))

def of17To128 (b : ByteArray) : UInt64 :=
  let n := b.size
  let pairs := (n - 1) / 32 + 1
  scatter <| (List.range pairs).foldl
    (fun acc i => acc + mix16 b (16 * i) (32 * i) + mix16 b (n - 16 * (i + 1)) (32 * i + 16))
    (n.toUInt64 * prime64a)

def of129To240 (b : ByteArray) : UInt64 :=
  let n := b.size
  let first := (List.range 8).foldl (fun acc i => acc + mix16 b (16 * i) (16 * i))
    (n.toUInt64 * prime64a)
  let rest := (List.range (n / 16 - 8)).foldl
    (fun acc i => acc + mix16 b (16 * (i + 8)) (16 * i + 3)) (scatter first)
  scatter (rest + mix16 b (n - 16) 119)

/-- The eight sums of a long text. -/
abbrev Lanes := List UInt64

def Lanes.start : Lanes :=
  [prime32c, prime64a, prime64b, prime64c, prime64d, prime32b, prime64e, prime32a]

/-- Feeds the 64 bytes from byte `i` on to the lanes, under the secret from byte `k` on. Each lane
takes its own word multiplied and its neighbour's word plain. -/
def Lanes.feed (lanes : Lanes) (b : ByteArray) (i k : Nat) : Lanes :=
  lanes.mapIdx fun j (x : UInt64) =>
    let own := word64 b (i + 8 * j) ^^^ word64 secret (k + 8 * j)
    let neighbour := word64 b (i + 8 * (if j % 2 = 0 then j + 1 else j - 1))
    x + neighbour + (own &&& (0xffffffff : UInt64)) * (own >>> 32)

def Lanes.scramble (lanes : Lanes) : Lanes :=
  lanes.mapIdx fun j (x : UInt64) => ((x ^^^ (x >>> 47)) ^^^ word64 secret (128 + 8 * j)) * prime32a

/-- Adds some stripes of 64 bytes to the sums. -/
def Lanes.feedStripes (lanes : Lanes) (b : ByteArray) (i stripes : Nat) : Lanes :=
  (List.range stripes).foldl (fun lanes s => lanes.feed b (i + 64 * s) (8 * s)) lanes

def pairedProducts : List UInt64 → UInt64
  | x :: y :: rest => foldedProduct x y + pairedProducts rest
  | _ => 0

def Lanes.merge (lanes : Lanes) (start : UInt64) : UInt64 :=
  let keyed := lanes.mapIdx fun j (x : UInt64) => x ^^^ word64 secret (11 + 8 * j)
  scatter (start + pairedProducts keyed)

/-- A block is 1024 bytes; the last 64 bytes are always a stripe of their own. -/
def ofLong (b : ByteArray) : UInt64 :=
  let n := b.size
  let blocks := (n - 1) / 1024
  let lanes := (List.range blocks).foldl
    (fun lanes i => (lanes.feedStripes b (1024 * i) 16).scramble) Lanes.start
  let lanes := lanes.feedStripes b (1024 * blocks) ((n - 1 - 1024 * blocks) / 64)
  (lanes.feed b (n - 64) 121).merge (n.toUInt64 * prime64a)

/-- The fingerprint of bytes, which is taken in a way of its own for each range of lengths. -/
def ofBytes (b : ByteArray) : UInt64 :=
  let n := b.size
  if n = 0 then scatterShort (word64 secret 56 ^^^ word64 secret 64)
  else if n ≤ 3 then ofUpTo3 b
  else if n ≤ 8 then of4To8 b
  else if n ≤ 16 then of9To16 b
  else if n ≤ 128 then of17To128 b
  else if n ≤ 240 then of129To240 b
  else ofLong b

end Fingerprint

def Text.fingerprint (s : Text) : UInt64 := Fingerprint.ofBytes (String.ofList s).toUTF8

namespace Fingerprint

def hex (x : UInt64) : String :=
  String.ofList <| (List.range 16).map fun i =>
    Nat.digitChar (x.toNat / Nat.pow 16 (15 - i) % 16)

end AnchorPatch.Fingerprint
