import TextMigration.Text.Utf8
import TextMigration.Text.Quoted

/-!
The digest by which two states of a document are compared: XXH3 of its bytes, 64 bits wide, with seed
zero and the default secret. The function treats short inputs by length class and folds a long one
stripe by stripe into eight accumulators. Arithmetic is modulo 2^64 throughout. Two texts with different
digests differ; nothing here says that equal digests mean equal texts.
-/

namespace TextMigration.Digest

def secret : Array UInt8 := #[
  0xb8, 0xfe, 0x6c, 0x39, 0x23, 0xa4, 0x4b, 0xbe, 0x7c, 0x01, 0x81, 0x2c, 0xf7, 0x21, 0xad, 0x1c,
  0xde, 0xd4, 0x6d, 0xe9, 0x83, 0x90, 0x97, 0xdb, 0x72, 0x40, 0xa4, 0xa4, 0xb7, 0xb3, 0x67, 0x1f,
  0xcb, 0x79, 0xe6, 0x4e, 0xcc, 0xc0, 0xe5, 0x78, 0x82, 0x5a, 0xd0, 0x7d, 0xcc, 0xff, 0x72, 0x21,
  0xb8, 0x08, 0x46, 0x74, 0xf7, 0x43, 0x24, 0x8e, 0xe0, 0x35, 0x90, 0xe6, 0x81, 0x3a, 0x26, 0x4c,
  0x3c, 0x28, 0x52, 0xbb, 0x91, 0xc3, 0x00, 0xcb, 0x88, 0xd0, 0x65, 0x8b, 0x1b, 0x53, 0x2e, 0xa3,
  0x71, 0x64, 0x48, 0x97, 0xa2, 0x0d, 0xf9, 0x4e, 0x38, 0x19, 0xef, 0x46, 0xa9, 0xde, 0xac, 0xd8,
  0xa8, 0xfa, 0x76, 0x3f, 0xe3, 0x9c, 0x34, 0x3f, 0xf9, 0xdc, 0xbb, 0xc7, 0xc7, 0x0b, 0x4f, 0x1d,
  0x8a, 0x51, 0xe0, 0x4b, 0xcd, 0xb4, 0x59, 0x31, 0xc8, 0x9f, 0x7e, 0xc9, 0xd9, 0x78, 0x73, 0x64,
  0xea, 0xc5, 0xac, 0x83, 0x34, 0xd3, 0xeb, 0xc3, 0xc5, 0x81, 0xa0, 0xff, 0xfa, 0x13, 0x63, 0xeb,
  0x17, 0x0d, 0xdd, 0x51, 0xb7, 0xf0, 0xda, 0x49, 0xd3, 0x16, 0x55, 0x26, 0x29, 0xd4, 0x68, 0x9e,
  0x2b, 0x16, 0xbe, 0x58, 0x7d, 0x47, 0xa1, 0xfc, 0x8f, 0xf8, 0xb8, 0xd1, 0x7a, 0xd0, 0x31, 0xce,
  0x45, 0xcb, 0x3a, 0x8f, 0x95, 0x16, 0x04, 0x28, 0xaf, 0xd7, 0xfb, 0xca, 0xbb, 0x4b, 0x40, 0x7e]

def prime32a : UInt64 := 0x9E3779B1
def prime32b : UInt64 := 0x85EBCA77
def prime32c : UInt64 := 0xC2B2AE3D
def primeA : UInt64 := 0x9E3779B185EBCA87
def primeB : UInt64 := 0xC2B2AE3D27D4EB4F
def primeC : UInt64 := 0x165667B19E3779F9
def primeD : UInt64 := 0x85EBCA77C2B2AE63
def primeE : UInt64 := 0x27D4EB2F165667C5
def mixerA : UInt64 := 0x165667919E3779F9
def mixerB : UInt64 := 0x9FB21C651E98DF25

def byteAt (bytes : Array UInt8) (place : Nat) : UInt64 := (bytes[place]?.getD 0).toUInt64

def little (bytes : Array UInt8) : Nat → Nat → UInt64
  | 0, _ => 0
  | count + 1, place => byteAt bytes place ||| (little bytes count (place + 1) <<< 8)

def word32 (bytes : Array UInt8) (place : Nat) : UInt64 := little bytes 4 place

def word64 (bytes : Array UInt8) (place : Nat) : UInt64 := little bytes 8 place

def swapBytes (word : UInt64) : UInt64 :=
  (List.range 8).foldl (fun acc i => (acc <<< 8) ||| ((word >>> (8 * i).toUInt64) &&& 0xFF)) 0

def rotate (word bits : UInt64) : UInt64 := (word <<< bits) ||| (word >>> (64 - bits))

def foldProduct (a b : UInt64) : UInt64 :=
  let product := a.toNat * b.toNat
  (product % UInt64.size).toUInt64 ^^^ (product / UInt64.size).toUInt64

def avalanche (word : UInt64) : UInt64 :=
  let word := (word ^^^ (word >>> 37)) * mixerA
  word ^^^ (word >>> 32)

def avalancheShort (word : UInt64) : UInt64 :=
  let word := (word ^^^ (word >>> 33)) * primeB
  let word := (word ^^^ (word >>> 29)) * primeC
  word ^^^ (word >>> 32)

def avalancheWord (word length : UInt64) : UInt64 :=
  let word := (word ^^^ rotate word 49 ^^^ rotate word 24) * mixerB
  let word := (word ^^^ ((word >>> 35) + length)) * mixerB
  word ^^^ (word >>> 28)

def mixSixteen (bytes : Array UInt8) (place key : Nat) : UInt64 :=
  foldProduct (word64 bytes place ^^^ word64 secret key)
    (word64 bytes (place + 8) ^^^ word64 secret (key + 8))

def ofShort (bytes : Array UInt8) : UInt64 :=
  let length := bytes.size
  let joined := (byteAt bytes 0 <<< 16) ||| (byteAt bytes (length / 2) <<< 24) |||
    byteAt bytes (length - 1) ||| (length.toUInt64 <<< 8)
  avalancheShort (joined ^^^ (word32 secret 0 ^^^ word32 secret 4))

def ofEight (bytes : Array UInt8) : UInt64 :=
  let length := bytes.size
  let joined := word32 bytes (length - 4) + (word32 bytes 0 <<< 32)
  avalancheWord (joined ^^^ (word64 secret 8 ^^^ word64 secret 16)) length.toUInt64

def ofSixteen (bytes : Array UInt8) : UInt64 :=
  let length := bytes.size
  let low := word64 bytes 0 ^^^ (word64 secret 24 ^^^ word64 secret 32)
  let high := word64 bytes (length - 8) ^^^ (word64 secret 40 ^^^ word64 secret 48)
  avalanche (length.toUInt64 + swapBytes low + high + foldProduct low high)

/-- From 17 to 128 bytes: pairs of sixteen bytes, from the outside in. -/
def ofMedium (bytes : Array UInt8) : UInt64 :=
  let length := bytes.size
  let pairs := (length - 1) / 32
  avalanche <| (List.range (pairs + 1)).foldl
    (fun acc i => acc + mixSixteen bytes (16 * i) (32 * i) +
      mixSixteen bytes (length - 16 * (i + 1)) (32 * i + 16))
    (length.toUInt64 * primeA)

def ofLarge (bytes : Array UInt8) : UInt64 :=
  let length := bytes.size
  let first := (List.range 8).foldl (fun acc i => acc + mixSixteen bytes (16 * i) (16 * i))
    (length.toUInt64 * primeA)
  let rest := (List.range (length / 16 - 8)).foldl
    (fun acc i => acc + mixSixteen bytes (16 * (i + 8)) (16 * i + 3)) (avalanche first)
  avalanche (rest + mixSixteen bytes (length - 16) 119)

def addStripe (bytes : Array UInt8) (place key : Nat) (sums : Array UInt64) : Array UInt64 :=
  (List.range 8).foldl (fun sums i =>
    let value := word64 bytes (place + 8 * i)
    let keyed := value ^^^ word64 secret (key + 8 * i)
    let product := (keyed &&& (0xFFFFFFFF : UInt64)) * (keyed >>> (32 : UInt64))
    (sums.modify (if i % 2 = 0 then i + 1 else i - 1) (· + value)).modify i (· + product)) sums

def scramble (sums : Array UInt64) : Array UInt64 :=
  (List.range 8).foldl (fun sums i =>
    sums.modify i fun sum => (sum ^^^ (sum >>> 47) ^^^ word64 secret (128 + 8 * i)) * prime32a) sums

def addStripes (bytes : Array UInt8) (start count : Nat) (sums : Array UInt64) : Array UInt64 :=
  (List.range count).foldl (fun sums i => addStripe bytes (start + 64 * i) (8 * i) sums) sums

/-- Above 240 bytes: blocks of sixteen stripes, what is left of the last block, and its last stripe. -/
def ofLong (bytes : Array UInt8) : UInt64 :=
  let length := bytes.size
  let blocks := (length - 1) / 1024
  let start := #[prime32c, primeA, primeB, primeC, primeD, prime32b, primeE, prime32a]
  let sums := (List.range blocks).foldl
    (fun sums i => scramble (addStripes bytes (1024 * i) 16 sums)) start
  let sums := addStripes bytes (1024 * blocks) ((length - 1 - 1024 * blocks) / 64) sums
  let sums := addStripe bytes (length - 64) 121 sums
  avalanche <| (List.range 4).foldl (fun acc i =>
    acc + foldProduct (sums[2 * i]?.getD 0 ^^^ word64 secret (11 + 16 * i))
      (sums[2 * i + 1]?.getD 0 ^^^ word64 secret (19 + 16 * i))) (length.toUInt64 * primeA)

def ofBytes (bytes : Array UInt8) : UInt64 :=
  if bytes.size = 0 then avalancheShort (word64 secret 56 ^^^ word64 secret 64)
  else if bytes.size ≤ 3 then ofShort bytes
  else if bytes.size ≤ 8 then ofEight bytes
  else if bytes.size ≤ 16 then ofSixteen bytes
  else if bytes.size ≤ 128 then ofMedium bytes
  else if bytes.size ≤ 240 then ofLarge bytes
  else ofLong bytes

end TextMigration.Digest

namespace TextMigration

def Text.digest (text : Text) : UInt64 := Digest.ofBytes (Text.encode text).toArray

def Digest.shown (digest : UInt64) : Text := Text.hexDigits 16 digest.toNat

end TextMigration
