/-!
# Digests

Numbers that stand for a text, made so that other texts hardly ever have the same.
All work on bytes given as numbers below 256 and on words of 32 bits: a sum of words
keeps only the bits that fit.
-/

namespace Retrace.Tool.Digest

def low (n : Nat) : Nat := n % UInt32.size

def rotateRight (count n : Nat) : Nat := low ((n >>> count) ||| (n <<< (32 - count)))

def rotateLeft (count n : Nat) : Nat := rotateRight (32 - count) n

def inverted (n : Nat) : Nat := UInt32.size - 1 - low n

variable (bytes : List Nat)

def bigEndian : Nat := bytes.foldl (fun n byte => n * 256 + byte) 0

def littleEndian : Nat := bytes.foldr (fun byte n => n * 256 + byte) 0

def toBigEndian (count n : Nat) : List Nat :=
  (List.range count).map fun i => n / Nat.pow 256 (count - 1 - i) % 256

def toLittleEndian (count n : Nat) : List Nat := (List.range count).map fun i => n / Nat.pow 256 i % 256

def parts (size : Nat) : Nat → List Nat → List (List Nat)
  | 0, _ => []
  | fuel + 1, items =>
    if items.isEmpty then [] else items.take size :: parts size fuel (items.drop size)

/-- Fills a text up to whole blocks: a bit that is set, zeros, and the number of its bits. -/
def padded (count : Nat → List Nat) (bytes : List Nat) : List Nat :=
  let size := bytes.length
  let zeros := (64 - (size + 9) % 64) % 64
  bytes ++ 128 :: List.replicate zeros 0 ++ count (size * 8)

def hex : List Char :=
  bytes.flatMap fun byte => [Nat.digitChar (byte / 16), Nat.digitChar (byte % 16)]

/-! ## Constants from roots of primes -/

/-- The largest number whose power is not above a value, by halving what is left. -/
def rootWithin (power value : Nat) : Nat → Nat → Nat
  | 0, found => found
  | bits + 1, found =>
    let next := found + Nat.pow 2 bits
    rootWithin power value bits (if Nat.pow next power ≤ value then next else found)

def isPrime (n : Nat) : Bool := 2 ≤ n && (List.range n).all fun d => d < 2 || n % d ≠ 0

def primes : List Nat := (List.range 312).filter isPrime

def rootBits (power prime : Nat) : Nat :=
  low (rootWithin power (prime * Nat.pow 2 (32 * power)) 42 0)

/-! ## Digests of 32 bytes -/

def mixed (turns : Nat × Nat × Nat) (n : Nat) : Nat :=
  rotateRight turns.1 n ^^^ rotateRight turns.2.1 n ^^^ rotateRight turns.2.2 n

def shifted (turns : Nat × Nat × Nat) (n : Nat) : Nat :=
  rotateRight turns.1 n ^^^ rotateRight turns.2.1 n ^^^ (n >>> turns.2.2)

def sha256Schedule : Nat → Array Nat → Array Nat
  | 0, words => words
  | count + 1, words =>
    let back := fun n => (words[words.size - n]?).getD 0
    sha256Schedule count (words.push (low
      (shifted (17, 19, 10) (back 2) + back 7 + shifted (7, 18, 3) (back 15) + back 16)))

def sha256Block (keys state bytes : List Nat) : List Nat :=
  let words := sha256Schedule 48 ((parts 4 (bytes.length + 1) bytes).map bigEndian).toArray
  let step := fun (state : List Nat) (pair : Nat × Nat) =>
    match state with
    | [a, b, c, d, e, f, g, h] =>
      let choice := (e &&& f) ^^^ (inverted e &&& g)
      let majority := (a &&& b) ^^^ (a &&& c) ^^^ (b &&& c)
      let first := h + mixed (6, 11, 25) e + choice + pair.1 + pair.2
      let second := mixed (2, 13, 22) a + majority
      [low (first + second), a, b, c, low (d + first), e, f, g]
    | other => other
  let after := (keys.zip words.toList).foldl step state
  (state.zip after).map fun (old, new) => low (old + new)

def sha256 : List Nat :=
  let keys := primes.map (rootBits 3)
  let text := padded (toBigEndian 8) bytes
  let start := (primes.take 8).map (rootBits 2)
  ((parts 64 (text.length + 1) text).foldl (sha256Block keys) start).flatMap (toBigEndian 4)

/-! ## Older digests -/

def sha1Schedule : Nat → Array Nat → Array Nat
  | 0, words => words
  | count + 1, words =>
    let back := fun n => (words[words.size - n]?).getD 0
    sha1Schedule count (words.push (rotateLeft 1 (back 3 ^^^ back 8 ^^^ back 14 ^^^ back 16)))

def sha1Block (state bytes : List Nat) : List Nat :=
  let words := sha1Schedule 64 ((parts 4 (bytes.length + 1) bytes).map bigEndian).toArray
  let step := fun (state : List Nat) (pair : Nat × Nat) =>
    match state with
    | [a, b, c, d, e] =>
      let (mixed, key) :=
        if pair.2 < 20 then ((b &&& c) ||| (inverted b &&& d), 0x5A827999)
        else if pair.2 < 40 then (b ^^^ c ^^^ d, 0x6ED9EBA1)
        else if pair.2 < 60 then ((b &&& c) ||| (b &&& d) ||| (c &&& d), 0x8F1BBCDC)
        else (b ^^^ c ^^^ d, 0xCA62C1D6)
      [low (rotateLeft 5 a + mixed + e + key + pair.1), a, rotateLeft 30 b, c, d]
    | other => other
  let after := words.toList.zipIdx.foldl step state
  (state.zip after).map fun (old, new) => low (old + new)

def sha1 : List Nat :=
  let text := padded (toBigEndian 8) bytes
  let start := [0x67452301, 0xEFCDAB89, 0x98BADCFE, 0x10325476, 0xC3D2E1F0]
  ((parts 64 (text.length + 1) text).foldl sha1Block start).flatMap (toBigEndian 4)

def md5Turns : List Nat := [7, 12, 17, 22, 5, 9, 14, 20, 4, 11, 16, 23, 6, 10, 15, 21]

def sineBits (n : Nat) : Nat := (Float.abs (Float.sin (Float.ofNat n)) * 4294967296.0).toUInt64.toNat

def md5Block (keys state bytes : List Nat) : List Nat :=
  let words := ((parts 4 (bytes.length + 1) bytes).map littleEndian).toArray
  let step := fun (state : List Nat) (pair : Nat × Nat) =>
    match state with
    | [a, b, c, d] =>
      let i := pair.2
      let (mixed, place) :=
        if i < 16 then ((b &&& c) ||| (inverted b &&& d), i)
        else if i < 32 then ((d &&& b) ||| (inverted d &&& c), (5 * i + 1) % 16)
        else if i < 48 then (b ^^^ c ^^^ d, (3 * i + 5) % 16)
        else (c ^^^ (b ||| inverted d), 7 * i % 16)
      let sum := low (mixed + a + pair.1 + (words[place]?).getD 0)
      let turn := (md5Turns[i / 16 * 4 + i % 4]?).getD 0
      [d, low (b + rotateLeft turn sum), b, c]
    | other => other
  let after := keys.zipIdx.foldl step state
  (state.zip after).map fun (old, new) => low (old + new)

def md5 : List Nat :=
  let text := padded (toLittleEndian 8) bytes
  let keys := (List.range 64).map fun i => sineBits (i + 1)
  let start := [0x67452301, 0xEFCDAB89, 0x98BADCFE, 0x10325476]
  ((parts 64 (text.length + 1) text).foldl (md5Block keys) start).flatMap (toLittleEndian 4)

end Retrace.Tool.Digest
