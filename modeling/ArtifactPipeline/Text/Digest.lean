import ArtifactPipeline.Text.Utf8

set_option autoImplicit false

namespace ArtifactPipeline.Text.Digest

def groups {α : Type} (size : Nat) : Nat → List α → List (List α)
  | 0, _ => []
  | fuel + 1, items =>
      if items.isEmpty then [] else items.take size :: groups size fuel (items.drop size)

def groupsOf {α : Type} (size : Nat) (items : List α) : List (List α) :=
  groups size (items.length + 1) items

def number (bytes : Octets) : Nat :=
  bytes.foldl (fun value byte => 256 * value + byte.toNat) 0

def bytesOf : Nat → Nat → Octets
  | 0, _ => []
  | size + 1, value => bytesOf size (value / 256) ++ [Char.ofNat (value % 256)]

def hexText (bytes : Octets) : Octets :=
  bytes.flatMap fun byte => [Nat.digitChar (byte.toNat / 16), Nat.digitChar (byte.toNat % 16)]

def padded (block field : Nat) (little : Bool) (text : Octets) : Octets :=
  let length := bytesOf field (8 * text.length)
  let used := (text.length + 1 + field) % block
  let gap := if used = 0 then 0 else block - used
  text ++ Char.ofNat 128 :: List.replicate gap (Char.ofNat 0) ++
    (if little then length.reverse else length)

def rotl32 (word : UInt32) (count : UInt32) : UInt32 :=
  (word <<< count) ||| (word >>> (32 - count))

def rotr32 (word : UInt32) (count : UInt32) : UInt32 :=
  (word >>> count) ||| (word <<< (32 - count))

def rotr64 (word : UInt64) (count : UInt64) : UInt64 :=
  (word >>> count) ||| (word <<< (64 - count))

def sines : List UInt32 := [
  0xd76aa478, 0xe8c7b756, 0x242070db, 0xc1bdceee, 0xf57c0faf, 0x4787c62a,
  0xa8304613, 0xfd469501, 0x698098d8, 0x8b44f7af, 0xffff5bb1, 0x895cd7be,
  0x6b901122, 0xfd987193, 0xa679438e, 0x49b40821, 0xf61e2562, 0xc040b340,
  0x265e5a51, 0xe9b6c7aa, 0xd62f105d, 0x02441453, 0xd8a1e681, 0xe7d3fbc8,
  0x21e1cde6, 0xc33707d6, 0xf4d50d87, 0x455a14ed, 0xa9e3e905, 0xfcefa3f8,
  0x676f02d9, 0x8d2a4c8a, 0xfffa3942, 0x8771f681, 0x6d9d6122, 0xfde5380c,
  0xa4beea44, 0x4bdecfa9, 0xf6bb4b60, 0xbebfbc70, 0x289b7ec6, 0xeaa127fa,
  0xd4ef3085, 0x04881d05, 0xd9d4d039, 0xe6db99e5, 0x1fa27cf8, 0xc4ac5665,
  0xf4292244, 0x432aff97, 0xab9423a7, 0xfc93a039, 0x655b59c3, 0x8f0ccc92,
  0xffeff47d, 0x85845dd1, 0x6fa87e4f, 0xfe2ce6e0, 0xa3014314, 0x4e0811a1,
  0xf7537e82, 0xbd3af235, 0x2ad7d2bb, 0xeb86d391]

def turns : List UInt32 :=
  let rows : List (List UInt32) :=
    [[7, 12, 17, 22], [5, 9, 14, 20], [4, 11, 16, 23], [6, 10, 15, 21]]
  rows.flatMap fun row => row ++ row ++ row ++ row

structure Quad where
  a : UInt32
  b : UInt32
  c : UInt32
  d : UInt32

def md5Step (words : Array UInt32) (quad : Quad) (step : Nat × UInt32 × UInt32) : Quad :=
  let (index, sine, turn) := step
  let ⟨a, b, c, d⟩ := quad
  let (mixed, place) :=
    match index / 16 with
    | 0 => ((b &&& c) ||| (~~~b &&& d), index)
    | 1 => ((d &&& b) ||| (~~~d &&& c), 5 * index + 1)
    | 2 => (b ^^^ c ^^^ d, 3 * index + 5)
    | _ => (c ^^^ (b ||| ~~~d), 7 * index)
  let sum := a + mixed + sine + words.getD (place % 16) 0
  ⟨d, b + rotl32 sum turn, b, c⟩

def md5Block (quad : Quad) (block : Octets) : Quad :=
  let words := ((groupsOf 4 block).map fun bytes => (number bytes.reverse).toUInt32).toArray
  let steps := (List.range 64).zip (sines.zip turns)
  let ⟨a, b, c, d⟩ := steps.foldl (md5Step words) quad
  ⟨quad.a + a, quad.b + b, quad.c + c, quad.d + d⟩

def md5 (text : Octets) : Octets :=
  let start : Quad := ⟨0x67452301, 0xefcdab89, 0x98badcfe, 0x10325476⟩
  let ⟨a, b, c, d⟩ := (groupsOf 64 (padded 64 8 true text)).foldl md5Block start
  [a, b, c, d].flatMap fun word => (bytesOf 4 word.toNat).reverse

def sha1Words (block : Octets) : Array UInt32 :=
  let words := ((groupsOf 4 block).map fun bytes => (number bytes).toUInt32).toArray
  (List.range 64).foldl (fun words index =>
    let word (back : Nat) : UInt32 := words.getD (index + 16 - back) 0
    words.push (rotl32 (word 3 ^^^ word 8 ^^^ word 14 ^^^ word 16) 1)) words

def sha1Block (state : List UInt32) (block : Octets) : List UInt32 :=
  let words := sha1Words block
  let last := (List.range 80).foldl (fun state index =>
    match state with
    | [a, b, c, d, e] =>
        let (mixed, constant) : UInt32 × UInt32 :=
          match index / 20 with
          | 0 => ((b &&& c) ||| (~~~b &&& d), 0x5a827999)
          | 1 => (b ^^^ c ^^^ d, 0x6ed9eba1)
          | 2 => ((b &&& c) ||| (b &&& d) ||| (c &&& d), 0x8f1bbcdc)
          | _ => (b ^^^ c ^^^ d, 0xca62c1d6)
        [rotl32 a 5 + mixed + e + constant + words.getD index 0, a, rotl32 b 30, c, d]
    | state => state) state
  state.zipWith (· + ·) last

def sha1 (text : Octets) : Octets :=
  let start : List UInt32 := [0x67452301, 0xefcdab89, 0x98badcfe, 0x10325476, 0xc3d2e1f0]
  let state := (groupsOf 64 (padded 64 8 false text)).foldl sha1Block start
  state.flatMap fun word => bytesOf 4 word.toNat

def isPrime (n : Nat) : Bool :=
  2 ≤ n && (List.range n).all fun d => d < 2 || n % d != 0

def primes : List Nat :=
  (List.range 410).filter isPrime

def rootFrom (power bound : Nat) : Nat → Nat → Nat
  | 0, root => root
  | bit + 1, root =>
      let more := root + Nat.pow 2 bit
      rootFrom power bound bit (if Nat.pow more power ≤ bound then more else root)

def rootBits (power : Nat) (n : Nat) : Nat :=
  rootFrom power (n * Nat.pow 2 (64 * power)) 70 0 % Nat.pow 2 64

def squareBits : List Nat :=
  (primes.take 16).map (rootBits 2)

def cubeBits : List Nat :=
  (primes.take 80).map (rootBits 3)

def constants32 : List UInt32 :=
  (cubeBits.take 64).map fun bits => (bits / Nat.pow 2 32).toUInt32

def words256 (block : Octets) : Array UInt32 :=
  let words := ((groupsOf 4 block).map fun bytes => (number bytes).toUInt32).toArray
  (List.range 48).foldl (fun words index =>
    let word (back : Nat) : UInt32 := words.getD (index + 16 - back) 0
    let first := rotr32 (word 15) 7 ^^^ rotr32 (word 15) 18 ^^^ (word 15 >>> 3)
    let second := rotr32 (word 2) 17 ^^^ rotr32 (word 2) 19 ^^^ (word 2 >>> 10)
    words.push (word 16 + first + word 7 + second)) words

def block256 (state : List UInt32) (block : Octets) : List UInt32 :=
  let steps := constants32.zip (words256 block).toList
  let last := steps.foldl (fun state (constant, word) =>
    match state with
    | [a, b, c, d, e, f, g, h] =>
        let first := h + (rotr32 e 6 ^^^ rotr32 e 11 ^^^ rotr32 e 25) +
          ((e &&& f) ^^^ (~~~e &&& g)) + constant + word
        let second := (rotr32 a 2 ^^^ rotr32 a 13 ^^^ rotr32 a 22) +
          ((a &&& b) ^^^ (a &&& c) ^^^ (b &&& c))
        [first + second, a, b, c, d + first, e, f, g]
    | state => state) state
  state.zipWith (· + ·) last

def family32 (start : List UInt32) (text : Octets) : Octets :=
  let state := (groupsOf 64 (padded 64 8 false text)).foldl block256 start
  state.flatMap fun word => bytesOf 4 word.toNat

def sha256 (text : Octets) : Octets :=
  family32 ((squareBits.take 8).map fun bits => (bits / Nat.pow 2 32).toUInt32) text

def sha224 (text : Octets) : Octets :=
  (family32 ((squareBits.drop 8).map fun bits => bits.toUInt32) text).take 28

def words512 (block : Octets) : Array UInt64 :=
  let words := ((groupsOf 8 block).map fun bytes => (number bytes).toUInt64).toArray
  (List.range 64).foldl (fun words index =>
    let word (back : Nat) : UInt64 := words.getD (index + 16 - back) 0
    let first := rotr64 (word 15) 1 ^^^ rotr64 (word 15) 8 ^^^ (word 15 >>> 7)
    let second := rotr64 (word 2) 19 ^^^ rotr64 (word 2) 61 ^^^ (word 2 >>> 6)
    words.push (word 16 + first + word 7 + second)) words

def block512 (state : List UInt64) (block : Octets) : List UInt64 :=
  let steps := (cubeBits.map Nat.toUInt64).zip (words512 block).toList
  let last := steps.foldl (fun state (constant, word) =>
    match state with
    | [a, b, c, d, e, f, g, h] =>
        let first := h + (rotr64 e 14 ^^^ rotr64 e 18 ^^^ rotr64 e 41) +
          ((e &&& f) ^^^ (~~~e &&& g)) + constant + word
        let second := (rotr64 a 28 ^^^ rotr64 a 34 ^^^ rotr64 a 39) +
          ((a &&& b) ^^^ (a &&& c) ^^^ (b &&& c))
        [first + second, a, b, c, d + first, e, f, g]
    | state => state) state
  state.zipWith (· + ·) last

def family64 (start : List Nat) (text : Octets) : Octets :=
  let state := (groupsOf 128 (padded 128 16 false text)).foldl block512 (start.map Nat.toUInt64)
  state.flatMap fun word => bytesOf 8 word.toNat

def sha512 (text : Octets) : Octets :=
  family64 (squareBits.take 8) text

def sha384 (text : Octets) : Octets :=
  (family64 (squareBits.drop 8) text).take 48

def wordOrders : List (List Nat) := [
  [0, 1, 2, 3, 4, 5, 6, 7, 8, 9, 10, 11, 12, 13, 14, 15],
  [14, 10, 4, 8, 9, 15, 13, 6, 1, 12, 0, 2, 11, 7, 5, 3],
  [11, 8, 12, 0, 5, 2, 15, 13, 10, 14, 3, 6, 7, 1, 9, 4],
  [7, 9, 3, 1, 13, 12, 11, 14, 2, 6, 5, 10, 4, 0, 15, 8],
  [9, 0, 5, 7, 2, 4, 10, 15, 14, 1, 11, 12, 6, 8, 3, 13],
  [2, 12, 6, 10, 0, 11, 8, 3, 4, 13, 7, 5, 15, 14, 1, 9],
  [12, 5, 1, 15, 14, 13, 4, 10, 0, 7, 6, 3, 9, 2, 8, 11],
  [13, 11, 7, 14, 12, 1, 3, 9, 5, 0, 15, 4, 8, 6, 2, 10],
  [6, 15, 14, 9, 11, 3, 0, 8, 12, 2, 13, 7, 1, 4, 10, 5],
  [10, 2, 8, 4, 7, 6, 1, 5, 15, 11, 9, 14, 3, 12, 13, 0]]

def mixedPlaces : List (Nat × Nat × Nat × Nat) :=
  [(0, 4, 8, 12), (1, 5, 9, 13), (2, 6, 10, 14), (3, 7, 11, 15), (0, 5, 10, 15), (1, 6, 11, 12),
    (2, 7, 8, 13), (3, 4, 9, 14)]

def mix (words : Array UInt64) (order : Array Nat) (square : Array UInt64)
    (step : Nat × Nat × Nat × Nat × Nat) : Array UInt64 :=
  let (index, a, b, c, d) := step
  let word (offset : Nat) : UInt64 := words.getD (order.getD (2 * index + offset) 0) 0
  let at' (place : Nat) : UInt64 := square.getD place 0
  let va := at' a + at' b + word 0
  let vd := rotr64 (at' d ^^^ va) 32
  let vc := at' c + vd
  let vb := rotr64 (at' b ^^^ vc) 24
  let va := va + vb + word 1
  let vd := rotr64 (vd ^^^ va) 16
  let vc := vc + vd
  let vb := rotr64 (vb ^^^ vc) 63
  (((square.setIfInBounds a va).setIfInBounds b vb).setIfInBounds c vc).setIfInBounds d vd

def blakeBlock (state : List UInt64) (block : Octets) (count : Nat) (isLast : Bool) : List UInt64 :=
  let filled := block ++ List.replicate (128 - block.length) (Char.ofNat 0)
  let words := ((groupsOf 8 filled).map fun bytes => (number bytes.reverse).toUInt64).toArray
  let start := (squareBits.take 8).map Nat.toUInt64
  let square := (state ++ start.zipWith (· ^^^ ·)
    [0, 0, 0, 0, count.toUInt64, 0, if isLast then 0xffffffffffffffff else 0, 0]).toArray
  let steps := (List.range 8).zip mixedPlaces
  let last := (wordOrders ++ wordOrders.take 2).foldl (fun square order =>
    steps.foldl (mix words order.toArray) square) square
  (state.zip (List.range 8)).map fun (word, index) =>
    word ^^^ last.getD index 0 ^^^ last.getD (index + 8) 0

def blakeBlocks (state : List UInt64) (count : Nat) : List Octets → List UInt64
  | [] => blakeBlock state [] count true
  | [block] => blakeBlock state block (count + block.length) true
  | block :: rest =>
      blakeBlocks (blakeBlock state block (count + block.length) false) (count + block.length) rest

def blake2b (size : Nat) (text : Octets) : Octets :=
  let start := (squareBits.take 8).map Nat.toUInt64
  let first := start.headD 0 ^^^ 0x01010000 ^^^ size.toUInt64
  let state := blakeBlocks (first :: start.drop 1) 0 (groupsOf 128 text)
  (state.flatMap fun word => (bytesOf 8 word.toNat).reverse).take size

def crcByte (crc : UInt32) (byte : Nat) : UInt32 :=
  (List.range 8).foldl (fun crc _ =>
    if crc &&& 0x80000000 != 0 then (crc <<< 1) ^^^ 0x04c11db7 else crc <<< 1)
    (crc ^^^ (byte.toUInt32 <<< 24))

def lengthBytes : Nat → Nat → List Nat
  | 0, _ => []
  | fuel + 1, n => if n = 0 then [] else n % 256 :: lengthBytes fuel (n / 256)

def crc (text : Octets) : Nat :=
  let crc := text.foldl (fun crc c => crcByte crc c.toNat) 0
  (~~~((lengthBytes 16 text.length).foldl crcByte crc)).toNat

def turnedSum (text : Octets) : Nat :=
  text.foldl (fun sum c => (sum / 2 + sum % 2 * 32768 + c.toNat) % 65536) 0

def foldedSum (text : Octets) : Nat :=
  let sum := (text.foldl (fun sum c => sum + c.toNat) 0) % 4294967296
  let once := sum % 65536 + sum / 65536
  once % 65536 + once / 65536

end ArtifactPipeline.Text.Digest
