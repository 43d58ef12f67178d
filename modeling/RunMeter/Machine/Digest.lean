import RunMeter.Machine.Raw

/-!
# RunMeter.Machine.Digest — short texts that stand for long ones

A digest takes a text in blocks of words and mixes each block into a state.  Words are numbers below a power of two, and
all that a round does to them is done modulo it.

* `remainder`, `rotatedSum`, `foldedSum`: checks in 32 and 16 bits.
* `md5`, `sha1`, `Sha2.digest`, `blake`: digests, as octets.
* `inHex`: octets in digits.

Nothing that is proved depends on this module.
-/

namespace RunMeter.Machine.Digest

/-! ## Words -/

/-- A word of so many bits turned to the right. -/
def turned (bits : Nat) (w n : Nat) : Nat :=
  ((w >>> n) ||| (w <<< (bits - n))) % Nat.pow 2 bits

/-- A word of so many bits with all bits changed. -/
def flipped (bits : Nat) (w : Nat) : Nat := (Nat.pow 2 bits - 1) ^^^ w

/-- The words in octets, of so many octets each, with the first octet highest. -/
def highFirst (octets : Nat) : (fuel : Nat) → Raw → List Nat
  | 0, _ => []
  | _, [] => []
  | fuel + 1, r => (r.take octets).foldl (fun n c => n * 256 + c.toNat) 0 :: highFirst octets fuel (r.drop octets)

/-- The words in octets, of so many octets each, with the first octet lowest. -/
def lowFirst (octets : Nat) : (fuel : Nat) → Raw → List Nat
  | 0, _ => []
  | _, [] => []
  | fuel + 1, r => (r.take octets).foldr (fun c n => n * 256 + c.toNat) 0 :: lowFirst octets fuel (r.drop octets)

/-- The octets of a number, the lowest first. -/
def lowOctets (count n : Nat) : Raw :=
  (List.range count).map fun i => Char.ofNat (n >>> (8 * i) % 256)

/-- The octets of a number, the highest first. -/
def highOctets (count n : Nat) : Raw := (lowOctets count n).reverse

/-- A text with a mark, zeros and its length in bits behind it, so that it fills blocks. -/
def filled (block lengthOctets : Nat) (length : Nat → Raw) (r : Raw) : Raw :=
  let used := r.length + 1 + lengthOctets
  r ++ '\x80' :: List.replicate ((block - used % block) % block) '\x00' ++ length (8 * r.length)

/-- Parts of a list of so many members. -/
def blocks {α : Type} (count : Nat) : (fuel : Nat) → List α → List (List α)
  | 0, _ => []
  | _, [] => []
  | fuel + 1, xs => xs.take count :: blocks count fuel (xs.drop count)

/-- Octets in hexadecimal digits. -/
def inHex (r : Raw) : Raw :=
  r.flatMap fun c => [c.toNat / 16, c.toNat % 16].map fun d => "0123456789abcdef".toList.getD d '0'

/-! ## Checks -/

/-- One octet more in the remainder of a division by the polynomial of Ethernet. -/
def divided (rest : Nat) (octet : Nat) : Nat :=
  (List.range 8).foldl (fun r _ => if r ≥ Nat.pow 2 31 then (r * 2 % Nat.pow 2 32) ^^^ 0x04C11DB7 else r * 2) (rest ^^^ (octet <<< 24))

/-- The least octets of a number, without zeros above. -/
def leastOctets (n : Nat) : Raw :=
  ((lowOctets 8 n).reverse.dropWhile (· == '\x00')).reverse

/-- The remainder of a text with its length behind it. -/
def remainder (r : Raw) : Nat :=
  flipped 32 ((r ++ leastOctets r.length).foldl (fun n c => divided n c.toNat) 0)

/-- The sum of octets in 16 bits that are turned before each. -/
def rotatedSum (r : Raw) : Nat :=
  r.foldl (fun n c => (turned 16 n 1 + c.toNat) % 65536) 0

/-- The sum of octets whose high half is added to its low one. -/
def foldedSum (r : Raw) : Nat :=
  let sum := r.foldl (fun n c => n + c.toNat) 0 % Nat.pow 2 32
  let once := sum % 65536 + sum / 65536
  once % 65536 + once / 65536

/-! ## Digests of 128 and 160 bits -/

/-- What is added in the rounds of the first digest. -/
def sines : Array Nat :=
  #[0xd76aa478, 0xe8c7b756, 0x242070db, 0xc1bdceee, 0xf57c0faf, 0x4787c62a, 0xa8304613, 0xfd469501,
    0x698098d8, 0x8b44f7af, 0xffff5bb1, 0x895cd7be, 0x6b901122, 0xfd987193, 0xa679438e, 0x49b40821,
    0xf61e2562, 0xc040b340, 0x265e5a51, 0xe9b6c7aa, 0xd62f105d, 0x02441453, 0xd8a1e681, 0xe7d3fbc8,
    0x21e1cde6, 0xc33707d6, 0xf4d50d87, 0x455a14ed, 0xa9e3e905, 0xfcefa3f8, 0x676f02d9, 0x8d2a4c8a,
    0xfffa3942, 0x8771f681, 0x6d9d6122, 0xfde5380c, 0xa4beea44, 0x4bdecfa9, 0xf6bb4b60, 0xbebfbc70,
    0x289b7ec6, 0xeaa127fa, 0xd4ef3085, 0x04881d05, 0xd9d4d039, 0xe6db99e5, 0x1fa27cf8, 0xc4ac5665,
    0xf4292244, 0x432aff97, 0xab9423a7, 0xfc93a039, 0x655b59c3, 0x8f0ccc92, 0xffeff47d, 0x85845dd1,
    0x6fa87e4f, 0xfe2ce6e0, 0xa3014314, 0x4e0811a1, 0xf7537e82, 0xbd3af235, 0x2ad7d2bb, 0xeb86d391]

/-- How far the rounds of the first digest turn words, by quarter and place. -/
def turns : Array Nat := #[7, 12, 17, 22, 5, 9, 14, 20, 4, 11, 16, 23, 6, 10, 15, 21]

/-- One round of the first digest. -/
def md5Round (words : Array Nat) : Nat × Nat × Nat × Nat → Nat → Nat × Nat × Nat × Nat
  | (a, b, c, d), i =>
    let (mixed, place) :=
      if i < 16 then ((b &&& c) ||| (flipped 32 b &&& d), i)
      else if i < 32 then ((d &&& b) ||| (flipped 32 d &&& c), (5 * i + 1) % 16)
      else if i < 48 then (b ^^^ c ^^^ d, (3 * i + 5) % 16)
      else (c ^^^ (b ||| flipped 32 d), 7 * i % 16)
    let sum := (a + mixed + sines.getD i 0 + words.getD place 0) % Nat.pow 2 32
    (d, (b + turned 32 sum (32 - turns.getD (i / 16 * 4 + i % 4) 0)) % Nat.pow 2 32, b, c)

/-- The digest of 128 bits. -/
def md5 (r : Raw) : Raw :=
  let text := filled 64 8 (lowOctets 8) r
  let (a, b, c, d) := (blocks 16 (text.length + 1) (lowFirst 4 (text.length + 1) text)).foldl (fun (a, b, c, d) block =>
    let (a₁, b₁, c₁, d₁) := (List.range 64).foldl (md5Round block.toArray) (a, b, c, d)
    ((a + a₁) % Nat.pow 2 32, (b + b₁) % Nat.pow 2 32, (c + c₁) % Nat.pow 2 32, (d + d₁) % Nat.pow 2 32))
    (0x67452301, 0xefcdab89, 0x98badcfe, 0x10325476)
  [a, b, c, d].flatMap (lowOctets 4)

/-- The words of a block with those that follow from them, the last first. -/
def sha1Words (block : List Nat) : List Nat :=
  (List.range 64).foldl (fun ws _ =>
    turned 32 (ws.getD 2 0 ^^^ ws.getD 7 0 ^^^ ws.getD 13 0 ^^^ ws.getD 15 0) 31 :: ws) block.reverse

/-- One round of the digest of 160 bits. -/
def sha1Round : List Nat → Nat × Nat → List Nat
  | [a, b, c, d, e], (w, i) =>
    let (mixed, more) :=
      if i < 20 then ((b &&& c) ||| (flipped 32 b &&& d), 0x5a827999)
      else if i < 40 then (b ^^^ c ^^^ d, 0x6ed9eba1)
      else if i < 60 then ((b &&& c) ||| (b &&& d) ||| (c &&& d), 0x8f1bbcdc)
      else (b ^^^ c ^^^ d, 0xca62c1d6)
    [(turned 32 a 27 + mixed + e + more + w) % Nat.pow 2 32, a, turned 32 b 2, c, d]
  | state, _ => state

/-- The sums of the members of two lists modulo a power of two. -/
def added (bits : Nat) (xs ys : List Nat) : List Nat :=
  (xs.zip ys).map fun (x, y) => (x + y) % Nat.pow 2 bits

/-- The digest of 160 bits. -/
def sha1 (r : Raw) : Raw :=
  let text := filled 64 8 (highOctets 8) r
  ((blocks 16 (text.length + 1) (highFirst 4 (text.length + 1) text)).foldl (fun state block =>
    added 32 state ((sha1Words block).reverse.zipIdx.foldl sha1Round state))
    [0x67452301, 0xefcdab89, 0x98badcfe, 0x10325476, 0xc3d2e1f0]).flatMap (highOctets 4)

/-! ## Digests with words of 32 or 64 bits -/

/-- The greatest number between two whose power is not above a number. -/
def rootBetween (power n : Nat) : (fuel : Nat) → (low high : Nat) → Nat
  | 0, low, _ => low
  | fuel + 1, low, high =>
    if high ≤ low + 1 then low
    else
      let middle := (low + high) / 2
      if Nat.pow middle power ≤ n then rootBetween power n fuel middle high else rootBetween power n fuel low middle

/-- The first bits after the point in a root of a number. -/
def rootBits (power bits n : Nat) : Nat :=
  rootBetween power (n * Nat.pow 2 (power * bits)) (bits + 12) 0 (Nat.pow 2 (bits + 10)) % Nat.pow 2 bits

/-- The prime numbers up to the eightieth. -/
def primes : List Nat :=
  ((List.range 410).drop 2).filter fun n => ((List.range n).drop 2).all fun d => n % d != 0

/-- A digest of words of some size: how many bits and rounds, how far words are turned, and what it begins with. -/
structure Sha2 where
  bits : Nat
  rounds : Nat
  /-- How far the state's first and fifth word are turned. -/
  first : Nat × Nat × Nat
  fifth : Nat × Nat × Nat
  /-- How far the words of a block are turned, and shifted the last time. -/
  near : Nat × Nat × Nat
  far : Nat × Nat × Nat
  start : List Nat
  /-- How many octets the digest has. -/
  size : Nat

namespace Sha2

/-- What each round adds: the first bits of the cube roots of primes. -/
def steps (s : Sha2) : List Nat :=
  (primes.take s.rounds).map (rootBits 3 s.bits)

/-- A word turned by three amounts, and the three put together. -/
def spread (s : Sha2) (t : Nat × Nat × Nat) (w : Nat) : Nat :=
  turned s.bits w t.1 ^^^ turned s.bits w t.2.1 ^^^ turned s.bits w t.2.2

/-- A word turned by two amounts and shifted by a third, and the three put together. -/
def shifted (s : Sha2) (t : Nat × Nat × Nat) (w : Nat) : Nat :=
  turned s.bits w t.1 ^^^ turned s.bits w t.2.1 ^^^ (w >>> t.2.2)

/-- The words of a block with those that follow from them, the last first. -/
def schedule (s : Sha2) (block : List Nat) : List Nat :=
  (List.range (s.rounds - 16)).foldl (fun ws _ =>
    (s.shifted s.far (ws.getD 1 0) + ws.getD 6 0 + s.shifted s.near (ws.getD 14 0) + ws.getD 15 0) % Nat.pow 2 s.bits :: ws)
    block.reverse

/-- One round with its word and what it adds. -/
def round (s : Sha2) : List Nat → Nat × Nat → List Nat
  | [a, b, c, d, e, f, g, h], (w, k) =>
    let chosen := (e &&& f) ^^^ (flipped s.bits e &&& g)
    let most := (a &&& b) ^^^ (a &&& c) ^^^ (b &&& c)
    let one := h + s.spread s.fifth e + chosen + k + w
    [(one + s.spread s.first a + most) % Nat.pow 2 s.bits, a, b, c, (d + one) % Nat.pow 2 s.bits, e, f, g]
  | state, _ => state

/-- The digest of a text. -/
def digest (s : Sha2) (r : Raw) : Raw :=
  let octets := s.bits / 8
  let text := filled (16 * octets) (2 * octets) (highOctets (2 * octets)) r
  let steps := s.steps
  let state := (blocks 16 (text.length + 1) (highFirst octets (text.length + 1) text)).foldl (fun state block =>
    added s.bits state (((s.schedule block).reverse.zip steps).foldl s.round state)) s.start
  (state.flatMap (highOctets octets)).take s.size

/-- A digest with words of 32 bits. -/
def short (start : List Nat) (size : Nat) : Sha2 :=
  ⟨32, 64, (2, 13, 22), (6, 11, 25), (7, 18, 3), (17, 19, 10), start, size⟩

/-- A digest with words of 64 bits. -/
def long (start : List Nat) (size : Nat) : Sha2 :=
  ⟨64, 80, (28, 34, 39), (14, 18, 41), (1, 8, 7), (19, 61, 6), start, size⟩

/-- The first bits of the square roots of eight primes. -/
def squareRoots (bits : Nat) (chosen : List Nat) : List Nat := chosen.map (rootBits 2 bits)

/-- The digest of 256 bits. -/
def of256 : Sha2 := short (squareRoots 32 (primes.take 8)) 32

/-- The digest of 224 bits. -/
def of224 : Sha2 := short ((squareRoots 64 ((primes.drop 8).take 8)).map (· % Nat.pow 2 32)) 28

/-- The digest of 512 bits. -/
def of512 : Sha2 := long (squareRoots 64 (primes.take 8)) 64

/-- The digest of 384 bits. -/
def of384 : Sha2 := long (squareRoots 64 ((primes.drop 8).take 8)) 48

end Sha2

/-! ## The digest of a chosen size -/

/-- In what order each round takes the words of a block. -/
def orders : Array (Array Nat) :=
  #[#[0, 1, 2, 3, 4, 5, 6, 7, 8, 9, 10, 11, 12, 13, 14, 15],
    #[14, 10, 4, 8, 9, 15, 13, 6, 1, 12, 0, 2, 11, 7, 5, 3],
    #[11, 8, 12, 0, 5, 2, 15, 13, 10, 14, 3, 6, 7, 1, 9, 4],
    #[7, 9, 3, 1, 13, 12, 11, 14, 2, 6, 5, 10, 4, 0, 15, 8],
    #[9, 0, 5, 7, 2, 4, 10, 15, 14, 1, 11, 12, 6, 8, 3, 13],
    #[2, 12, 6, 10, 0, 11, 8, 3, 4, 13, 7, 5, 15, 14, 1, 9],
    #[12, 5, 1, 15, 14, 13, 4, 10, 0, 7, 6, 3, 9, 2, 8, 11],
    #[13, 11, 7, 14, 12, 1, 3, 9, 5, 0, 15, 4, 8, 6, 2, 10],
    #[6, 15, 14, 9, 11, 3, 0, 8, 12, 2, 13, 7, 1, 4, 10, 5],
    #[10, 2, 8, 4, 7, 6, 1, 5, 15, 11, 9, 14, 3, 12, 13, 0]]

/-- The places in a state that are mixed together, in columns and then in diagonals. -/
def quarters : List (Nat × Nat × Nat × Nat) :=
  [(0, 4, 8, 12), (1, 5, 9, 13), (2, 6, 10, 14), (3, 7, 11, 15), (0, 5, 10, 15), (1, 6, 11, 12), (2, 7, 8, 13),
   (3, 4, 9, 14)]

/-- Four places of a state mixed with two words. -/
def mixed (v : Array Nat) (places : Nat × Nat × Nat × Nat) (x y : Nat) : Array Nat :=
  let (a, b, c, d) := places
  let half (v : Array Nat) (word far near : Nat) : Array Nat :=
    let v := v.setIfInBounds a ((v.getD a 0 + v.getD b 0 + word) % Nat.pow 2 64)
    let v := v.setIfInBounds d (turned 64 (v.getD d 0 ^^^ v.getD a 0) far)
    let v := v.setIfInBounds c ((v.getD c 0 + v.getD d 0) % Nat.pow 2 64)
    v.setIfInBounds b (turned 64 (v.getD b 0 ^^^ v.getD c 0) near)
  half (half v x 32 24) y 16 63

/-- The state after a block; `count` octets have been taken, and `last` says that no block follows. -/
def blakeBlock (state : List Nat) (block : Raw) (count : Nat) (last : Bool) : List Nat :=
  let words := (lowFirst 8 16 (block ++ List.replicate (128 - block.length) '\x00')).toArray
  let start := Sha2.squareRoots 64 (primes.take 8)
  let v := (state ++ start).toArray
  let v := v.setIfInBounds 12 (v.getD 12 0 ^^^ count)
  let v := if last then v.setIfInBounds 14 (flipped 64 (v.getD 14 0)) else v
  let v := (List.range 12).foldl (fun v round =>
    let order := orders.getD (round % 10) #[]
    (quarters.zipIdx).foldl (fun v (places, i) =>
      mixed v places (words.getD (order.getD (2 * i) 0) 0) (words.getD (order.getD (2 * i + 1) 0) 0)) v) v
  state.zipIdx.map fun (h, i) => h ^^^ v.getD i 0 ^^^ v.getD (i + 8) 0

/-- The state after some blocks. -/
def blakeBlocks : (fuel : Nat) → (state : List Nat) → (taken : Nat) → Raw → List Nat
  | 0, state, _, _ => state
  | fuel + 1, state, taken, r =>
    if r.length ≤ 128 then blakeBlock state r (taken + r.length) true
    else blakeBlocks fuel (blakeBlock state (r.take 128) (taken + 128) false) (taken + 128) (r.drop 128)

/-- The digest of so many octets, 64 at most. -/
def blake (size : Nat) (r : Raw) : Raw :=
  let start := Sha2.squareRoots 64 (primes.take 8)
  let state := match start with
    | h :: rest => (h ^^^ 0x01010000 ^^^ size) :: rest
    | [] => []
  ((blakeBlocks (r.length / 128 + 1) state 0 r).flatMap (lowOctets 8)).take size

end RunMeter.Machine.Digest
