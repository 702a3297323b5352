import Wakeful.Shell.Tool.Text

/-! Programs that sum up files in short numbers. -/

namespace Wakeful.Shell.Tool

/-- A word made of octets of which the first counts most. -/
def bigWord (octets : Octets) : UInt32 :=
  octets.foldl (fun word octet => word * 256 + octet.toUInt32) 0

/-- A word made of octets of which the first counts least. -/
def littleWord (octets : Octets) : UInt32 := bigWord octets.reverse

/-- The octets of a word, of which the first counts most. -/
def bigOctets (word : UInt32) : Octets :=
  [24, 16, 8, 0].map fun (shift : UInt32) => (word >>> shift).toUInt8

/-- Groups of so many octets. -/
def chunks (size : Nat) : (fuel : Nat) → Octets → List Octets
  -- The last one may be shorter.
  | 0, _ => []
  | _ + 1, [] => []
  | fuel + 1, octets => octets.take size :: chunks size fuel (octets.drop size)

/-- The words of a block. -/
def blockWords (word : Octets → UInt32) (block : Octets) : List UInt32 :=
  (chunks 4 17 block).map word

/-- A message filled up to whole blocks, with its length in bits at the end. -/
def filledUp (isLittle : Bool) (message : Octets) : Octets :=
  -- A single bit comes right after the message.
  let bits := message.length * 8
  let length := (List.range 8).map fun place => UInt8.ofNat (bits / Nat.pow 256 place % 256)
  let noughts := (119 - message.length % 64) % 64
  message ++ 0x80 :: List.replicate noughts 0 ++ if isLittle then length else length.reverse

/-- A word turned to the left by so many bits. -/
def turned (word : UInt32) (count : Nat) : UInt32 :=
  -- What falls out at one end comes in at the other.
  if count % 32 = 0 then
    word
  else
    (word <<< UInt32.ofNat count) ||| (word >>> UInt32.ofNat (32 - count))

/-- The octets of a text as digits in the base sixteen. -/
def hexDigits (octets : Octets) : Letters :=
  -- Every octet has two digits.
  octets.flatMap fun octet =>
    let digits := Nat.toDigits 16 octet.toNat
    if digits.length < 2 then '0' :: digits else digits

/-! ### Three digests -/

/-- The numbers by which the first digest turns words in its rounds. -/
def firstTurns : List Nat :=
  [[7, 12, 17, 22], [5, 9, 14, 20], [4, 11, 16, 23], [6, 10, 15, 21]].flatMap fun turns =>
  (List.replicate 4 turns).flatten

/-- The numbers that the first digest adds in its rounds. -/
def firstConstants : List UInt32 :=
  [0xd76aa478, 0xe8c7b756, 0x242070db, 0xc1bdceee, 0xf57c0faf, 0x4787c62a, 0xa8304613, 0xfd469501,
    0x698098d8, 0x8b44f7af, 0xffff5bb1, 0x895cd7be, 0x6b901122, 0xfd987193, 0xa679438e, 0x49b40821,
    0xf61e2562, 0xc040b340, 0x265e5a51, 0xe9b6c7aa, 0xd62f105d, 0x02441453, 0xd8a1e681, 0xe7d3fbc8,
    0x21e1cde6, 0xc33707d6, 0xf4d50d87, 0x455a14ed, 0xa9e3e905, 0xfcefa3f8, 0x676f02d9, 0x8d2a4c8a,
    0xfffa3942, 0x8771f681, 0x6d9d6122, 0xfde5380c, 0xa4beea44, 0x4bdecfa9, 0xf6bb4b60, 0xbebfbc70,
    0x289b7ec6, 0xeaa127fa, 0xd4ef3085, 0x04881d05, 0xd9d4d039, 0xe6db99e5, 0x1fa27cf8, 0xc4ac5665,
    0xf4292244, 0x432aff97, 0xab9423a7, 0xfc93a039, 0x655b59c3, 0x8f0ccc92, 0xffeff47d, 0x85845dd1,
    0x6fa87e4f, 0xfe2ce6e0, 0xa3014314, 0x4e0811a1, 0xf7537e82, 0xbd3af235, 0x2ad7d2bb, 0xeb86d391]

/-- The first digest, of sixteen octets. -/
def firstDigest (message : Octets) : Octets :=
  -- Every block changes four words in 64 rounds.
  let blocks := chunks 64 (message.length + 2) (filledUp true message)
  let rounds := (firstTurns.zip firstConstants).zipIdx
  let (a, b, c, d) := blocks.foldl (fun (a0, b0, c0, d0) block =>
    let words := (blockWords littleWord block).toArray
    let (a, b, c, d) := rounds.foldl (fun (a, b, c, d) ((turn, constant), round) =>
      let (mixed, place) : UInt32 × Nat :=
        if round < 16 then ((b &&& c) ||| (~~~b &&& d), round)
        else if round < 32 then ((d &&& b) ||| (~~~d &&& c), 5 * round + 1)
        else if round < 48 then (b ^^^ c ^^^ d, 3 * round + 5)
        else (c ^^^ (b ||| ~~~d), 7 * round)
      let sum := a + mixed + constant + words.getD (place % 16) 0
      (d, b + turned sum turn, b, c)) (a0, b0, c0, d0)
    (a0 + a, b0 + b, c0 + c, d0 + d)) ((0x67452301, 0xefcdab89, 0x98badcfe, 0x10325476) :
      UInt32 × UInt32 × UInt32 × UInt32)
  [a, b, c, d].flatMap fun word => (bigOctets word).reverse

/-- The second digest, of twenty octets. -/
def secondDigest (message : Octets) : Octets :=
  -- Every block changes five words in 80 rounds.
  let blocks := chunks 64 (message.length + 2) (filledUp false message)
  let step (words : Array UInt32) (place : Nat) : Array UInt32 :=
    let word (back : Nat) := words.getD (place - back) 0
    words.push (turned (word 3 ^^^ word 8 ^^^ word 14 ^^^ word 16) 1)
  let (a, b, c, d, e) := blocks.foldl (fun (a0, b0, c0, d0, e0) block =>
    let words := (List.range' 16 64).foldl step (blockWords bigWord block).toArray
    let (a, b, c, d, e) := (List.range 80).foldl (fun (a, b, c, d, e) round =>
      let (mixed, constant) : UInt32 × UInt32 :=
        if round < 20 then ((b &&& c) ||| (~~~b &&& d), 0x5a827999)
        else if round < 40 then (b ^^^ c ^^^ d, 0x6ed9eba1)
        else if round < 60 then ((b &&& c) ||| (b &&& d) ||| (c &&& d), 0x8f1bbcdc)
        else (b ^^^ c ^^^ d, 0xca62c1d6)
      (turned a 5 + mixed + e + constant + words.getD round 0, a, turned b 30, c, d))
      (a0, b0, c0, d0, e0)
    (a0 + a, b0 + b, c0 + c, d0 + d, e0 + e))
    ((0x67452301, 0xefcdab89, 0x98badcfe, 0x10325476, 0xc3d2e1f0) :
      UInt32 × UInt32 × UInt32 × UInt32 × UInt32)
  [a, b, c, d, e].flatMap bigOctets

/-- The numbers that the third digest adds in its rounds. -/
def thirdConstants : List UInt32 :=
  [0x428a2f98, 0x71374491, 0xb5c0fbcf, 0xe9b5dba5, 0x3956c25b, 0x59f111f1, 0x923f82a4, 0xab1c5ed5,
    0xd807aa98, 0x12835b01, 0x243185be, 0x550c7dc3, 0x72be5d74, 0x80deb1fe, 0x9bdc06a7, 0xc19bf174,
    0xe49b69c1, 0xefbe4786, 0x0fc19dc6, 0x240ca1cc, 0x2de92c6f, 0x4a7484aa, 0x5cb0a9dc, 0x76f988da,
    0x983e5152, 0xa831c66d, 0xb00327c8, 0xbf597fc7, 0xc6e00bf3, 0xd5a79147, 0x06ca6351, 0x14292967,
    0x27b70a85, 0x2e1b2138, 0x4d2c6dfc, 0x53380d13, 0x650a7354, 0x766a0abb, 0x81c2c92e, 0x92722c85,
    0xa2bfe8a1, 0xa81a664b, 0xc24b8b70, 0xc76c51a3, 0xd192e819, 0xd6990624, 0xf40e3585, 0x106aa070,
    0x19a4c116, 0x1e376c08, 0x2748774c, 0x34b0bcb5, 0x391c0cb3, 0x4ed8aa4a, 0x5b9cca4f, 0x682e6ff3,
    0x748f82ee, 0x78a5636f, 0x84c87814, 0x8cc70208, 0x90befffa, 0xa4506ceb, 0xbef9a3f7, 0xc67178f2]

/-- The third digest, of 32 octets. -/
def thirdDigest (message : Octets) : Octets :=
  -- Every block changes eight words in 64 rounds.
  let blocks := chunks 64 (message.length + 2) (filledUp false message)
  let right (word : UInt32) (count : Nat) : UInt32 := turned word (32 - count)
  let step (words : Array UInt32) (place : Nat) : Array UInt32 :=
    let word (back : Nat) := words.getD (place - back) 0
    let low := right (word 15) 7 ^^^ right (word 15) 18 ^^^ (word 15 >>> 3)
    let high := right (word 2) 17 ^^^ right (word 2) 19 ^^^ (word 2 >>> 10)
    words.push (word 16 + low + word 7 + high)
  let start : List UInt32 :=
    [0x6a09e667, 0xbb67ae85, 0x3c6ef372, 0xa54ff53a, 0x510e527f, 0x9b05688c, 0x1f83d9ab, 0x5be0cd19]
  let rounds := thirdConstants.zipIdx
  (blocks.foldl (fun state block =>
    let words := (List.range' 16 48).foldl step (blockWords bigWord block).toArray
    let last := rounds.foldl (fun (state : List UInt32) (constant, round) => match state with
      | [a, b, c, d, e, f, g, h] =>
        let mixed := (right e 6 ^^^ right e 11 ^^^ right e 25) + ((e &&& f) ^^^ (~~~e &&& g))
        let first := h + mixed + constant + words.getD round 0
        let second :=
          (right a 2 ^^^ right a 13 ^^^ right a 22) + ((a &&& b) ^^^ (a &&& c) ^^^ (b &&& c))
        [first + second, a, b, c, d + first, e, f, g]
      | other => other) state
    (state.zip last).map fun (before, after) => before + after) start).flatMap bigOctets

/-- The check number of a file, which takes its length into account. -/
def checkNumber (octets : Octets) : UInt32 :=
  -- The length comes after the octets, the least significant part first.
  let rec lengthOctets : (fuel : Nat) → Nat → Octets
    | 0, _ => []
    | fuel + 1, length =>
      if length = 0 then [] else UInt8.ofNat (length % 256) :: lengthOctets fuel (length / 256)
  let step (sum : UInt32) (octet : UInt8) : UInt32 :=
    (List.range 8).foldl (fun sum _ => if sum &&& 0x80000000 != 0 then (sum <<< 1) ^^^ 0x04c11db7
      else sum <<< 1)
      (sum ^^^ (octet.toUInt32 <<< 24))
  ~~~((octets ++ lengthOctets 8 octets.length).foldl step 0)

/-! ### Programs -/

/-- A program that writes a line for each file. -/
def perFile (line : Option Letters → Octets → Letters) : Task → Result :=
  -- What is read from elsewhere has no name.
  withChoices ⟨"btz", "", [], true⟩ 1 fun task choices =>
    let files := task.files choices.operands
    let written := files.map fun (path, contents) => match contents with
      | .ok text =>
        (1, line (if choices.operands.isEmpty then none else some path) (octetsOf text) ++ ['\n'])
      | .error reason => (2, task.refused path reason)
    ⟨if files.all (·.2.isOk) then 0 else 1, written, task.restAfter choices.operands,
      task.workplace⟩

/-- Writes a digest of each file. -/
def digests (digest : Octets → Octets) : Task → Result :=
  -- The name comes after two blanks.
  perFile fun name octets => hexDigits (digest octets) ++ "  ".toList ++ name.getD ['-']

/-- Writes the check number of each file. -/
def cksum : Task → Result :=
  -- The length comes after it.
  perFile fun name octets =>
    digitsOf ((checkNumber octets).toNat : Nat) ++ ' ' :: digitsOf (octets.length : Nat)
    ++ name.elim [] (' ' :: ·)

end Wakeful.Shell.Tool
