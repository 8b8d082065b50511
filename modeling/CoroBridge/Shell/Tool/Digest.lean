import CoroBridge.Shell.Octet

/-!
# Command language: digests

Numbers that stand for the whole of a text.

* `Digest.remainder`      the remainder of a cyclic code, with the length taken in;
* `Digest.rotated`        the sum of all bytes, turned by one bit before each of them;
* `Digest.md5`, `Digest.sha1`, `Digest.sha256`, `Digest.sha512`   cryptographic digests, byte by
  byte.

The constants of the last family are the first bits of roots of primes, and are computed here.
-/

namespace CoroBridge
namespace Shell
namespace Digest

/-! ## sums -/

def shifted (r : UInt32) : UInt32 :=
  if r &&& 0x80000000 = 0 then r <<< 1 else (r <<< 1) ^^^ 0x04C11DB7

def divided (r : UInt32) (c : Char) : UInt32 :=
  let r := r ^^^ (c.toNat.toUInt32 <<< 24)
  shifted (shifted (shifted (shifted (shifted (shifted (shifted (shifted r)))))))

def lowBytes : Nat → Nat → Text
  | 0, _ => []
  | fuel + 1, n => if n = 0 then [] else Char.ofNat (n % 256) :: lowBytes fuel (n / 256)

def remainder (t : Text) : Nat :=
  ((lowBytes 16 t.length).foldl divided (t.foldl divided 0) ^^^ 0xFFFFFFFF).toNat

def rotated (t : Text) : Nat :=
  t.foldl (fun s c => (s / 2 + s % 2 * 32768 + c.toNat) % 65536) 0

/-- the sum of all bytes, folded into sixteen bits -/
def folded (t : Text) : Nat :=
  let s := (t.map Char.toNat).foldl (· + ·) 0 % Nat.pow 2 32
  let r := s % 65536 + s / 65536
  r % 65536 + r / 65536

/-! ## blocks -/

def placed (big : Bool) (size n : Nat) : Text :=
  let low := (List.range size).map fun i => Char.ofNat (n / Nat.pow 256 i % 256)
  if big then low.reverse else low

/-- a text filled up to whole blocks, with its length in bits at the end -/
def filled (big : Bool) (block size : Nat) (t : Text) : Text :=
  let n := t.length + 1 + size
  t ++ '\x80' :: List.replicate ((block - n % block) % block) '\x00'
    ++ placed big size (8 * t.length)

def cutInto (size : Nat) : Nat → Text → List Text
  | 0, _ => []
  | fuel + 1, t => if t = [] then [] else t.take size :: cutInto size fuel (t.drop size)

def numberOf (big : Bool) (t : Text) : Nat :=
  (if big then t else t.reverse).foldl (fun n c => n * 256 + c.toNat) 0

def wordBlocks (big : Bool) (word : Nat) (t : Text) : List (Array Nat) :=
  let filled := filled big (16 * word) (2 * word) t
  (cutInto (16 * word) (filled.length + 1) filled).map fun b =>
    ((cutInto word 16 b).map (numberOf big)).toArray

/-- the first bits after the point of a root of a number -/
def rootBits (power bits n : Nat) : Nat :=
  let target := n * Nat.pow 2 (power * bits)
  let root := (List.range (bits + 10)).foldr (fun i r =>
    if Nat.pow (r + Nat.pow 2 i) power ≤ target then r + Nat.pow 2 i else r) 0
  root % Nat.pow 2 bits

def primes (count : Nat) : List Nat :=
  ((List.range 410).filter fun n =>
    2 ≤ n && (List.range n).all fun d => d < 2 || n % d != 0).take count

/-! ## thirty-two bits -/

def words32 (ns : List Nat) : Array UInt32 := (ns.map Nat.toUInt32).toArray

def left32 (x : UInt32) (n : Nat) : UInt32 :=
  (x <<< n.toUInt32) ||| (x >>> (32 - n).toUInt32)

/-- the constants of `md5`: the first bits of the sines of whole numbers -/
def sines : Array UInt32 := words32
  [0xd76aa478, 0xe8c7b756, 0x242070db, 0xc1bdceee, 0xf57c0faf, 0x4787c62a, 0xa8304613, 0xfd469501,
    0x698098d8, 0x8b44f7af, 0xffff5bb1, 0x895cd7be, 0x6b901122, 0xfd987193, 0xa679438e, 0x49b40821,
    0xf61e2562, 0xc040b340, 0x265e5a51, 0xe9b6c7aa, 0xd62f105d, 0x02441453, 0xd8a1e681, 0xe7d3fbc8,
    0x21e1cde6, 0xc33707d6, 0xf4d50d87, 0x455a14ed, 0xa9e3e905, 0xfcefa3f8, 0x676f02d9, 0x8d2a4c8a,
    0xfffa3942, 0x8771f681, 0x6d9d6122, 0xfde5380c, 0xa4beea44, 0x4bdecfa9, 0xf6bb4b60, 0xbebfbc70,
    0x289b7ec6, 0xeaa127fa, 0xd4ef3085, 0x04881d05, 0xd9d4d039, 0xe6db99e5, 0x1fa27cf8, 0xc4ac5665,
    0xf4292244, 0x432aff97, 0xab9423a7, 0xfc93a039, 0x655b59c3, 0x8f0ccc92, 0xffeff47d, 0x85845dd1,
    0x6fa87e4f, 0xfe2ce6e0, 0xa3014314, 0x4e0811a1, 0xf7537e82, 0xbd3af235, 0x2ad7d2bb, 0xeb86d391]

def md5Turns : List (List Nat) :=
  [[7, 12, 17, 22], [5, 9, 14, 20], [4, 11, 16, 23], [6, 10, 15, 21]]

def md5Step (block : Array Nat) (s : UInt32 × UInt32 × UInt32 × UInt32) (i : Nat) :
    UInt32 × UInt32 × UInt32 × UInt32 :=
  let (a, b, c, d) := s
  let (f, g) : UInt32 × Nat := match i / 16 with
    | 0 => ((b &&& c) ||| (~~~b &&& d), i)
    | 1 => ((d &&& b) ||| (~~~d &&& c), (5 * i + 1) % 16)
    | 2 => (b ^^^ c ^^^ d, (3 * i + 5) % 16)
    | _ => (c ^^^ (b ||| ~~~d), (7 * i) % 16)
  let sum := f + a + sines.getD i 0 + (block.getD g 0).toUInt32
  (d, b + left32 sum ((md5Turns.getD (i / 16) []).getD (i % 4) 0), b, c)

def md5 (t : Text) : Text :=
  let start : UInt32 × UInt32 × UInt32 × UInt32 :=
    (0x67452301, 0xefcdab89, 0x98badcfe, 0x10325476)
  let (a, b, c, d) := (wordBlocks false 4 t).foldl (fun s block =>
    let (a, b, c, d) := (List.range 64).foldl (md5Step block) s
    (s.1 + a, s.2.1 + b, s.2.2.1 + c, s.2.2.2 + d)) start
  [a, b, c, d].flatMap fun x => placed false 4 x.toNat

def sha1Words (block : Array Nat) : Array UInt32 :=
  (List.range 64).foldl (fun w i =>
    w.push (left32 (w.getD (i + 13) 0 ^^^ w.getD (i + 8) 0 ^^^ w.getD (i + 2) 0 ^^^ w.getD i 0) 1))
    (block.map Nat.toUInt32)

def sha1Step (words : Array UInt32) (s : List UInt32) (i : Nat) : List UInt32 :=
  match s with
  | [a, b, c, d, e] =>
    let (f, k) : UInt32 × UInt32 := match i / 20 with
      | 0 => ((b &&& c) ||| (~~~b &&& d), 0x5A827999)
      | 1 => (b ^^^ c ^^^ d, 0x6ED9EBA1)
      | 2 => ((b &&& c) ||| (b &&& d) ||| (c &&& d), 0x8F1BBCDC)
      | _ => (b ^^^ c ^^^ d, 0xCA62C1D6)
    [left32 a 5 + f + e + k + words.getD i 0, a, left32 b 30, c, d]
  | s => s

def sha1 (t : Text) : Text :=
  let start : List UInt32 := [0x67452301, 0xEFCDAB89, 0x98BADCFE, 0x10325476, 0xC3D2E1F0]
  let s := (wordBlocks true 4 t).foldl (fun s block =>
    let words := sha1Words block
    List.zipWith (· + ·) s ((List.range 80).foldl (sha1Step words) s)) start
  s.flatMap fun x => placed true 4 x.toNat

/-! ## words of one or two halves -/

/-- a family of digests: the number of bits in a word, of rounds, and how far words are turned: for
the two sums, for the two words of the schedule, of which the last amount is a shift -/
structure Family where
  bits : Nat
  rounds : Nat
  upper : List Nat
  lower : List Nat
  early : List Nat
  late : List Nat

def narrow : Family := ⟨32, 64, [2, 13, 22], [6, 11, 25], [7, 18, 3], [17, 19, 10]⟩

def wide : Family := ⟨64, 80, [28, 34, 39], [14, 18, 41], [1, 8, 7], [19, 61, 6]⟩

namespace Family

def right (f : Family) (x n : Nat) : Nat :=
  x / Nat.pow 2 n ||| x % Nat.pow 2 n * Nat.pow 2 (f.bits - n)

def turned (f : Family) (x : Nat) : List Nat → Nat
  | [a, b, c] => f.right x a ^^^ f.right x b ^^^ f.right x c
  | _ => x

def mixed (f : Family) (x : Nat) : List Nat → Nat
  | [a, b, c] => f.right x a ^^^ f.right x b ^^^ x / Nat.pow 2 c
  | _ => x

def constants (f : Family) : Array Nat := ((primes f.rounds).map (rootBits 3 f.bits)).toArray

def words (f : Family) (block : Array Nat) : Array Nat :=
  (List.range (f.rounds - 16)).foldl (fun w i =>
    w.push ((w.getD i 0 + f.mixed (w.getD (i + 1) 0) f.early + w.getD (i + 9) 0
      + f.mixed (w.getD (i + 14) 0) f.late) % Nat.pow 2 f.bits)) block

def step (f : Family) (constants words : Array Nat) (s : List Nat) (i : Nat) : List Nat :=
  let m := Nat.pow 2 f.bits
  match s with
  | [a, b, c, d, e, g, h, k] =>
    let choice := (e &&& g) ^^^ ((m - 1 - e) &&& h)
    let sum := k + f.turned e f.lower + choice + constants.getD i 0 + words.getD i 0
    let most := (a &&& b) ^^^ (a &&& c) ^^^ (b &&& c)
    [(sum + f.turned a f.upper + most) % m, a, b, c, (d + sum) % m, e, g, h]
  | s => s

def digest (f : Family) (start : List Nat) (t : Text) : Text :=
  let constants := f.constants
  let s := (wordBlocks true (f.bits / 8) t).foldl (fun s block =>
    let words := f.words block
    List.zipWith (fun a b => (a + b) % Nat.pow 2 f.bits) s
      ((List.range f.rounds).foldl (f.step constants words) s)) start
  s.flatMap (placed true (f.bits / 8))

end Family

def sha256 (t : Text) : Text := narrow.digest ((primes 8).map (rootBits 2 32)) t

def sha224 (t : Text) : Text :=
  (narrow.digest (((primes 16).drop 8).map fun p => rootBits 2 64 p % Nat.pow 2 32) t).take 28

def sha512 (t : Text) : Text := wide.digest ((primes 8).map (rootBits 2 64)) t

def sha384 (t : Text) : Text :=
  (wide.digest (((primes 16).drop 8).map (rootBits 2 64)) t).take 48

def inHex (t : Text) : Text :=
  t.flatMap fun c => let d := inBase 16 c.toNat; if d.length < 2 then '0' :: d else d

end Digest
end Shell
end CoroBridge
