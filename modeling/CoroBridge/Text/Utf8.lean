import CoroBridge.Text.Basic

/-!
# UTF-8

Bytes are read one at a time; the bytes that no character is made of are kept as pieces of their
own, so that one reading serves a strict decoder and a lenient one.

* `Utf8.step`      one byte read: the pieces that it ends, and the character that it leaves open;
* `Utf8.pieces`    the characters and faulty stretches of a byte sequence, in order;
* `Utf8.decode`    the text of a byte sequence, or the first fault and its place;
* `Utf8.decodeLossy`  the text with the replacement character for every faulty stretch;
* `Utf8.encode`    the bytes of a text.
-/

namespace CoroBridge

abbrev Bytes := List UInt8

namespace Utf8

/-- a character whose first bytes are read: their number, the number of bytes still owed, the
least and the greatest value that the next one may have, and the value read so far -/
structure Partial where
  read : Nat
  owed : Nat
  low : Nat
  high : Nat
  value : Nat
  deriving DecidableEq, Repr

/-- a stretch of a byte sequence: a character, some bytes that no character begins with, or the
first bytes of a character that the end of the sequence cuts off -/
inductive Piece where
  | char (c : Char)
  | stray (bytes : Nat)
  | unfinished (bytes : Nat)
  deriving DecidableEq, Repr

def Piece.size : Piece → Nat
  | .char c => c.utf8Size
  | .stray n => n
  | .unfinished n => n

def Piece.char? : Piece → Option Char
  | .char c => some c
  | _ => none

/-- a first byte that announces more bytes; the bounds on the second one exclude overlong forms,
surrogates and values past the last character -/
def announced? (b : Nat) : Option Partial :=
  if 0xC2 ≤ b && b ≤ 0xDF then some ⟨1, 1, 0x80, 0xBF, b - 0xC0⟩
  else if b == 0xE0 then some ⟨1, 2, 0xA0, 0xBF, 0⟩
  else if b == 0xED then some ⟨1, 2, 0x80, 0x9F, 0xD⟩
  else if 0xE1 ≤ b && b ≤ 0xEF then some ⟨1, 2, 0x80, 0xBF, b - 0xE0⟩
  else if b == 0xF0 then some ⟨1, 3, 0x90, 0xBF, 0⟩
  else if 0xF1 ≤ b && b ≤ 0xF3 then some ⟨1, 3, 0x80, 0xBF, b - 0xF0⟩
  else if b == 0xF4 then some ⟨1, 3, 0x80, 0x8F, 4⟩
  else none

/-- a byte read between characters -/
def start (b : Nat) : List Piece × Option Partial :=
  if b < 0x80 then ([.char (Char.ofNat b)], none)
  else
    match announced? b with
    | some p => ([], some p)
    | none => ([.stray 1], none)

/-- a byte read: where it cannot go on with the open character, that one is a stray stretch and
the byte starts afresh -/
def step (opened : Option Partial) (b : Nat) : List Piece × Option Partial :=
  match opened with
  | none => start b
  | some p =>
    if p.low ≤ b && b ≤ p.high then
      let value := p.value * 64 + (b - 0x80)
      if p.owed = 1 then ([.char (Char.ofNat value)], none)
      else ([], some ⟨p.read + 1, p.owed - 1, 0x80, 0xBF, value⟩)
    else (.stray p.read :: (start b).1, (start b).2)

/-- the pieces of the bytes that come after an open character's first ones -/
def piecesFrom : Option Partial → Bytes → List Piece
  | none, [] => []
  | some p, [] => [.unfinished p.read]
  | opened, b :: r => (step opened b.toNat).1 ++ piecesFrom (step opened b.toNat).2 r

theorem piecesFrom_cons (opened : Option Partial) (b : UInt8) (r : Bytes) :
    piecesFrom opened (b :: r)
      = (step opened b.toNat).1 ++ piecesFrom (step opened b.toNat).2 r := by
  cases opened <;> rfl

def pieces (b : Bytes) : List Piece := piecesFrom none b

@[simp] theorem pieces_nil : pieces [] = [] := rfl

/-! ## decoding -/

/-- the first fault of a byte sequence that is no text: some bytes that begin no character, or a
last character cut off, and the number of good bytes before -/
inductive Fault where
  | invalid (bytes index : Nat)
  | incomplete (index : Nat)
  deriving DecidableEq, Repr

def Fault.message : Fault → Text
  | .invalid n i =>
    "invalid utf-8 sequence of " ++ Text.ofNat n ++ " bytes from index " ++ Text.ofNat i
  | .incomplete i => "incomplete utf-8 byte sequence from index " ++ Text.ofNat i

/-- the text that the pieces make up, when `index` bytes come before them -/
def assemble (index : Nat) (ps : List Piece) : Except Fault Text :=
  let good := ps.takeWhile fun p => p.char?.isSome
  let index := (good.map Piece.size).foldl (· + ·) index
  match ps.drop good.length with
  | .stray n :: _ => .error (.invalid n index)
  | .unfinished _ :: _ => .error (.incomplete index)
  | _ => .ok (ps.filterMap Piece.char?)

def decode (b : Bytes) : Except Fault Text := assemble 0 (pieces b)

/-- the text of a byte sequence, the replacement character standing for each faulty stretch -/
def decodeLossy (b : Bytes) : Text := (pieces b).map fun p => p.char?.getD '\uFFFD'

/-! ## encoding -/

def encode (t : Text) : Bytes := t.flatMap String.utf8EncodeChar

@[simp] theorem encode_nil : encode [] = [] := rfl

theorem encode_cons (c : Char) (t : Text) :
    encode (c :: t) = String.utf8EncodeChar c ++ encode t := by
  simp [encode]

theorem encode_append (s t : Text) : encode (s ++ t) = encode s ++ encode t := by
  simp [encode]

end Utf8
end CoroBridge
