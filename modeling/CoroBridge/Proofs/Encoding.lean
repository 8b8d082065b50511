import CoroBridge.Text.Utf8

/-!
# Decoding reads back what encoding writes

The bytes of a character are a first byte that announces the others, and these, with six bits in
each.  What is read of an open character are the bits of its number above those that are owed.

* `Utf8.highBits`, `Utf8.tailBytes`   a number without its low bits, and the bytes for these;
* `Utf8.Partial.Opens`       an open character may become the one of a number;
* `Utf8.piecesFrom_tailBytes`, `Utf8.exists_tailBytes`   it does on the bytes for the owed bits of
                             this number, and on no others;
* `Utf8.leadByte`, `Utf8.tailLength`   the first byte of a character, and how many come after it;
* `Utf8.announced?_leadByte`, `Utf8.Partial.Opens.of_announced?`   a first byte opens the characters
                             that begin with it, and no others;
* `Utf8.pieces_eq_map_char_iff`   the pieces of a text's bytes are its characters;
* `Utf8.decode_eq_ok_iff`    a byte sequence is decoded to a text if and only if it is what the text
                             is encoded to;
* `Utf8.encode_inj`          so a byte sequence is the encoding of one text at most.
-/

namespace CoroBridge
namespace Utf8

/-! ## the bytes after the first one -/

/-- a number without its low `6 * k` bits -/
def highBits : Nat → Nat → Nat
  | 0, n => n
  | k + 1, n => highBits k n / 64

theorem highBits_zero (n : Nat) : highBits 0 n = n := rfl

theorem highBits_succ (k n : Nat) : highBits (k + 1) n = highBits k n / 64 := rfl

/-- the bytes for the low `6 * k` bits of a number -/
def tailBytes : Nat → Nat → Bytes
  | 0, _ => []
  | k + 1, n => UInt8.ofNat (0x80 + highBits k n % 64) :: tailBytes k n

theorem tailBytes_zero (n : Nat) : tailBytes 0 n = [] := rfl

theorem tailBytes_succ (k n : Nat) :
    tailBytes (k + 1) n = UInt8.ofNat (0x80 + highBits k n % 64) :: tailBytes k n := rfl

theorem toNat_tailByte (x : Nat) : (UInt8.ofNat (0x80 + x % 64)).toNat = 0x80 + x % 64 := by
  rw [UInt8.toNat_ofNat']
  omega

/-- an open character that is owed `k + 1` bytes may become the character of a number: what is
read are the high bits of it, and the next byte may have the next six -/
structure Partial.Opens (p : Partial) (k n : Nat) : Prop where
  owed_eq : p.owed = k + 1
  value_eq : p.value = highBits (k + 1) n
  low_le : p.low ≤ 0x80 + highBits k n % 64
  le_high : 0x80 + highBits k n % 64 ≤ p.high

namespace Partial
variable {p : Partial} {k n : Nat}

/-- with its next byte, six more bits of the character are read -/
theorem Opens.next_value (h : p.Opens k n) :
    p.value * 64 + (0x80 + highBits k n % 64 - 0x80) = highBits k n := by
  have hvalue := h.value_eq
  rw [highBits_succ] at hvalue
  omega

theorem opens_of_next_value {b : UInt8} (howed : p.owed = k + 1) (hlow : 0x80 ≤ p.low)
    (hhigh : p.high ≤ 0xBF) (hb : p.low ≤ b.toNat ∧ b.toNat ≤ p.high)
    (hnext : p.value * 64 + (b.toNat - 0x80) = highBits k n) :
    p.Opens k n ∧ UInt8.ofNat (0x80 + highBits k n % 64) = b := by
  have hbyte : 0x80 + highBits k n % 64 = b.toNat := by omega
  have hvalue : p.value = highBits (k + 1) n := by rw [highBits_succ]; omega
  refine ⟨⟨howed, hvalue, ?_, ?_⟩, ?_⟩
  · rw [hbyte]; exact hb.1
  · rw [hbyte]; exact hb.2
  · rw [hbyte, UInt8.ofNat_toNat]

end Partial

/-- a byte that goes on with an open character -/
theorem step_some_of_bounds {p : Partial} {b : Nat} (h : p.low ≤ b ∧ b ≤ p.high) :
    step (some p) b
      = if p.owed = 1 then ([.char (Char.ofNat (p.value * 64 + (b - 0x80)))], none)
        else ([], some ⟨p.read + 1, p.owed - 1, 0x80, 0xBF, p.value * 64 + (b - 0x80)⟩) := by
  rw [step, if_pos (by simpa using h)]

/-- an open character is completed by the bytes for the owed bits -/
theorem piecesFrom_tailBytes {k : Nat} {p : Partial} {n : Nat} (h : p.Opens k n) (r : Bytes) :
    piecesFrom (some p) (tailBytes (k + 1) n ++ r) = .char (Char.ofNat n) :: piecesFrom none r := by
  induction k generalizing p with
  | zero =>
    rw [tailBytes_succ, tailBytes_zero, List.cons_append, piecesFrom_cons, toNat_tailByte,
      step_some_of_bounds ⟨h.low_le, h.le_high⟩, if_pos h.owed_eq, h.next_value, highBits_zero]
    rfl
  | succ k ih =>
    have howed : p.owed ≠ 1 := by rw [h.owed_eq]; omega
    have hnext : Partial.Opens ⟨p.read + 1, k + 1, 0x80, 0xBF, highBits (k + 1) n⟩ k n :=
      ⟨rfl, rfl, by dsimp only; omega, by dsimp only; omega⟩
    rw [tailBytes_succ, List.cons_append, piecesFrom_cons, toNat_tailByte,
      step_some_of_bounds ⟨h.low_le, h.le_high⟩, if_neg howed, h.next_value, h.owed_eq]
    exact ih hnext

/-- a character stays open if the bytes end, and is stray if the next one is out of bounds -/
theorem exists_cons_of_chars {p : Partial} {bs : Bytes}
    (h : ∀ x ∈ piecesFrom (some p) bs, x.char?.isSome = true) :
    ∃ b r, bs = b :: r ∧ p.low ≤ b.toNat ∧ b.toNat ≤ p.high := by
  cases bs with
  | nil => cases h (.unfinished p.read) List.mem_cons_self
  | cons b r =>
    by_cases hb : p.low ≤ b.toNat ∧ b.toNat ≤ p.high
    · exact ⟨b, r, rfl, hb⟩
    · have hstray : .stray p.read ∈ piecesFrom (some p) (b :: r) := by
        rw [piecesFrom_cons, step, if_neg (by simpa using hb)]
        exact List.mem_cons_self
      cases h _ hstray

/-- bytes that make up characters only, after the first bytes of one, complete that one -/
theorem exists_tailBytes {k : Nat} {p : Partial} {bs : Bytes} (howed : p.owed = k + 1)
    (hlow : 0x80 ≤ p.low) (hhigh : p.high ≤ 0xBF)
    (h : ∀ x ∈ piecesFrom (some p) bs, x.char?.isSome = true) :
    ∃ n r, p.Opens k n ∧ bs = tailBytes (k + 1) n ++ r := by
  induction k generalizing p bs with
  | zero =>
    obtain ⟨b, r, rfl, hb⟩ := exists_cons_of_chars h
    obtain ⟨hopens, hbyte⟩ := Partial.opens_of_next_value howed hlow hhigh hb
      (highBits_zero (p.value * 64 + (b.toNat - 0x80))).symm
    exact ⟨_, r, hopens, by rw [tailBytes_succ, hbyte]; rfl⟩
  | succ k ih =>
    obtain ⟨b, r, rfl, hb⟩ := exists_cons_of_chars h
    have hopen : p.owed ≠ 1 := by rw [howed]; omega
    have hleft : p.owed - 1 = k + 1 := by rw [howed]; rfl
    rw [piecesFrom_cons, step_some_of_bounds hb, if_neg hopen, List.nil_append] at h
    obtain ⟨n, r, hrest, rfl⟩ := ih hleft (Nat.le_refl _) (Nat.le_refl _) h
    obtain ⟨hopens, hbyte⟩ :=
      Partial.opens_of_next_value howed hlow hhigh hb hrest.value_eq
    exact ⟨n, r, hopens, by rw [tailBytes_succ (k + 1), hbyte]; rfl⟩

/-! ## first bytes -/

/-- the first byte of the character of a number -/
def leadByte (n : Nat) : Nat :=
  if n ≤ 0x7F then n
  else if n ≤ 0x7FF then 0xC0 + n / 64
  else if n ≤ 0xFFFF then 0xE0 + n / 4096
  else 0xF0 + n / 262144

/-- how many bytes come after it -/
def tailLength (n : Nat) : Nat :=
  if n ≤ 0x7F then 0 else if n ≤ 0x7FF then 1 else if n ≤ 0xFFFF then 2 else 3

theorem leadByte_cases (n : Nat) :
    (n ≤ 0x7F ∧ leadByte n = n ∧ tailLength n = 0) ∨
    (0x7F < n ∧ n ≤ 0x7FF ∧ leadByte n = 0xC0 + n / 64 ∧ tailLength n = 1) ∨
    (0x7FF < n ∧ n ≤ 0xFFFF ∧ leadByte n = 0xE0 + n / 4096 ∧ tailLength n = 2) ∨
    (0xFFFF < n ∧ leadByte n = 0xF0 + n / 262144 ∧ tailLength n = 3) := by
  unfold leadByte tailLength
  split
  · omega
  split
  · omega
  split <;> omega

theorem toNat_ofNat_of_isValidChar {n : Nat} (h : n.isValidChar) : (Char.ofNat n).toNat = n := by
  rw [Char.ofNat, dif_pos h]
  rfl

theorem utf8EncodeChar_eq (c : Char) :
    String.utf8EncodeChar c
      = UInt8.ofNat (leadByte c.toNat) :: tailBytes (tailLength c.toNat) c.toNat := by
  have hc : c.toNat.isValidChar := c.valid
  unfold Nat.isValidChar at hc
  have hval : c.val.toNat = c.toNat := rfl
  have h1 : c.toNat ≤ 0x7FF → c.toNat / 64 % 32 = c.toNat / 64 := by omega
  have h2 : c.toNat ≤ 0xFFFF → c.toNat / 4096 % 16 = c.toNat / 4096 := by omega
  have h3 : c.toNat / 262144 % 8 = c.toNat / 262144 := by omega
  unfold String.utf8EncodeChar leadByte tailLength
  simp only [hval]
  split
  · rfl
  split
  · next h => simp [tailBytes, highBits, h1 h, Nat.add_comm]
  split
  · next h => simp [tailBytes, highBits, h2 h, Nat.add_comm]
  · simp [tailBytes, highBits, h3, Nat.add_comm, Nat.div_div_eq_div_mul]

theorem opens_iff {p : Partial} {k m n : Nat} (hm : highBits k n = m) :
    p.Opens k n ↔ p.owed = k + 1 ∧ p.value = m / 64 ∧ p.low ≤ 0x80 + m % 64 ∧
      0x80 + m % 64 ≤ p.high := by
  subst hm
  exact ⟨fun h => ⟨h.owed_eq, h.value_eq, h.low_le, h.le_high⟩,
    fun h => ⟨h.1, h.2.1, h.2.2.1, h.2.2.2⟩⟩

theorem exists_announced? {b : Nat} (hlow : 0xC2 ≤ b) (hhigh : b ≤ 0xF4) :
    ∃ p, announced? b = some p := by
  unfold announced?
  simp only [Bool.and_eq_true, decide_eq_true_eq, beq_iff_eq]
  iterate 7
    split
    · exact ⟨_, rfl⟩
  omega

/-- what a first byte announces, by the number of bytes after it -/
theorem announced?_cases {b : Nat} {p : Partial} (h : announced? b = some p) :
    (p.owed = 1 ∧ 0xC2 ≤ b ∧ b ≤ 0xDF ∧ p.value = b - 0xC0 ∧ p.low = 0x80 ∧ p.high = 0xBF) ∨
    (p.owed = 2 ∧ 0xE0 ≤ b ∧ b ≤ 0xEF ∧ p.value = b - 0xE0 ∧
      (b = 0xE0 ∧ p.low = 0xA0 ∨ b ≠ 0xE0 ∧ p.low = 0x80) ∧
      (b = 0xED ∧ p.high = 0x9F ∨ b ≠ 0xED ∧ p.high = 0xBF)) ∨
    (p.owed = 3 ∧ 0xF0 ≤ b ∧ b ≤ 0xF4 ∧ p.value = b - 0xF0 ∧
      (b = 0xF0 ∧ p.low = 0x90 ∨ b ≠ 0xF0 ∧ p.low = 0x80) ∧
      (b = 0xF4 ∧ p.high = 0x8F ∨ b ≠ 0xF4 ∧ p.high = 0xBF)) := by
  unfold announced? at h
  simp only [Bool.and_eq_true, decide_eq_true_eq, beq_iff_eq] at h
  iterate 7
    split at h
    · cases h
      dsimp only
      omega
  cases h

/-- the first byte of a character of more than one opens it -/
theorem announced?_leadByte {n : Nat} (h : 0x7F < n) (hn : n.isValidChar) :
    ∃ p k, announced? (leadByte n) = some p ∧ tailLength n = k + 1 ∧ p.Opens k n := by
  have hlead := leadByte_cases n
  unfold Nat.isValidChar at hn
  obtain ⟨p, hp⟩ := exists_announced? (b := leadByte n) (by omega) (by omega)
  rcases announced?_cases hp with hone | htwo | hthree
  · exact ⟨p, 0, hp, by omega, (opens_iff (m := n) rfl).2 (by omega)⟩
  · exact ⟨p, 1, hp, by omega, (opens_iff (m := n / 64) rfl).2 (by omega)⟩
  · exact ⟨p, 2, hp, by omega, (opens_iff (m := n / 64 / 64) rfl).2 (by omega)⟩

/-- a first byte opens characters of more than one byte that begin with it, and only these -/
theorem Partial.Opens.of_announced? {b k n : Nat} {p : Partial} (h : announced? b = some p)
    (hn : p.Opens k n) :
    n.isValidChar ∧ leadByte n = b ∧ tailLength n = k + 1 := by
  have hlead := leadByte_cases n
  unfold Nat.isValidChar
  have howed := hn.owed_eq
  rcases announced?_cases h with hone | htwo | hthree
  · obtain rfl : k = 0 := by omega
    rw [opens_iff (m := n) rfl] at hn
    omega
  · obtain rfl : k = 1 := by omega
    rw [opens_iff (m := n / 64) rfl] at hn
    omega
  · obtain rfl : k = 2 := by omega
    rw [opens_iff (m := n / 64 / 64) rfl] at hn
    omega

/-! ## texts -/

theorem piecesFrom_utf8EncodeChar (c : Char) (r : Bytes) :
    piecesFrom none (String.utf8EncodeChar c ++ r) = .char c :: piecesFrom none r := by
  have hvalid : c.toNat.isValidChar := c.valid
  have hlead := leadByte_cases c.toNat
  have hbyte : (UInt8.ofNat (leadByte c.toNat)).toNat = leadByte c.toNat := by
    unfold Nat.isValidChar at hvalid
    rw [UInt8.toNat_ofNat']
    omega
  rw [utf8EncodeChar_eq, List.cons_append, piecesFrom_cons, hbyte, step]
  by_cases hone : c.toNat ≤ 0x7F
  · obtain ⟨hsame, hnone⟩ : leadByte c.toNat = c.toNat ∧ tailLength c.toNat = 0 := by omega
    rw [hsame, hnone, start, if_pos (by omega), tailBytes_zero, Char.ofNat_toNat]
    rfl
  · obtain ⟨p, k, hp, hlength, hopens⟩ := announced?_leadByte (by omega) hvalid
    have hstart : start (leadByte c.toNat) = ([], some p) := by
      rw [start, if_neg (by omega), hp]
    rw [hstart, hlength, List.nil_append, piecesFrom_tailBytes hopens, Char.ofNat_toNat]

/-- bytes that make up characters only begin with the bytes of one -/
theorem exists_utf8EncodeChar {bs : Bytes} (hne : bs ≠ [])
    (h : ∀ x ∈ piecesFrom none bs, x.char?.isSome = true) :
    ∃ c r, bs = String.utf8EncodeChar c ++ r := by
  obtain ⟨b, r, rfl⟩ := List.exists_cons_of_ne_nil hne
  rw [piecesFrom_cons, step, start] at h
  by_cases hb : b.toNat < 0x80
  · refine ⟨Char.ofNat b.toNat, r, ?_⟩
    have hlead := leadByte_cases b.toNat
    obtain ⟨hsame, hnone⟩ : leadByte b.toNat = b.toNat ∧ tailLength b.toNat = 0 := by omega
    have hvalid : b.toNat.isValidChar := .inl (by omega)
    rw [utf8EncodeChar_eq, toNat_ofNat_of_isValidChar hvalid, hsame, hnone, UInt8.ofNat_toNat]
    rfl
  · rw [if_neg hb] at h
    cases hp : announced? b.toNat with
    | none =>
      rw [hp] at h
      cases h (.stray 1) List.mem_cons_self
    | some p =>
      rw [hp, List.nil_append] at h
      have hcases := announced?_cases hp
      obtain ⟨k, howed⟩ : ∃ k, p.owed = k + 1 := ⟨p.owed - 1, by omega⟩
      obtain ⟨n, r, hopens, rfl⟩ := exists_tailBytes howed (by omega) (by omega) h
      obtain ⟨hvalid, hlead, hlength⟩ := hopens.of_announced? hp
      refine ⟨Char.ofNat n, r, ?_⟩
      rw [utf8EncodeChar_eq, toNat_ofNat_of_isValidChar hvalid, hlead, hlength,
        UInt8.ofNat_toNat]
      rfl

theorem pieces_utf8EncodeChar (c : Char) (r : Bytes) :
    pieces (String.utf8EncodeChar c ++ r) = .char c :: pieces r :=
  piecesFrom_utf8EncodeChar c r

/-- the pieces of the bytes of a text are its characters, and no other bytes have these pieces -/
theorem pieces_eq_map_char_iff {bs : Bytes} {t : Text} :
    pieces bs = t.map .char ↔ bs = encode t := by
  constructor
  · intro h
    induction t generalizing bs with
    | nil =>
      refine Decidable.byContradiction fun hne => ?_
      have hchars : ∀ x ∈ pieces bs, x.char?.isSome = true := by simp [h]
      obtain ⟨c, r, rfl⟩ := exists_utf8EncodeChar hne hchars
      rw [pieces_utf8EncodeChar] at h
      cases h
    | cons c t ih =>
      have hne : bs ≠ [] := by
        rintro rfl
        cases h
      have hchars : ∀ x ∈ pieces bs, x.char?.isSome = true := by
        rw [h]
        exact List.forall_mem_map.2 fun _ _ => rfl
      obtain ⟨d, r, rfl⟩ := exists_utf8EncodeChar hne hchars
      rw [pieces_utf8EncodeChar, List.map_cons, List.cons.injEq, Piece.char.injEq] at h
      obtain ⟨rfl, hr⟩ := h
      rw [ih hr, encode_cons]
  · rintro rfl
    induction t with
    | nil => rfl
    | cons c t ih => rw [encode_cons, pieces_utf8EncodeChar, ih, List.map_cons]

theorem assemble_char (i : Nat) (c : Char) (ps : List Piece) :
    assemble i (.char c :: ps) = (assemble (i + c.utf8Size) ps).map (c :: ·) := by
  simp only [assemble, List.takeWhile_cons, Piece.char?, Option.isSome_some, if_true,
    List.map_cons, List.foldl_cons, List.length_cons, List.drop_succ_cons, List.filterMap_cons,
    Piece.size]
  split <;> rfl

theorem assemble_eq_ok_iff {i : Nat} {ps : List Piece} {t : Text} :
    assemble i ps = .ok t ↔ ps = t.map .char := by
  constructor
  · intro h
    induction ps generalizing i t with
    | nil =>
      cases h
      rfl
    | cons x ps ih =>
      cases x with
      | char c =>
        rw [assemble_char] at h
        cases hrest : assemble (i + c.utf8Size) ps with
        | error fault =>
          rw [hrest] at h
          cases h
        | ok u =>
          rw [hrest] at h
          cases h
          rw [ih hrest, List.map_cons]
      | stray n => cases h
      | unfinished n => cases h
  · rintro rfl
    induction t generalizing i with
    | nil => rfl
    | cons c t ih =>
      rw [List.map_cons, assemble_char, ih]
      rfl

/-- **Bytes are decoded to a text if and only if the text is encoded to them.** -/
theorem decode_eq_ok_iff {bs : Bytes} {t : Text} : decode bs = .ok t ↔ bs = encode t := by
  rw [decode, assemble_eq_ok_iff, pieces_eq_map_char_iff]

/-- no two texts have the same bytes -/
theorem encode_inj {s t : Text} : encode s = encode t ↔ s = t := by
  constructor
  · intro h
    have hs : decode (encode s) = .ok s := decode_eq_ok_iff.2 rfl
    rw [h, decode_eq_ok_iff.2 rfl] at hs
    exact (Except.ok.inj hs).symm
  · exact congrArg encode

end Utf8
end CoroBridge
