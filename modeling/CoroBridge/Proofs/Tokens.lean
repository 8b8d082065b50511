import CoroBridge.Counterpart
import CoroBridge.Proofs.Parameter
import CoroBridge.Proofs.Rules

/-!
# Tokens: what the comparison with a coroutine sees

A bridge and its coroutine are compared by types in a spacing of their own, which are cut from
parameters in another one.  Here the comparison is read off the two argument texts: all that counts
are the words and stars of their fragments.

* `tokens`               the words and stars of a text;
* `tokens_append`        a cut that goes through no word leaves them as they are;
* `tokens_tidy`          so do blanks around words and runs of them;
* `Param.Written.tokens_decl`   the last one of a parameter is its name, the others are its type's;
* `splitBlanks_loosen`, `normalType_eq_iff`   the types that are compared are equal if and only if
                         their tokens are;
* `typeMismatch?_eq_some_iff`   the search for a difference stops at the first one;
* `Mismatch.message_type`, `Fault.message_drift`   what a report of it says;
* `checkAgainst_tokens`  the comparison of two argument texts.
-/

namespace CoroBridge
open Text

/-! ## tokens -/

/-- a character of a word: neither a blank nor a star -/
def isWordChar (c : Char) : Bool := !isBlank c && c != '*'

/-- the words and stars of a text, in order: a star stands alone, a word goes as far as it can -/
def tokens : Text → List Text
  | [] => []
  | c :: r =>
    if isBlank c then tokens r
    else if isWordChar c && r.head?.any isWordChar then onto c (tokens r)
    else [c] :: tokens r

@[simp] theorem tokens_nil : tokens [] = [] := rfl

theorem tokens_blank {c : Char} (h : isBlank c = true) (r : Text) : tokens (c :: r) = tokens r := by
  simp [tokens, h]

/-- a character that no word goes on behind -/
theorem tokens_cons {c : Char} (hc : isBlank c = false) {r : Text}
    (h : (isWordChar c && r.head?.any isWordChar) = false) : tokens (c :: r) = [c] :: tokens r := by
  simp [tokens, hc, h]

/-- a character that a word goes on behind -/
theorem tokens_cons_word {c d : Char} (hc : isWordChar c = true) (hd : isWordChar d = true)
    (r : Text) : tokens (c :: d :: r) = onto c (tokens (d :: r)) := by
  have hb : isBlank c = false := by
    rw [isWordChar, Bool.and_eq_true, Bool.not_eq_true'] at hc
    exact hc.1
  rw [tokens, List.head?_cons, Option.any_some, hb, hc, hd]
  rfl

theorem isWordChar_eq_false_of_isBlank {c : Char} (h : isBlank c = true) :
    isWordChar c = false := by
  simp [isWordChar, h]

theorem isWordChar_of_isNameChar {c : Char} (h : isNameChar c = true) : isWordChar c = true := by
  rw [isWordChar, isBlank_eq_false_of_isNameChar h, Bool.not_false, Bool.true_and, bne_iff_ne]
  rintro rfl
  exact absurd h (by decide)

theorem isWordChar_eq_false_of_endsType {c : Char} (h : endsType c = true) :
    isWordChar c = false := by
  rw [endsType, Bool.or_eq_true, beq_iff_eq, beq_iff_eq] at h
  rcases h with rfl | rfl <;> decide

theorem tokens_ne_nil {t : Text} (h : t.head?.any isWordChar = true) : tokens t ≠ [] := by
  cases t with
  | nil => cases h
  | cons c r =>
    have hb : isBlank c = false := by
      rw [List.head?_cons, Option.any_some, isWordChar, Bool.and_eq_true, Bool.not_eq_true'] at h
      exact h.1
    simp only [tokens, hb, Bool.false_eq_true, if_false]
    split
    · exact onto_ne_nil c _
    · exact List.cons_ne_nil _ _

theorem onto_append (c : Char) {ps : List Text} (h : ps ≠ []) (qs : List Text) :
    onto c (ps ++ qs) = onto c ps ++ qs := by
  obtain ⟨p, ps, rfl⟩ := List.exists_cons_of_ne_nil h
  rfl

/-- a cut that goes through no word leaves the tokens as they are -/
theorem tokens_append {a b : Text}
    (h : a.getLast?.any isWordChar = false ∨ b.head?.any isWordChar = false) :
    tokens (a ++ b) = tokens a ++ tokens b := by
  induction a with
  | nil => rfl
  | cons c a ih =>
    cases a with
    | nil =>
      have hjoin : (isWordChar c && b.head?.any isWordChar) = false := by
        rw [Bool.and_eq_false_iff]
        exact h
      by_cases hb : isBlank c = true
      · rw [List.singleton_append, tokens_blank hb, tokens_blank hb, tokens_nil, List.nil_append]
      · rw [Bool.not_eq_true] at hb
        rw [List.singleton_append, tokens_cons hb hjoin, tokens_cons hb (by simp), tokens_nil,
          List.singleton_append]
    | cons d a =>
      have ih := ih h
      by_cases hb : isBlank c = true
      · rw [List.cons_append, tokens_blank hb, tokens_blank hb, ih]
      · rw [Bool.not_eq_true] at hb
        by_cases hjoin : (isWordChar c && isWordChar d) = true
        · rw [Bool.and_eq_true] at hjoin
          rw [tokens_cons_word hjoin.1 hjoin.2,
            ← onto_append c (tokens_ne_nil (t := d :: a) hjoin.2), ← ih]
          exact tokens_cons_word hjoin.1 hjoin.2 (a ++ b)
        · rw [Bool.not_eq_true] at hjoin
          rw [tokens_cons (r := d :: a) hb hjoin]
          exact (tokens_cons (r := d :: (a ++ b)) hb hjoin).trans (congrArg ([c] :: ·) ih)

theorem tokens_of_blank {t : Text} (h : ∀ c ∈ t, isBlank c = true) : tokens t = [] := by
  induction t with
  | nil => rfl
  | cons c t ih =>
    rw [List.forall_mem_cons] at h
    rw [tokens_blank h.1, ih h.2]

theorem tokens_word {w : Text} (hne : w ≠ []) (h : ∀ c ∈ w, isWordChar c = true) :
    tokens w = [w] := by
  induction w with
  | nil => exact absurd rfl hne
  | cons c w ih =>
    rw [List.forall_mem_cons] at h
    cases w with
    | nil =>
      have hb : isBlank c = false := by
        rw [Bool.eq_false_iff]
        intro hb
        rw [isWordChar_eq_false_of_isBlank hb] at h
        exact absurd h.1 (by decide)
      rw [tokens_cons hb (by simp), tokens_nil]
    | cons d w =>
      rw [tokens_cons_word h.1 (h.2 d List.mem_cons_self) w, ih (List.cons_ne_nil d w) h.2, onto_cons]

/-! ## tidy texts -/

theorem tokens_trim (t : Text) : tokens t.trim = tokens t := by
  obtain ⟨a, b, hcut, ha, hb⟩ := exists_trim t
  have hlast : a.getLast?.any isWordChar = false := by
    rw [Option.any_eq_false]
    exact fun c hc => isWordChar_eq_false_of_isBlank (ha c (List.mem_of_getLast? hc))
  have hhead : b.head?.any isWordChar = false := by
    rw [Option.any_eq_false]
    exact fun c hc => isWordChar_eq_false_of_isBlank (hb c (List.mem_of_head? hc))
  conv_rhs => rw [hcut]
  rw [tokens_append (.inl hlast), tokens_append (.inr hhead), tokens_of_blank ha,
    tokens_of_blank hb, List.nil_append, List.append_nil]

theorem any_head?_squeeze (t : Text) :
    (squeeze t).head?.any isWordChar = t.head?.any isWordChar := by
  cases t with
  | nil => rfl
  | cons c r =>
    by_cases hb : isBlank c = true
    · have hstart : startsBlank (squeeze (c :: r)) = true := (startsBlank_squeeze _).trans hb
      rw [startsBlank, Option.any_eq_true] at hstart
      obtain ⟨d, hd, hdb⟩ := hstart
      rw [hd, Option.any_some, isWordChar_eq_false_of_isBlank hdb, List.head?_cons,
        Option.any_some, isWordChar_eq_false_of_isBlank hb]
    · rw [squeeze_cons_of_not_blank (Bool.not_eq_true _ ▸ hb)]
      rfl

theorem tokens_squeeze (t : Text) : tokens (squeeze t) = tokens t := by
  induction t with
  | nil => rfl
  | cons c r ih =>
    by_cases hb : isBlank c = true
    · rw [squeeze_cons, if_pos hb, tokens_blank hb]
      split
      · exact ih
      · rw [tokens_blank (by decide), ih]
    · rw [Bool.not_eq_true] at hb
      rw [squeeze_cons_of_not_blank hb, tokens, tokens, any_head?_squeeze, ih]

/-- blanks around words, and how many there are between them, make no difference to the tokens -/
theorem tokens_tidy (t : Text) : tokens t.tidy = tokens t := by
  rw [tidy, tokens_squeeze, tokens_trim]

/-! ## parameters -/

/-- the tokens of a parameter but for the last one, which is its name -/
def typeTokens (fragment : Text) : List Text := (tokens fragment).dropLast

theorem Param.Written.tokens_decl {q : Param} (h : q.Written) :
    tokens q.decl = tokens q.ty ++ [q.name] := by
  obtain ⟨a, c, hty, hc⟩ := h.ty_ends
  have hne : q.name ≠ [] := by
    intro hnil
    have hname := h.name_isName
    rw [hnil] at hname
    cases hname
  have hlast : q.ty.getLast?.any isWordChar = false := by
    rw [hty, List.getLast?_concat, Option.any_some, isWordChar_eq_false_of_endsType hc]
  rw [h.decl_eq, tokens_append (.inl hlast),
    tokens_word hne fun d hd => isWordChar_of_isNameChar (h.mem_name hd)]

/-- the tokens of a fragment are those of the type that it declares, and the name -/
theorem Param.tokens_of_parse? {f : Text} {q : Param} (h : Param.parse? f = some q) :
    typeTokens f = tokens q.ty ∧ (tokens f).getLast? = some q.name := by
  obtain ⟨hw, htidy⟩ := Param.parse?_eq_some_iff.1 h
  have htokens : tokens f = tokens q.ty ++ [q.name] := by
    rw [← tokens_tidy, htidy, hw.tokens_decl]
  rw [typeTokens, htokens, List.dropLast_concat, List.getLast?_concat]
  exact ⟨rfl, rfl⟩

/-! ## types in their normal spacing -/

theorem splitBlanks_append_cons {c : Char} (hc : isBlank c = true) (a b : Text) :
    splitBlanks (a ++ c :: b) = splitBlanks a ++ splitBlanks b := by
  rw [splitBlanks, List.splitOnP_append_cons a b hc, List.filter_append]
  rfl

theorem splitBlanks_blank {c : Char} (hc : isBlank c = true) (t : Text) :
    splitBlanks (c :: t) = splitBlanks t := by
  have h := splitBlanks_append_cons hc [] t
  exact h

theorem splitBlanks_of_not_blank {w : Text} (hne : w ≠ []) (h : ∀ c ∈ w, isBlank c = false) :
    splitBlanks w = [w] := by
  rw [splitBlanks, List.splitOnP_eq_singleton h]
  simp [hne]

theorem splitBlanks_cons {c : Char} (hc : isBlank c = false) (t : Text) :
    splitBlanks (c :: t)
      = if t.head?.any fun d => !isBlank d then onto c (splitBlanks t)
        else [c] :: splitBlanks t := by
  cases t with
  | nil => exact splitBlanks_of_not_blank (List.cons_ne_nil c []) (List.forall_mem_singleton.2 hc)
  | cons d t =>
    rw [List.head?_cons, Option.any_some]
    by_cases hd : isBlank d = true
    · have h := splitBlanks_append_cons hd [c] t
      rw [splitBlanks_of_not_blank (List.cons_ne_nil c []) (List.forall_mem_singleton.2 hc)] at h
      rw [hd, splitBlanks_blank hd]
      exact h
    · rw [Bool.not_eq_true] at hd
      obtain ⟨p, ps, hps⟩ := List.exists_cons_of_ne_nil (List.splitOnP_ne_nil isBlank t)
      simp only [splitBlanks, List.splitOnP_cons_eq_if_modifyHead, hc, hd, hps,
        List.modifyHead_cons, Bool.false_eq_true, if_false, Bool.not_false, if_true,
        List.filter_cons, ne_eq, List.cons_ne_nil, not_false_eq_true, decide_true, onto_cons]

/-- words are read back from their text with spaces between -/
theorem splitBlanks_spaced {ws : List Text}
    (h : ∀ w ∈ ws, w ≠ [] ∧ ∀ c ∈ w, isBlank c = false) : splitBlanks (spaced ws) = ws := by
  induction ws with
  | nil => rfl
  | cons w ws ih =>
    rw [List.forall_mem_cons] at h
    cases ws with
    | nil =>
      rw [spaced, List.intercalate_singleton]
      exact splitBlanks_of_not_blank h.1.1 h.1.2
    | cons v vs =>
      have hjoin : spaced (w :: v :: vs) = w ++ ' ' :: spaced (v :: vs) := by
        rw [spaced, List.intercalate_cons_cons, List.append_assoc]
        rfl
      rw [hjoin, splitBlanks_append_cons (by decide), splitBlanks_of_not_blank h.1.1 h.1.2, ih h.2,
        List.singleton_append]

theorem mem_tokens {w t : Text} (h : w ∈ tokens t) : w ≠ [] ∧ ∀ c ∈ w, isBlank c = false := by
  induction t generalizing w with
  | nil => cases h
  | cons c t ih =>
    by_cases hb : isBlank c = true
    · rw [tokens_blank hb] at h
      exact ih h
    rw [Bool.not_eq_true] at hb
    have hone : ∀ d ∈ [c], isBlank d = false := List.forall_mem_singleton.2 hb
    rw [tokens, hb, if_neg Bool.false_ne_true] at h
    split at h
    · cases hts : tokens t with
      | nil =>
        rw [hts, onto_nil, List.mem_singleton] at h
        exact h ▸ ⟨List.cons_ne_nil c [], hone⟩
      | cons v vs =>
        rw [hts] at ih h
        rcases List.mem_cons.1 h with rfl | hw
        · exact ⟨List.cons_ne_nil c v, List.forall_mem_cons.2 ⟨hb, (ih List.mem_cons_self).2⟩⟩
        · exact ih (List.mem_cons_of_mem v hw)
    · rcases List.mem_cons.1 h with rfl | hw
      · exact ⟨List.cons_ne_nil c [], hone⟩
      · exact ih hw

theorem loosen_star (t : Text) : loosen ('*' :: t) = ' ' :: '*' :: ' ' :: loosen t := rfl

theorem loosen_cons {c : Char} (hc : c ≠ '*') (t : Text) : loosen (c :: t) = c :: loosen t := by
  simp [loosen, hc]

/-- where a word goes on, it goes on when the stars are loosened -/
theorem any_head?_loosen (t : Text) :
    ((loosen t).head?.any fun d => !isBlank d) = t.head?.any isWordChar := by
  cases t with
  | nil => rfl
  | cons c t =>
    by_cases hc : c = '*'
    · subst hc
      rfl
    · rw [loosen_cons hc, List.head?_cons, List.head?_cons, Option.any_some, Option.any_some,
        isWordChar, bne_iff_ne.2 hc, Bool.and_true]

/-- the tokens of a text stand between its blanks when the stars are loosened -/
theorem splitBlanks_loosen (t : Text) : splitBlanks (loosen t) = tokens t := by
  induction t with
  | nil => rfl
  | cons c t ih =>
    by_cases hb : isBlank c = true
    · have hc : c ≠ '*' := by
        rintro rfl
        exact absurd hb (by decide)
      rw [loosen_cons hc, splitBlanks_blank hb, tokens_blank hb, ih]
    rw [Bool.not_eq_true] at hb
    by_cases hc : c = '*'
    · subst hc
      have hword : isWordChar '*' = false := by decide
      rw [loosen_star, splitBlanks_blank (by decide), splitBlanks_cons hb, List.head?_cons,
        Option.any_some, splitBlanks_blank (by decide), ih, tokens_cons hb (by rw [hword]; rfl)]
      rfl
    · have hword : isWordChar c = true := by rw [isWordChar, hb, bne_iff_ne.2 hc]; rfl
      rw [loosen_cons hc, splitBlanks_cons hb, any_head?_loosen, ih, tokens, hb, hword,
        Bool.true_and, if_neg Bool.false_ne_true]

theorem normalType_eq (ty : Text) : normalType ty = spaced (tokens ty) := by
  rw [normalType, splitBlanks_loosen]

/-- two types have the same normal spacing if and only if they have the same tokens -/
theorem normalType_eq_iff {a b : Text} : normalType a = normalType b ↔ tokens a = tokens b := by
  rw [normalType_eq, normalType_eq]
  constructor
  · intro h
    have hwords := congrArg splitBlanks h
    rwa [splitBlanks_spaced fun w => mem_tokens, splitBlanks_spaced fun w => mem_tokens] at hwords
  · exact congrArg spaced

example : normalType "char**" = normalType "char * *" := by decide +kernel

/-! ## the search for a difference -/

/-- the tokens of the types of some parameters -/
def types (ps : List Param) : List (List Text) := ps.map fun q => tokens q.ty

theorem types_cons (p : Param) (ps : List Param) : types (p :: ps) = tokens p.ty :: types ps := rfl

theorem types_take (n : Nat) (ps : List Param) : types (ps.take n) = (types ps).take n :=
  List.map_take

theorem typeMismatch?_cons (i : Nat) (p q : Param) (ps qs : List Param) :
    typeMismatch? i (p :: ps) (q :: qs)
      = if tokens p.ty = tokens q.ty then typeMismatch? (i + 1) ps qs
        else some (.type i p.name (spaced (tokens p.ty)) (spaced (tokens q.ty))) := by
  by_cases h : tokens p.ty = tokens q.ty
  · rw [typeMismatch?, if_pos h, if_pos (normalType_eq_iff.2 h)]
  · rw [typeMismatch?, if_neg h, if_neg (mt normalType_eq_iff.1 h), normalType_eq, normalType_eq]

theorem typeMismatch?_eq_none_iff {i : Nat} {ps qs : List Param} (h : ps.length = qs.length) :
    typeMismatch? i ps qs = none ↔ types ps = types qs := by
  induction ps generalizing i qs with
  | nil =>
    obtain rfl := List.length_eq_zero_iff.1 h.symm
    exact ⟨fun _ => rfl, fun _ => rfl⟩
  | cons p ps ih =>
    cases qs with
    | nil => cases h
    | cons q qs =>
      rw [typeMismatch?_cons, types_cons, types_cons, List.cons.injEq]
      by_cases hty : tokens p.ty = tokens q.ty
      · rw [if_pos hty, ih (Nat.succ.inj h)]
        exact ⟨fun hps => ⟨hty, hps⟩, And.right⟩
      · rw [if_neg hty]
        exact iff_of_false (by simp) fun hps => hty hps.1

/-- the search stops at the first position where the tokens of the types differ -/
theorem typeMismatch?_eq_some_iff {i : Nat} {ps qs : List Param} {m : Mismatch} :
    typeMismatch? i ps qs = some m
      ↔ ∃ j p q, ps[j]? = some p ∧ qs[j]? = some q ∧ tokens p.ty ≠ tokens q.ty ∧
        types (ps.take j) = types (qs.take j) ∧
        m = .type (j + i) p.name (spaced (tokens p.ty)) (spaced (tokens q.ty)) := by
  induction ps generalizing i qs with
  | nil =>
    constructor
    · intro h
      cases h
    · rintro ⟨j, p, q, hp, _⟩
      cases hp
  | cons p ps ih =>
    cases qs with
    | nil =>
      constructor
      · intro h
        cases h
      · rintro ⟨j, _, q, _, hq, _⟩
        cases hq
    | cons q qs =>
      rw [typeMismatch?_cons]
      by_cases hty : tokens p.ty = tokens q.ty
      · rw [if_pos hty, ih]
        constructor
        · rintro ⟨j, p', q', hp, hq, hne, htake, rfl⟩
          refine ⟨j + 1, p', q', hp, hq, hne, ?_, by rw [Nat.add_right_comm, Nat.add_assoc]⟩
          rw [List.take_succ_cons, List.take_succ_cons, types_cons, types_cons, hty, htake]
        · rintro ⟨_ | j, p', q', hp, hq, hne, htake, rfl⟩
          · cases hp
            cases hq
            exact absurd hty hne
          · refine ⟨j, p', q', hp, hq, hne, ?_, by rw [Nat.add_right_comm, Nat.add_assoc]⟩
            rw [List.take_succ_cons, List.take_succ_cons, types_cons, types_cons,
              List.cons.injEq] at htake
            exact htake.2
      · rw [if_neg hty]
        constructor
        · intro h
          cases h
          exact ⟨0, p, q, rfl, rfl, hty, rfl, by rw [Nat.zero_add]⟩
        · rintro ⟨_ | j, p', q', hp, hq, _, htake, rfl⟩
          · cases hp
            cases hq
            rw [Nat.zero_add]
          · rw [List.take_succ_cons, List.take_succ_cons, types_cons, types_cons,
              List.cons.injEq] at htake
            exact absurd htake.1 hty

namespace Decl

theorem mismatch?_eq_none_iff {d c : Decl} :
    d.mismatch? c = none ↔ types d.params = types c.params := by
  unfold mismatch?
  by_cases h : d.params.length = c.params.length
  · rw [if_neg (not_not.2 h), typeMismatch?_eq_none_iff h]
  · rw [if_pos h]
    refine iff_of_false (by simp) fun htypes => h ?_
    have hlen := congrArg List.length htypes
    rwa [types, types, List.length_map, List.length_map] at hlen

theorem mismatch?_eq_some_iff {d c : Decl} {m : Mismatch} :
    d.mismatch? c = some m
      ↔ (d.params.length ≠ c.params.length ∧ m = .arity d.params.length c.params.length) ∨
        d.params.length = c.params.length ∧ typeMismatch? 1 d.params c.params = some m := by
  unfold mismatch?
  by_cases h : d.params.length = c.params.length
  · rw [if_neg (not_not.2 h)]
    exact ⟨fun hm => .inr ⟨h, hm⟩, fun hm => hm.elim (fun hm => absurd h hm.1) And.right⟩
  · rw [if_pos h, Option.some.injEq]
    exact ⟨fun hm => .inl ⟨h, hm.symm⟩, fun hm => hm.elim (fun hm => hm.2.symm)
      fun hm => absurd hm.1 h⟩

end Decl

theorem Plan.checkAgainst_eq_ok_iff {p : Plan} {c : Decl} :
    p.checkAgainst c = .ok () ↔ types p.wrapper.params = types c.params := by
  rw [← Decl.mismatch?_eq_none_iff, checkAgainst]
  cases p.wrapper.mismatch? c <;> simp

theorem Plan.checkAgainst_eq_error_iff {p : Plan} {c : Decl} {fault : Fault} :
    p.checkAgainst c = .error fault
      ↔ ∃ m, p.wrapper.mismatch? c = some m ∧ fault = .drift p.wrapper.name c.name m := by
  rw [checkAgainst]
  cases p.wrapper.mismatch? c <;> simp [eq_comm]

/-! ## argument texts -/

namespace Decl
variable {result name args : Text} {d : Decl} {i : Nat}

theorem parse?_of_read (h : read result name args = .ok d) :
    (args.splitOn ',').map Param.parse? = d.params.map some := by
  obtain ⟨_, _, hall⟩ := read_eq_ok_iff.1 h
  rwa [← List.forall₂_eq_eq_eq, List.forall₂_map_left_iff, List.forall₂_map_right_iff]

theorem length_of_read (h : read result name args = .ok d) :
    (args.splitOn ',').length = d.params.length := by
  simpa using congrArg List.length (parse?_of_read h)

/-- the parameter of a fragment stands in the place of the fragment -/
theorem getElem?_of_read (h : read result name args = .ok d) {q : Param} :
    d.params[i]? = some q ↔ ∃ f, (args.splitOn ',')[i]? = some f ∧ Param.parse? f = some q := by
  have hi := congrArg (·[i]?) (parse?_of_read h)
  simp only [List.getElem?_map] at hi
  constructor
  · intro hq
    rw [hq, Option.map_some, Option.map_eq_some_iff] at hi
    exact hi
  · rintro ⟨f, hf, hq⟩
    rw [hf, Option.map_some, hq, eq_comm, Option.map_eq_some_iff] at hi
    obtain ⟨_, hq', h⟩ := hi
    exact hq'.trans h

theorem types_of_read (h : read result name args = .ok d) :
    (args.splitOn ',').map typeTokens = types d.params := by
  obtain ⟨_, _, hall⟩ := read_eq_ok_iff.1 h
  rw [types, ← List.forall₂_eq_eq_eq, List.forall₂_map_left_iff, List.forall₂_map_right_iff]
  exact hall.imp fun f q hq => (Param.tokens_of_parse? hq).1

end Decl

/-! ## texts of faults -/

theorem Mismatch.message_type (i : Nat) (n a b : Text) : (Mismatch.type i n a b).message
    = "parameter " ++ Text.ofNat i ++ " (`" ++ n ++ "`) has type `" ++ a ++ "`, coroutine expects `"
      ++ b ++ "`" := by
  have hname : (" (" : Text) ++ ("`" : Text) = " (`" := by decide +kernel
  have htype : ("`" : Text) ++ ") has type " ++ "`" = "`) has type `" := by decide +kernel
  have hexpects : ("`" : Text) ++ ", coroutine expects " ++ "`" = "`, coroutine expects `" := by
    decide +kernel
  rewrite [← hname, ← htype, ← hexpects]
  unfold message quoted
  simp only [List.append_assoc]

theorem Fault.message_drift (f c : Text) (m : Mismatch) : (Fault.drift f c m).message
    = "`" ++ f ++ "` does not match `" ++ c ++ "`: " ++ m.message := by
  have hmatch : ("`" : Text) ++ " does not match " ++ "`" = "` does not match `" := by
    decide +kernel
  have hreason : ("`" : Text) ++ (": " : Text) = "`: " := by decide +kernel
  rewrite [← hmatch, ← hreason]
  unfold message quoted
  simp only [List.append_assoc]

/-! ## the comparison -/

/-- **Bridges and coroutines are compared by the words and stars of their types.**  Let a bridge and
a coroutine be declared with two argument texts.  The comparison succeeds if and only if the texts
have as many fragments, and in every place fragments of the same tokens but for the last one, which
is the name.  Otherwise it reports the numbers of fragments, if these differ, and else the first
place where the tokens differ, with the name of the bridge's parameter and both lists of tokens; the
text of the fault names the bridge and the coroutine, and then says so. -/
theorem checkAgainst_tokens {result name wargs result' name' cargs : Text} {d c : Decl} {p : Plan}
    (hd : Decl.read result name wargs = .ok d) (hp : d.plan = .ok p)
    (hc : Decl.read result' name' cargs = .ok c) :
    (p.checkAgainst c = .ok ()
      ↔ (wargs.splitOn ',').map typeTokens = (cargs.splitOn ',').map typeTokens) ∧
    ∀ fault, p.checkAgainst c = .error fault
      ↔ ∃ m, fault = .drift d.name c.name m ∧
        fault.message = "`" ++ d.name ++ "` does not match `" ++ c.name ++ "`: " ++ m.message ∧
        (((wargs.splitOn ',').length ≠ (cargs.splitOn ',').length ∧
          m = .arity (wargs.splitOn ',').length (cargs.splitOn ',').length ∧
          m.message = "wrapper takes " ++ Text.ofNat (wargs.splitOn ',').length
            ++ " parameters, coroutine takes " ++ Text.ofNat (cargs.splitOn ',').length) ∨
        (wargs.splitOn ',').length = (cargs.splitOn ',').length ∧
        ∃ i f g q, (wargs.splitOn ',')[i]? = some f ∧ (cargs.splitOn ',')[i]? = some g ∧
          d.params[i]? = some q ∧ (tokens f).getLast? = some q.name ∧
          typeTokens f ≠ typeTokens g ∧
          ((wargs.splitOn ',').take i).map typeTokens
            = ((cargs.splitOn ',').take i).map typeTokens ∧
          m = .type (i + 1) q.name (spaced (typeTokens f)) (spaced (typeTokens g)) ∧
          m.message = "parameter " ++ Text.ofNat (i + 1) ++ " (`" ++ q.name ++ "`) has type `"
            ++ spaced (typeTokens f) ++ "`, coroutine expects `" ++ spaced (typeTokens g) ++ "`") := by
  have hwrapper := (Decl.plan_eq_ok_iff.1 hp).wrapper_eq
  rw [Plan.checkAgainst_eq_ok_iff, hwrapper, Decl.types_of_read hd, Decl.types_of_read hc]
  refine ⟨Iff.rfl, fun fault => ?_⟩
  rw [Plan.checkAgainst_eq_error_iff, hwrapper, Decl.length_of_read hd, Decl.length_of_read hc]
  simp only [List.map_take, Decl.types_of_read hd, Decl.types_of_read hc, ← types_take]
  constructor
  · rintro ⟨m, hm, rfl⟩
    refine ⟨m, rfl, Fault.message_drift _ _ _, ?_⟩
    rcases Decl.mismatch?_eq_some_iff.1 hm with ⟨hne, rfl⟩ | ⟨hlen, hm⟩
    · exact .inl ⟨hne, rfl, rfl⟩
    obtain ⟨i, q, q', hq, hq', hty, htake, rfl⟩ := typeMismatch?_eq_some_iff.1 hm
    obtain ⟨f, hf, hfq⟩ := (Decl.getElem?_of_read hd).1 hq
    obtain ⟨g, hg, hgq⟩ := (Decl.getElem?_of_read hc).1 hq'
    obtain ⟨hft, hfn⟩ := Param.tokens_of_parse? hfq
    obtain ⟨hgt, _⟩ := Param.tokens_of_parse? hgq
    rw [← hft, ← hgt] at hty ⊢
    exact .inr ⟨hlen, i, f, g, q, hf, hg, hq, hfn, hty, htake, rfl, Mismatch.message_type ..⟩
  · rintro ⟨m, rfl, -, ⟨hne, rfl, -⟩ | ⟨hlen, i, f, g, q, hf, hg, hq, -, hty, htake, rfl, -⟩⟩
    · exact ⟨_, Decl.mismatch?_eq_some_iff.2 (.inl ⟨hne, rfl⟩), rfl⟩
    have hlt : i < c.params.length := by
      rw [← Decl.length_of_read hc]
      exact (List.getElem?_eq_some_iff.1 hg).1
    have hq' := List.getElem?_eq_getElem hlt
    obtain ⟨f', hf', hfq⟩ := (Decl.getElem?_of_read hd).1 hq
    obtain ⟨g', hg', hgq⟩ := (Decl.getElem?_of_read hc).1 hq'
    obtain rfl : f = f' := Option.some.inj (hf.symm.trans hf')
    obtain rfl : g = g' := Option.some.inj (hg.symm.trans hg')
    rw [(Param.tokens_of_parse? hfq).1, (Param.tokens_of_parse? hgq).1] at hty ⊢
    exact ⟨_, Decl.mismatch?_eq_some_iff.2 (.inr ⟨hlen, typeMismatch?_eq_some_iff.2
      ⟨i, q, _, hq, hq', hty, htake, rfl⟩⟩), rfl⟩

/-- the arguments of a bridge -/
def bridgeArgs : Text := "BlockDriverState *bs, char* *name,\n    int64_t offset"

/-- the arguments of its coroutine, with other spacing and names, and one other type -/
def coroutineArgs : Text := "BlockDriverState*b, char\t**n, uint64_t o"

/-- the plan for the bridge -/
def readPlan : Plan :=
  ⟨⟨"int", "bdrv_read", [⟨"BlockDriverState *bs", "BlockDriverState *", "bs"⟩,
    ⟨"char* *name", "char* *", "name"⟩, ⟨"int64_t offset", "int64_t ", "offset"⟩]⟩,
    "bdrv_co_read", .direct, "bs"⟩

/-- the declaration of the coroutine -/
def readCounterpart : Decl :=
  ⟨"int", "bdrv_co_read", [⟨"BlockDriverState*b", "BlockDriverState*", "b"⟩,
    ⟨"char **n", "char **", "n"⟩, ⟨"uint64_t o", "uint64_t ", "o"⟩]⟩

/-- the fault that the comparison reports -/
def readFault : Fault := .drift "bdrv_read" "bdrv_co_read" (.type 3 "offset" "int64_t" "uint64_t")

theorem checkAgainst_tokens_coroutineArgs :
    Decl.read "int" "bdrv_read" bridgeArgs = .ok readPlan.wrapper ∧
    readPlan.wrapper.plan = .ok readPlan ∧
    Decl.read "int" "bdrv_co_read" coroutineArgs = .ok readCounterpart ∧
    readPlan.checkAgainst readCounterpart = .error readFault ∧
    readFault.message = "`bdrv_read` does not match `bdrv_co_read`: parameter 3 (`offset`) has type "
      ++ "`int64_t`, coroutine expects `uint64_t`" := by
  have hd : Decl.read "int" "bdrv_read" bridgeArgs = .ok readPlan.wrapper := by decide +kernel
  have hp : readPlan.wrapper.plan = .ok readPlan := by decide +kernel
  have hc : Decl.read "int" "bdrv_co_read" coroutineArgs = .ok readCounterpart := by decide +kernel
  have hargs : bridgeArgs.splitOn ','
      = [("BlockDriverState *bs" : Text), " char* *name", "\n    int64_t offset"] := by
    decide +kernel
  have hargs' : coroutineArgs.splitOn ','
      = [("BlockDriverState*b" : Text), " char\t**n", " uint64_t o"] := by decide +kernel
  have hname : (tokens "\n    int64_t offset").getLast? = some ("offset" : Text) := by
    decide +kernel
  have hty : typeTokens "\n    int64_t offset" = [("int64_t" : Text)] := by decide +kernel
  have hty' : typeTokens " uint64_t o" = [("uint64_t" : Text)] := by decide +kernel
  have hreason : readFault.message
      = "`bdrv_read` does not match `bdrv_co_read`: parameter 3 (`offset`) has type "
        ++ "`int64_t`, coroutine expects `uint64_t`" := by decide +kernel
  have hcheck := (checkAgainst_tokens hd hp hc).2 readFault
  rw [hargs, hargs'] at hcheck
  refine ⟨hd, hp, hc, hcheck.2 ⟨_, rfl, Fault.message_drift _ _ _,
    .inr ⟨?_, 2, _, _, _, rfl, rfl, rfl, hname, ?_, ?_, ?_, ?_⟩⟩, hreason⟩
  · simp only [List.length_cons]
  · rw [hty, hty']
    decide
  · decide +kernel
  · rw [hty, hty']
    rfl
  · rw [hty, hty']
    exact Mismatch.message_type _ _ _ _

end CoroBridge
