import Mathlib.Data.List.Forall2
import CoroBridge.Decl
import CoroBridge.Site.Lemmas
import CoroBridge.Proofs.Spacing

/-!
# Parameters: what can be read from an argument text

* `Param.Written`           a parameter as it is written in a tidy text: a type that ends with a
                            space or a star, then a name;
* `Param.parse?_eq_some_iff`   a fragment declares a parameter if and only if it is, tidied, the text
                            of a written one;
* `Decl.read_eq_ok_iff`     a declaration is read if and only if every fragment between commas
                            declares a parameter;
* `Decl.read_intercalate`   parameters are read back from their texts, with blanks around them, and
                            commas between;
* `Decl.written_of_read`    the parameters are written ones, made of characters of the argument text.
-/

namespace CoroBridge

/-! ## one parameter -/

theorem endsType_eq_false_of_isNameChar {c : Char} (h : isNameChar c = true) :
    endsType c = false := by
  have hb := isBlank_eq_false_of_isNameChar h
  rw [endsType, Bool.or_eq_false_iff, beq_eq_false_iff_ne, beq_eq_false_iff_ne]
  constructor
  · rintro rfl
    exact absurd hb (by decide)
  · rintro rfl
    exact absurd h (by decide)

theorem splitName_append_name {a n : Text} {c : Char} (hc : endsType c = true)
    (hn : ∀ d ∈ n, isNameChar d = true) : splitName (a ++ [c] ++ n) = (a ++ [c], n) := by
  have hrev : (a ++ [c] ++ n).reverse = n.reverse ++ c :: a.reverse := by simp
  have hnr : ∀ d ∈ n.reverse, (!endsType d) = true := by
    intro d hd
    rw [endsType_eq_false_of_isNameChar (hn d (List.mem_reverse.1 hd))]
    rfl
  have hstop : StopsAt (!endsType ·) (c :: a.reverse) := stopsAt_cons (by simp [hc]) _
  rw [splitName, hrev, takeWhile_append_of_stopsAt hnr hstop,
    dropWhile_append_of_stopsAt hnr hstop]
  simp

/-- the type part of a split text ends with a space or a star -/
theorem splitName_fst_ends (t : Text) (h : (splitName t).1 ≠ []) :
    ∃ a c, (splitName t).1 = a ++ [c] ∧ endsType c = true := by
  unfold splitName at h ⊢
  cases hd : t.reverse.dropWhile (!endsType ·) with
  | nil => exact absurd (by simp [hd]) h
  | cons c r =>
    refine ⟨r.reverse, c, by simp, ?_⟩
    have hc := List.head?_dropWhile_not (!endsType ·) t.reverse
    rw [hd] at hc
    simpa using hc

namespace Param

/-- a parameter as it is written in a tidy text -/
structure Written (q : Param) : Prop where
  decl_eq : q.decl = q.ty ++ q.name
  ty_ends : ∃ a c, q.ty = a ++ [c] ∧ endsType c = true
  name_isName : isName q.name = true
  tidy_decl : q.decl.tidy = q.decl

theorem parse?_eq (f : Text) :
    parse? f
      = if (splitName f.tidy).1 ≠ [] ∧ isName (splitName f.tidy).2 then
          some ⟨f.tidy, (splitName f.tidy).1, (splitName f.tidy).2⟩
        else none := rfl

/-- a fragment declares the parameter that it is the text of, but for its blanks -/
theorem parse?_eq_some_iff {f : Text} {q : Param} :
    parse? f = some q ↔ q.Written ∧ f.tidy = q.decl := by
  rw [parse?_eq]
  constructor
  · intro h
    split at h
    · next hok =>
      cases h
      exact ⟨⟨(splitName_append _).symm, splitName_fst_ends _ hok.1, hok.2, Text.tidy_tidy f⟩, rfl⟩
    · cases h
  · rintro ⟨⟨hdecl, ⟨a, c, hty, hc⟩, hname, _⟩, htidy⟩
    obtain ⟨decl, ty, name⟩ := q
    obtain rfl : ty = a ++ [c] := hty
    obtain rfl : decl = a ++ [c] ++ name := hdecl
    rw [htidy, splitName_append_name hc (isNameChar_of_isName hname)]
    exact if_pos ⟨by simp, hname⟩

theorem Written.mem_name {q : Param} (h : q.Written) {c : Char} (hc : c ∈ q.name) :
    isNameChar c = true :=
  isNameChar_of_isName h.name_isName c hc

/-- the only blank in the text of a parameter is the space -/
theorem Written.eq_space {q : Param} (h : q.Written) {c : Char} (hc : c ∈ q.decl)
    (hb : isBlank c = true) : c = ' ' := by
  rw [← h.tidy_decl] at hc
  rcases Text.mem_tidy hc with rfl | ⟨_, hnb⟩
  · rfl
  · rw [hb] at hnb; cases hnb

theorem parseAll_eq_ok_iff {fs : List Text} {qs : List Param} :
    parseAll fs = .ok qs ↔ List.Forall₂ (fun f q => parse? f = some q) fs qs := by
  induction fs generalizing qs with
  | nil =>
    constructor
    · intro h; cases h; exact .nil
    · intro h; cases h; rfl
  | cons f fs ih =>
    unfold parseAll
    cases hf : parse? f with
    | none =>
      constructor
      · intro h; cases h
      · intro h
        cases h with
        | cons hq _ => rw [hf] at hq; cases hq
    | some p =>
      constructor
      · intro h
        cases hps : parseAll fs with
        | error _ => rw [hps] at h; cases h
        | ok ps =>
          rw [hps] at h
          cases h
          exact .cons hf (ih.1 hps)
      · intro h
        cases h with
        | cons hq hqs =>
          rw [hf] at hq
          cases hq
          rw [ih.2 hqs]
          rfl

end Param

/-! ## argument texts -/

/-- the parts of a text are made of its characters, but for those it is cut at -/
theorem mem_splitOn {a : Char} {t f : Text} (h : f ∈ t.splitOn a) :
    a ∉ f ∧ ∀ c ∈ f, c ∈ t := by
  induction t generalizing f with
  | nil =>
    rw [List.splitOn_nil, List.mem_singleton] at h
    subst h
    exact ⟨List.not_mem_nil, fun c hc => hc⟩
  | cons x t ih =>
    rw [List.splitOn_cons_eq_if_modifyHead] at h
    obtain ⟨g, gs, hg⟩ := List.exists_cons_of_ne_nil (List.splitOn_ne_nil a t)
    split at h
    · rcases List.mem_cons.1 h with rfl | h
      · exact ⟨List.not_mem_nil, fun c hc => absurd hc List.not_mem_nil⟩
      · exact ⟨(ih h).1, fun c hc => List.mem_cons_of_mem x ((ih h).2 c hc)⟩
    · next hx =>
      rw [hg, List.modifyHead_cons] at h
      rcases List.mem_cons.1 h with rfl | h
      · have hg' := ih (hg ▸ List.mem_cons_self)
        refine ⟨fun ha => ?_, fun c hc => ?_⟩
        · rcases List.mem_cons.1 ha with rfl | ha
          · exact hx (BEq.refl a)
          · exact hg'.1 ha
        · rcases List.mem_cons.1 hc with rfl | hc
          · exact List.mem_cons_self
          · exact List.mem_cons_of_mem x (hg'.2 c hc)
      · have hf := ih (hg ▸ List.mem_cons_of_mem g h)
        exact ⟨hf.1, fun c hc => List.mem_cons_of_mem x (hf.2 c hc)⟩

theorem exists_of_forall₂_right {α β : Type} {R : α → β → Prop} {as : List α} {bs : List β}
    (h : List.Forall₂ R as bs) : ∀ b ∈ bs, ∃ a ∈ as, R a b := by
  induction h with
  | nil => intro b hb; cases hb
  | cons hab _ ih =>
    intro b hb
    rcases List.mem_cons.1 hb with rfl | hb
    · exact ⟨_, List.mem_cons_self, hab⟩
    · obtain ⟨a, ha, hR⟩ := ih b hb
      exact ⟨a, List.mem_cons_of_mem _ ha, hR⟩

namespace Decl

theorem read_eq_ok_iff {result name args : Text} {d : Decl} :
    read result name args = .ok d
      ↔ d.result = result.trim ∧ d.name = name.trim ∧
        List.Forall₂ (fun f q => Param.parse? f = some q) (args.splitOn ',') d.params := by
  unfold read
  rw [← Param.parseAll_eq_ok_iff]
  constructor
  · intro h
    split at h
    · next hps => cases h; exact ⟨rfl, rfl, hps⟩
    · cases h
  · rintro ⟨hr, hn, hps⟩
    rw [hps, ← hr, ← hn]

/-- parameters are read back from texts without commas that are theirs but for blanks -/
theorem read_intercalate (result name : Text) {gs : List Text} {qs : List Param} (hne : gs ≠ [])
    (hcomma : ∀ g ∈ gs, ',' ∉ g)
    (h : List.Forall₂ (fun g q => q.Written ∧ g.tidy = q.decl) gs qs) :
    read result name (List.intercalate [','] gs) = .ok ⟨result.trim, name.trim, qs⟩ := by
  refine read_eq_ok_iff.2 ⟨rfl, rfl, ?_⟩
  rw [List.splitOn_intercalate ',' hcomma hne]
  exact h.imp fun g q hgq => Param.parse?_eq_some_iff.2 hgq

/-- what can be said of the parameters that were read from an argument text: they are written, and
made of characters of the text, without commas -/
theorem written_of_read {result name args : Text} {d : Decl} (h : read result name args = .ok d) :
    ∀ q ∈ d.params, q.Written ∧ ',' ∉ q.decl ∧ ∀ c ∈ q.decl, c = ' ' ∨ c ∈ args := by
  obtain ⟨_, _, hall⟩ := read_eq_ok_iff.1 h
  intro q hq
  obtain ⟨f, hf, hfq⟩ := exists_of_forall₂_right hall q hq
  obtain ⟨hw, htidy⟩ := Param.parse?_eq_some_iff.1 hfq
  have hfrag := mem_splitOn hf
  have hmem : ∀ c ∈ q.decl, c = ' ' ∨ c ∈ f := by
    intro c hc
    rw [← htidy] at hc
    exact (Text.mem_tidy hc).imp id And.left
  refine ⟨hw, fun hc => ?_, fun c hc => (hmem c hc).imp id (hfrag.2 c)⟩
  rcases hmem _ hc with h | h
  · exact absurd h (by decide)
  · exact hfrag.1 h

end Decl
end CoroBridge
