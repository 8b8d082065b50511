import CoroBridge.Proofs.Tokens

/-!
# Fragments: which texts declare a parameter

A fragment is put in order, and is then cut behind its last space or star.  Here both steps are said
without a procedure: what a text in order looks like, and which cuts of it there can be.

* `Text.SingleSpaced`        the only blanks of a text are single spaces between other characters;
* `Text.tidy_eq_self_iff`    these are the texts in order;
* `Text.tidy_eq_spaced`      what is put in order are the words of a text, with one space between;
* `Text.opensName`           whether a name may begin behind a text;
* `Param.Cut`                a cut of a text into a type and a name;
* `Param.Cut.longest`, `Param.Cut.unique`   the type is the longest beginning of the text behind
                             which a name may begin, so that there is one such cut at most;
* `Param.declares_iff_cut`   a fragment declares what it is cut into when it is in order.
-/

namespace CoroBridge
namespace Text

/-! ## texts in order -/

/-- the only blanks of a text are single spaces between other characters -/
def SingleSpaced (t : Text) : Prop :=
  ∀ a c b, t = a ++ c :: b → isBlank c = true →
    c = ' ' ∧ (∃ d ∈ a.getLast?, isBlank d = false) ∧ ∃ d ∈ b.head?, isBlank d = false

theorem startsBlank_eq_false_iff {t : Text} (h : t ≠ []) :
    startsBlank t = false ↔ ∃ d ∈ t.head?, isBlank d = false := by
  cases t with
  | nil => exact absurd rfl h
  | cons c r => simp

/-- a text does not grow when it is squeezed -/
theorem length_squeeze_le (t : Text) : (squeeze t).length ≤ t.length := by
  induction t with
  | nil => exact Nat.le_refl 0
  | cons c r ih =>
    rw [squeeze_cons, List.length_cons]
    split
    · split
      · omega
      · rw [List.length_cons]
        omega
    · rw [List.length_cons]
      omega

theorem squeeze_ne_cons (c : Char) (t : Text) : squeeze t ≠ c :: t := by
  intro h
  have hlen := length_squeeze_le t
  rw [h, List.length_cons] at hlen
  omega

/-- a text that loses nothing when it is squeezed has no two blanks side by side -/
theorem startsBlank_of_squeeze_eq_self {a b : Text} {c : Char}
    (h : squeeze (a ++ c :: b) = a ++ c :: b) (hc : isBlank c = true) : startsBlank b = false := by
  induction a with
  | nil =>
    rw [Bool.eq_false_iff]
    intro hb
    rw [List.nil_append, squeeze_cons, if_pos hc, if_pos hb] at h
    exact squeeze_ne_cons c b h
  | cons d a ih =>
    refine ih ?_
    rw [List.cons_append, squeeze_cons] at h
    split at h
    · split at h
      · exact absurd h (squeeze_ne_cons d _)
      · exact (List.cons.inj h).2
    · exact (List.cons.inj h).2

theorem squeeze_eq_self {t : Text}
    (h : ∀ a c b, t = a ++ c :: b → isBlank c = true → c = ' ' ∧ startsBlank b = false) :
    squeeze t = t := by
  induction t with
  | nil => rfl
  | cons c r ih =>
    have hr : squeeze r = r := ih fun a d b hcut hd => h (c :: a) d b (by rw [hcut]; rfl) hd
    by_cases hc : isBlank c = true
    · obtain ⟨rfl, hstart⟩ := h [] c r rfl hc
      rw [squeeze_cons, if_pos hc, hstart, if_neg Bool.false_ne_true, hr]
    · rw [squeeze_cons_of_not_blank (Bool.eq_false_iff.2 hc), hr]

/-- the texts in order are those with single spaces between other characters only -/
theorem tidy_eq_self_iff {t : Text} : t.tidy = t ↔ t.SingleSpaced := by
  constructor
  · intro h a c b hcut hc
    have hspace : c = ' ' := by
      refine eq_space_of_mem_squeeze (t := t.trim) ?_ hc
      show c ∈ t.tidy
      rw [h, hcut]
      simp
    have hstart : startsBlank t = false := by
      rw [← h, tidy, startsBlank_squeeze, startsBlank_trim]
    have hends : endsBlank t = false := by
      rw [← h, tidy, endsBlank_squeeze, endsBlank_trim]
    have hsqueeze : squeeze t = t := by
      have htrim := congrArg squeeze (trim_eq_self hstart hends)
      exact htrim.symm.trans h
    subst hcut
    refine ⟨hspace, ?_, ?_⟩
    · rcases List.eq_nil_or_concat' a with rfl | ⟨a, d, rfl⟩
      · rw [List.nil_append, startsBlank_cons, hc] at hstart
        cases hstart
      · refine ⟨d, List.getLast?_concat, Bool.eq_false_iff.2 fun hd => ?_⟩
        rw [List.append_assoc, List.singleton_append] at hsqueeze
        have hnext := startsBlank_of_squeeze_eq_self hsqueeze hd
        rw [startsBlank_cons, hc] at hnext
        cases hnext
    · refine (startsBlank_eq_false_iff ?_).1 (startsBlank_of_squeeze_eq_self hsqueeze hc)
      rintro rfl
      rw [endsBlank_append a (List.cons_ne_nil c []), endsBlank_singleton, hc] at hends
      cases hends
  · intro h
    have hstart : startsBlank t = false := by
      cases t with
      | nil => rfl
      | cons c r =>
        rw [startsBlank_cons, Bool.eq_false_iff]
        intro hc
        obtain ⟨_, ⟨d, hd, _⟩, _⟩ := h [] c r rfl hc
        cases hd
    have hends : endsBlank t = false := by
      rcases List.eq_nil_or_concat' t with rfl | ⟨a, c, rfl⟩
      · rfl
      · rw [endsBlank_append a (List.cons_ne_nil c []), endsBlank_singleton, Bool.eq_false_iff]
        intro hc
        obtain ⟨_, _, d, hd, _⟩ := h a c [] rfl hc
        cases hd
    rw [tidy, trim_eq_self hstart hends]
    refine squeeze_eq_self fun a c b hcut hc => ?_
    obtain ⟨hspace, _, d, hd, hdb⟩ := h a c b hcut hc
    refine ⟨hspace, ?_⟩
    rw [startsBlank, hd, Option.any_some, hdb]

theorem singleSpaced_tidy (t : Text) : t.tidy.SingleSpaced := tidy_eq_self_iff.1 (tidy_tidy t)

/-! ## the words of a text in order -/

theorem spaced_cons (w : Text) {ws : List Text} (h : ws ≠ []) :
    spaced (w :: ws) = w ++ ' ' :: spaced ws := by
  obtain ⟨v, vs, rfl⟩ := List.exists_cons_of_ne_nil h
  rw [spaced, List.intercalate_cons_cons, List.append_assoc]
  rfl

theorem spaced_onto (c : Char) (ws : List Text) : spaced (onto c ws) = c :: spaced ws := by
  cases ws with
  | nil => rfl
  | cons w ws =>
    by_cases h : ws = []
    · subst h
      rfl
    · rw [onto_cons, spaced_cons _ h, spaced_cons _ h]
      rfl

/-- a text that ends with no blank is squeezed to its words with one space between, and to one more
space in front where it begins with a blank -/
theorem squeeze_eq_spaced {t : Text} (h : endsBlank t = false) :
    squeeze t = (if startsBlank t then [' '] else []) ++ spaced (splitBlanks t) := by
  induction t with
  | nil => rfl
  | cons c r ih =>
    by_cases hr : r = []
    · subst hr
      have hc : isBlank c = false := h
      rw [squeeze_cons_of_not_blank hc, startsBlank_cons, hc, splitBlanks_cons hc]
      rfl
    rw [endsBlank_cons c hr] at h
    have ih := ih h
    have hhead : (r.head?.any fun d => !isBlank d) = !startsBlank r := by
      obtain ⟨d, s, rfl⟩ := List.exists_cons_of_ne_nil hr
      rfl
    by_cases hc : isBlank c = true
    · rw [squeeze_cons, if_pos hc, startsBlank_cons, if_pos hc, splitBlanks_blank hc, ih]
      split <;> rfl
    rw [Bool.not_eq_true] at hc
    rw [squeeze_cons_of_not_blank hc, startsBlank_cons, hc, splitBlanks_cons hc, hhead, ih]
    by_cases hstart : startsBlank r = true
    · have hne : splitBlanks r ≠ [] := by
        intro hnil
        rw [hnil, if_pos hstart] at ih
        have hends := endsBlank_squeeze r
        rw [ih, h] at hends
        cases hends
      rw [if_pos hstart, hstart]
      exact (spaced_cons [c] hne).symm
    · rw [Bool.not_eq_true] at hstart
      rw [hstart]
      exact (spaced_onto c _).symm

theorem splitBlanks_of_blank {t : Text} (h : ∀ c ∈ t, isBlank c = true) : splitBlanks t = [] := by
  induction t with
  | nil => rfl
  | cons c t ih =>
    rw [List.forall_mem_cons] at h
    rw [splitBlanks_blank h.1, ih h.2]

theorem splitBlanks_blank_append {a : Text} (ha : ∀ c ∈ a, isBlank c = true) (t : Text) :
    splitBlanks (a ++ t) = splitBlanks t := by
  induction a with
  | nil => rfl
  | cons c a ih =>
    rw [List.forall_mem_cons] at ha
    rw [List.cons_append, splitBlanks_blank ha.1, ih ha.2]

theorem splitBlanks_append_blank (t : Text) {b : Text} (hb : ∀ c ∈ b, isBlank c = true) :
    splitBlanks (t ++ b) = splitBlanks t := by
  cases b with
  | nil => rw [List.append_nil]
  | cons c b =>
    rw [List.forall_mem_cons] at hb
    rw [splitBlanks_append_cons hb.1, splitBlanks_of_blank hb.2, List.append_nil]

/-- what is put in order are the words of a text, with one space between -/
theorem tidy_eq_spaced (t : Text) : t.tidy = spaced (splitBlanks t) := by
  obtain ⟨a, b, hcut, ha, hb⟩ := exists_trim t
  have hwords : splitBlanks t = splitBlanks t.trim := by
    conv_lhs => rw [hcut]
    rw [splitBlanks_blank_append ha, splitBlanks_append_blank _ hb]
  rw [tidy, squeeze_eq_spaced (endsBlank_trim t), startsBlank_trim, hwords]
  rfl

/-! ## cuts -/

/-- whether a text ends with a space or a star, so that a name may begin behind it -/
def opensName (t : Text) : Bool := t.getLast?.any endsType

theorem opensName_eq_true_iff {t : Text} :
    opensName t = true ↔ ∃ a c, t = a ++ [c] ∧ endsType c = true := by
  rcases List.eq_nil_or_concat' t with rfl | ⟨a, c, rfl⟩
  · simp [opensName]
  · rw [opensName, List.getLast?_concat, Option.any_some]
    constructor
    · exact fun hc => ⟨a, c, rfl, hc⟩
    · rintro ⟨b, d, h, hd⟩
      rwa [(List.append_singleton_inj.1 h).2]

theorem opensName_append {a b : Text} (h : b ≠ []) : opensName (a ++ b) = opensName b := by
  rw [opensName, opensName, List.getLast?_append, List.getLast?_eq_some_getLast h, Option.some_or]

end Text

namespace Param
open Text

/-- a text is cut into a type, behind which a name may begin, and a name -/
structure Cut (t ty name : Text) : Prop where
  eq : t = ty ++ name
  opens : ty.opensName = true
  name_isName : isName name = true

namespace Cut
variable {t ty name ty' name' : Text}

/-- a name may begin behind no part of a name -/
theorem opensName_eq_false (h : Cut t ty name) {a b : Text} (hcut : name = a ++ b) :
    opensName a = false := by
  rw [opensName, Option.any_eq_false]
  intro c hc
  have hmem : c ∈ name := by
    rw [hcut]
    exact List.mem_append_left b (List.mem_of_getLast? hc)
  exact endsType_eq_false_of_isNameChar (isNameChar_of_isName h.name_isName c hmem)

/-- the type is the longest beginning of the text behind which a name may begin -/
theorem longest (h : Cut t ty name) {a : Text} (ha : a <+: t) (hopens : a.opensName = true) :
    a <+: ty := by
  obtain ⟨b, hb⟩ := ha
  rcases List.append_eq_append_iff.1 (hb.trans h.eq) with ⟨u, hu, _⟩ | ⟨u, hu, hname⟩
  · exact ⟨u, hu.symm⟩
  · by_cases hnil : u = []
    · obtain rfl : a = ty := by rw [hu, hnil, List.append_nil]
      exact List.prefix_refl a
    · have hpart := h.opensName_eq_false hname
      rw [hu, opensName_append hnil, hpart] at hopens
      cases hopens

/-- there is one cut at most -/
theorem unique (h : Cut t ty name) (h' : Cut t ty' name') : ty = ty' ∧ name = name' := by
  have hle : ty <+: ty' := h'.longest ⟨name, h.eq.symm⟩ h.opens
  have hge : ty' <+: ty := h.longest ⟨name', h'.eq.symm⟩ h'.opens
  obtain rfl : ty = ty' := hle.eq_of_length (Nat.le_antisymm hle.length_le hge.length_le)
  exact ⟨rfl, List.append_cancel_left (h.eq.symm.trans h'.eq)⟩

end Cut

theorem parse?_iff_cut {f : Text} {q : Param} :
    parse? f = some q ↔ q.decl = f.tidy ∧ Cut f.tidy q.ty q.name := by
  rw [parse?_eq_some_iff]
  constructor
  · rintro ⟨hq, htidy⟩
    rw [htidy]
    exact ⟨rfl, hq.decl_eq, opensName_eq_true_iff.2 hq.ty_ends, hq.name_isName⟩
  · rintro ⟨hdecl, hcut⟩
    refine ⟨⟨hdecl.trans hcut.eq, opensName_eq_true_iff.1 hcut.opens, hcut.name_isName, ?_⟩,
      hdecl.symm⟩
    rw [hdecl, tidy_tidy]

theorem parse?_of_tidy_eq {f g : Text} (h : f.tidy = g.tidy) : parse? f = parse? g := by
  rw [parse?_eq, parse?_eq, h]

/-- **A fragment declares a parameter if and only if its words, with one space between, can be cut
into a type and a name.**  There is one such cut at most: the type is the longest beginning behind
which a name may begin.  The text of the parameter is the cut text; it has no blanks but single
spaces between other characters, and declares the parameter again.  Fragments of the same words
declare the same. -/
theorem declares_iff_cut (f : Text) :
    f.tidy = spaced (splitBlanks f) ∧
    (∀ q, parse? f = some q ↔ q.decl = f.tidy ∧ Cut f.tidy q.ty q.name) ∧
    ((∃ q, parse? f = some q) ↔ ∃ ty name, Cut f.tidy ty name) ∧
    (∀ ty name ty' name', Cut f.tidy ty name → Cut f.tidy ty' name' → ty = ty' ∧ name = name') ∧
    (∀ q, parse? f = some q →
      q.decl = q.ty ++ q.name ∧ (∀ a, a <+: f.tidy → opensName a = true → a <+: q.ty) ∧
      q.decl.SingleSpaced ∧ parse? q.decl = some q) ∧
    ∀ g, g.tidy = f.tidy → parse? g = parse? f := by
  refine ⟨tidy_eq_spaced f, fun q => parse?_iff_cut, ?_, fun _ _ _ _ h h' => h.unique h', ?_,
    fun g h => parse?_of_tidy_eq h⟩
  · constructor
    · rintro ⟨q, hq⟩
      exact ⟨q.ty, q.name, (parse?_iff_cut.1 hq).2⟩
    · rintro ⟨ty, name, hcut⟩
      exact ⟨⟨f.tidy, ty, name⟩, parse?_iff_cut.2 ⟨rfl, hcut⟩⟩
  · intro q hq
    obtain ⟨hdecl, hcut⟩ := parse?_iff_cut.1 hq
    have hagain : q.decl.tidy = f.tidy := by rw [hdecl, tidy_tidy]
    refine ⟨hdecl.trans hcut.eq, fun a ha hopens => hcut.longest ha hopens, ?_, ?_⟩
    · rw [hdecl]
      exact singleSpaced_tidy f
    · rw [parse?_of_tidy_eq hagain, hq]

/-- a parameter on two lines -/
def scatteredName : Text := " const\tchar  *\r\n name"

theorem declares_iff_cut_scatteredName :
    parse? scatteredName = some ⟨"const char * name", "const char * ", "name"⟩ ∧
    parse? "const char * name" = parse? scatteredName ∧
    SingleSpaced "const char * name" ∧
    ∀ a, a <+: scatteredName.tidy → opensName a = true → a <+: "const char * ".toList := by
  obtain ⟨_, _, _, _, hread, hsame⟩ := declares_iff_cut scatteredName
  have h : parse? scatteredName = some ⟨"const char * name", "const char * ", "name"⟩ := by
    decide +kernel
  obtain ⟨_, hlongest, hspaced, _⟩ := hread _ h
  have htidy : tidy "const char * name" = scatteredName.tidy := by decide +kernel
  exact ⟨h, hsame _ htidy, hspaced, hlongest⟩

end Param
end CoroBridge
