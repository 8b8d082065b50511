import CoroBridge.Proofs.ArgumentList
import CoroBridge.Proofs.Fragment

/-!
# Parameters without a name

A parameter may be declared by its type alone, as in `void`, `const char *` or `unsigned int`.  Such
a fragment is refused if it ends with a star or is one word.  But two words are a type and a name to
the reader of fragments, whatever they mean.

* `typeWords`                the words that types are made of;
* `Unnamed`                  a type without a name: words, then stars, with any blanks around them;
* `Unnamed.tokens_text`      the tokens of its text are these words and stars;
* `Param.two_le_length_tokens`   a fragment that declares a parameter has two tokens at least;
* `Param.parse?_of_splitBlanks`  behind other words, a last word that is a name is read as one;
* `Unnamed.refused_iff_star_or_word`   which types without a name are refused, and what the others
                             declare.
-/

namespace CoroBridge
open Text

/-! ## tokens -/

theorem tokens_cons_ne_nil {c : Char} (hc : isBlank c = false) (r : Text) :
    tokens (c :: r) ≠ [] := by
  rw [tokens, hc, if_neg Bool.false_ne_true]
  split
  · exact onto_ne_nil c _
  · exact List.cons_ne_nil _ _

theorem tokens_blank_append {a : Text} (ha : ∀ c ∈ a, isBlank c = true) (t : Text) :
    tokens (a ++ t) = tokens t := by
  induction a with
  | nil => rfl
  | cons c a ih =>
    rw [List.forall_mem_cons] at ha
    rw [List.cons_append, tokens_blank ha.1, ih ha.2]

theorem loosen_of_not_mem {t : Text} (h : '*' ∉ t) : loosen t = t := by
  induction t with
  | nil => rfl
  | cons c t ih =>
    rw [List.mem_cons, not_or] at h
    rw [loosen_cons (Ne.symm h.1), ih h.2]

/-- without stars the tokens of a text are its words -/
theorem splitBlanks_eq_tokens {t : Text} (h : '*' ∉ t) : splitBlanks t = tokens t := by
  rw [← splitBlanks_loosen, loosen_of_not_mem h]

namespace Param

theorem Written.tokens_ty_ne_nil {q : Param} (h : q.Written) : tokens q.ty ≠ [] := by
  obtain ⟨a, c, hty, _⟩ := h.ty_ends
  obtain ⟨d, r, hcons⟩ := List.exists_cons_of_ne_nil (l := q.ty) (by rw [hty]; simp)
  have hstart : startsBlank q.decl = false := by
    rw [← h.tidy_decl, tidy, startsBlank_squeeze, startsBlank_trim]
  rw [h.decl_eq, hcons, List.cons_append, startsBlank_cons] at hstart
  rw [hcons]
  exact tokens_cons_ne_nil hstart r

/-- a fragment that declares a parameter has two tokens at least -/
theorem two_le_length_tokens {f : Text} {q : Param} (h : parse? f = some q) :
    2 ≤ (tokens f).length := by
  obtain ⟨hq, htidy⟩ := parse?_eq_some_iff.1 h
  have hpos := List.length_pos_of_ne_nil hq.tokens_ty_ne_nil
  rw [← tokens_tidy, htidy, hq.tokens_decl, List.length_append, List.length_singleton]
  omega

end Param

theorem spaced_concat {us : List Text} (h : us ≠ []) (v : Text) :
    spaced (us ++ [v]) = spaced us ++ [' '] ++ v := by
  induction us with
  | nil => exact absurd rfl h
  | cons u us ih =>
    by_cases hus : us = []
    · subst hus
      rw [List.singleton_append, spaced_cons u (List.cons_ne_nil v []), spaced, spaced,
        List.intercalate_singleton, List.intercalate_singleton, List.append_assoc]
      rfl
    · rw [List.cons_append, spaced_cons u (by simp), ih hus, spaced_cons u hus]
      simp

/-- the parameter that some words declare, the last of which, `v`, is its name -/
def Param.ofWords (us : List Text) (v : Text) : Param :=
  ⟨spaced (us ++ [v]), spaced us ++ [' '], v⟩

/-- behind other words, a last word that is a name is read as one -/
theorem Param.parse?_of_splitBlanks {f : Text} {us : List Text} {v : Text} (hus : us ≠ [])
    (hwords : splitBlanks f = us ++ [v]) (hv : isName v = true) :
    parse? f = some (ofWords us v) := by
  have htidy : f.tidy = spaced (us ++ [v]) := by rw [tidy_eq_spaced, hwords]
  refine parse?_iff_cut.2 ⟨htidy.symm, ?_, ?_, hv⟩
  · rw [htidy]
    exact spaced_concat hus v
  · exact opensName_eq_true_iff.2 ⟨spaced us, ' ', rfl, by decide⟩

/-! ## types without a name -/

/-- the words that types are made of which have no name of their own -/
def typeWords : List Text :=
  ["void", "char", "short", "int", "long", "float", "double", "signed", "unsigned", "const",
   "volatile"]

theorem isName_of_mem_typeWords : ∀ w ∈ typeWords, isName w = true := by decide

/-- a type without a name: the blanks in front, the words with the blanks behind each, and the
blanks behind each star -/
structure Unnamed where
  lead : Text
  words : List (Text × Text)
  stars : List Text
  deriving DecidableEq, Repr

namespace Unnamed

/-- the text of some words and the blanks behind them -/
def wordsText (ws : List (Text × Text)) : Text := ws.flatMap fun w => w.1 ++ w.2

/-- the text of as many stars, and the blanks behind them -/
def starsText (gaps : List Text) : Text := gaps.flatMap fun g => '*' :: g

/-- the text of a type without a name -/
def text (u : Unnamed) : Text := u.lead ++ (wordsText u.words ++ starsText u.stars)

/-- one of the words at least, with blanks around each: some behind every word but the last one -/
@[mk_iff]
structure WellFormed (u : Unnamed) : Prop where
  words_ne_nil : u.words ≠ []
  mem_typeWords : ∀ w ∈ u.words, w.1 ∈ typeWords
  lead_blank : ∀ c ∈ u.lead, isBlank c = true
  gap_blank : ∀ w ∈ u.words, ∀ c ∈ w.2, isBlank c = true
  gap_ne_nil : ∀ w ∈ u.words.dropLast, w.2 ≠ []
  star_blank : ∀ g ∈ u.stars, ∀ c ∈ g, isBlank c = true

/-- a form that is decided word by word: with `List.all`, blanks are looked for in the text alone and
not among all characters -/
theorem wellFormed_iff_all {u : Unnamed} :
    u.WellFormed
      ↔ u.words ≠ [] ∧ (∀ w ∈ u.words, w.1 ∈ typeWords) ∧ u.lead.all isBlank = true ∧
        (∀ w ∈ u.words, w.2.all isBlank = true) ∧ (∀ w ∈ u.words.dropLast, w.2 ≠ []) ∧
        ∀ g ∈ u.stars, g.all isBlank = true := by
  simp only [wellFormed_iff, List.all_eq_true]

theorem wordsText_cons (w : Text × Text) (ws : List (Text × Text)) :
    wordsText (w :: ws) = w.1 ++ (w.2 ++ wordsText ws) := by
  rw [wordsText, List.flatMap_cons, List.append_assoc]
  rfl

theorem starsText_cons (g : Text) (gaps : List Text) :
    starsText (g :: gaps) = '*' :: (g ++ starsText gaps) := rfl

/-- words that are told apart by the blanks behind them are tokens of their text -/
theorem tokens_wordsText_append {ws : List (Text × Text)} {r : Text}
    (hname : ∀ w ∈ ws, isName w.1 = true) (hblank : ∀ w ∈ ws, ∀ c ∈ w.2, isBlank c = true)
    (hgap : ∀ w ∈ ws.dropLast, w.2 ≠ []) (hr : r.head?.any isWordChar = false) :
    tokens (wordsText ws ++ r) = ws.map Prod.fst ++ tokens r := by
  induction ws with
  | nil => rfl
  | cons w ws ih =>
    rw [List.forall_mem_cons] at hname hblank
    have hgaps : ∀ v ∈ ws.dropLast, v.2 ≠ [] := by
      intro v hv
      refine hgap v ?_
      rw [List.dropLast_cons_of_ne_nil (by rintro rfl; cases hv)]
      exact List.mem_cons_of_mem w hv
    have hword : tokens w.1 = [w.1] := by
      refine tokens_word ?_ fun c hc => isWordChar_of_isNameChar (isNameChar_of_isName hname.1 c hc)
      intro hnil
      rw [hnil] at hname
      cases hname.1
    have hstop : (w.2 ++ (wordsText ws ++ r)).head?.any isWordChar = false := by
      cases hg : w.2 with
      | nil =>
        have hws : ws = [] := by
          by_contra hne
          refine hgap w ?_ hg
          rw [List.dropLast_cons_of_ne_nil hne]
          exact List.mem_cons_self
        subst hws
        exact hr
      | cons c g =>
        rw [List.cons_append, List.head?_cons, Option.any_some]
        exact isWordChar_eq_false_of_isBlank (hblank.1 c (by rw [hg]; exact List.mem_cons_self))
    rw [wordsText_cons, List.append_assoc, List.append_assoc, tokens_append (.inr hstop), hword,
      tokens_blank_append hblank.1, ih hname.2 hblank.2 hgaps]
    rfl

theorem tokens_starsText {gaps : List Text} (h : ∀ g ∈ gaps, ∀ c ∈ g, isBlank c = true) :
    tokens (starsText gaps) = List.replicate gaps.length ['*'] := by
  induction gaps with
  | nil => rfl
  | cons g gaps ih =>
    rw [List.forall_mem_cons] at h
    have hword : isWordChar '*' = false := by decide
    rw [starsText_cons, tokens_cons (by decide) (by rw [hword]; rfl), tokens_blank_append h.1,
      ih h.2, List.length_cons, List.replicate_succ]

section
variable {u : Unnamed} (h : u.WellFormed)
include h

/-- the tokens of a type without a name are its words and stars -/
theorem tokens_text :
    tokens u.text = u.words.map Prod.fst ++ List.replicate u.stars.length ['*'] := by
  have hstars : (starsText u.stars).head?.any isWordChar = false := by
    cases u.stars with
    | nil => rfl
    | cons g gaps =>
      rw [starsText_cons, List.head?_cons, Option.any_some]
      decide
  rw [text, tokens_blank_append h.lead_blank, tokens_wordsText_append
    (fun w hw => isName_of_mem_typeWords _ (h.mem_typeWords w hw)) h.gap_blank h.gap_ne_nil hstars,
    tokens_starsText h.star_blank]

/-- the characters of a type without a name -/
theorem mem_text {c : Char} (hc : c ∈ u.text) :
    isBlank c = true ∨ isNameChar c = true ∨ (c = '*' ∧ u.stars ≠ []) := by
  rw [text, List.mem_append, List.mem_append, wordsText, starsText, List.mem_flatMap,
    List.mem_flatMap] at hc
  rcases hc with hc | ⟨w, hw, hc⟩ | ⟨g, hg, hc⟩
  · exact .inl (h.lead_blank c hc)
  · rcases List.mem_append.1 hc with hc | hc
    · have hname := isName_of_mem_typeWords _ (h.mem_typeWords w hw)
      exact .inr (.inl (isNameChar_of_isName hname c hc))
    · exact .inl (h.gap_blank w hw c hc)
  · rcases List.mem_cons.1 hc with rfl | hc
    · exact .inr (.inr ⟨rfl, List.ne_nil_of_mem hg⟩)
    · exact .inl (h.star_blank g hg c hc)

theorem comma_not_mem_text : ',' ∉ u.text := by
  intro hc
  rcases mem_text h hc with hb | hn | ⟨hs, _⟩
  · exact absurd hb (by decide)
  · exact absurd hn (by decide)
  · exact absurd hs (by decide)

theorem splitBlanks_text (hstars : u.stars = []) : splitBlanks u.text = u.words.map Prod.fst := by
  have hstar : '*' ∉ u.text := by
    intro hc
    rcases mem_text h hc with hb | hn | ⟨_, hne⟩
    · exact absurd hb (by decide)
    · exact absurd hn (by decide)
    · exact hne hstars
  rw [splitBlanks_eq_tokens hstar, tokens_text h, hstars, List.length_nil, List.replicate_zero,
    List.append_nil]

/-- behind a star there is no name -/
theorem parse?_of_stars (hstars : u.stars ≠ []) : Param.parse? u.text = none := by
  rw [Option.eq_none_iff_forall_ne_some]
  intro q hq
  obtain ⟨g, gaps, hcons⟩ := List.exists_cons_of_ne_nil hstars
  have hlast := (Param.tokens_of_parse? hq).2
  rw [tokens_text h, hcons, List.length_cons, List.replicate_succ', ← List.append_assoc,
    List.getLast?_concat, Option.some_inj] at hlast
  have hname := (Param.parse?_eq_some_iff.1 hq).1.name_isName
  rw [← hlast] at hname
  cases hname

/-- one word alone is no type and a name -/
theorem parse?_of_one (hstars : u.stars = []) (hone : u.words.length = 1) :
    Param.parse? u.text = none := by
  rw [Option.eq_none_iff_forall_ne_some]
  intro q hq
  have htwo := Param.two_le_length_tokens hq
  rw [tokens_text h, hstars, List.length_append, List.length_map, List.length_replicate,
    List.length_nil, hone] at htwo
  omega

/-- the last of several words is read as a name -/
theorem parse?_of_words (hstars : u.stars = []) {us : List Text} {v : Text} (hus : us ≠ [])
    (hwords : u.words.map Prod.fst = us ++ [v]) :
    Param.parse? u.text = some (Param.ofWords us v) := by
  refine Param.parse?_of_splitBlanks hus ((splitBlanks_text h hstars).trans hwords) ?_
  have hv : v ∈ u.words.map Prod.fst := by
    rw [hwords]
    simp
  obtain ⟨w, hw, rfl⟩ := List.mem_map.1 hv
  exact isName_of_mem_typeWords _ (h.mem_typeWords w hw)

theorem parse?_eq_none_iff :
    Param.parse? u.text = none ↔ u.stars ≠ [] ∨ u.words.length = 1 := by
  constructor
  · intro hnone
    by_contra hcon
    rw [not_or, not_not] at hcon
    obtain ⟨hstars, hlen⟩ := hcon
    rcases List.eq_nil_or_concat' u.words with hnil | ⟨ws, w, hws⟩
    · exact h.words_ne_nil hnil
    · have hus : ws.map Prod.fst ≠ [] := by
        intro hmap
        rw [List.map_eq_nil_iff] at hmap
        exact hlen (by rw [hws, hmap]; rfl)
      have hwords : u.words.map Prod.fst = ws.map Prod.fst ++ [w.1] := by
        rw [hws, List.map_append, List.map_singleton]
      rw [parse?_of_words h hstars hus hwords] at hnone
      cases hnone
  · intro hbad
    by_cases hstars : u.stars = []
    · exact parse?_of_one h hstars (hbad.resolve_left (not_not.2 hstars))
    · exact parse?_of_stars h hstars

end

/-- **A type without a name is refused if and only if it ends with a star or is one word.**  An
argument text with such a fragment is malformed.  Of several words without a star the last one is
read as a name, and those before it as its type, also where all of them are keywords.  This
parameter stands in every declaration that is read from a text with the fragment, for instance from
the fragment alone. -/
theorem refused_iff_star_or_word {u : Unnamed} (h : u.WellFormed) :
    (Param.parse? u.text = none ↔ u.stars ≠ [] ∨ u.words.length = 1) ∧
    (Param.parse? u.text = none → ∀ result name args, u.text ∈ args.splitOn ',' →
      ∃ f, Decl.read result name args = .error (.malformed name.trim f)) ∧
    ∀ us v, u.stars = [] → us ≠ [] → u.words.map Prod.fst = us ++ [v] →
      Param.parse? u.text = some ⟨spaced (us ++ [v]), spaced us ++ [' '], v⟩ ∧
      ∀ result name,
        Decl.read result name u.text = .ok ⟨result.trim, name.trim, [Param.ofWords us v]⟩ ∧
        ∀ args d, u.text ∈ args.splitOn ',' → Decl.read result name args = .ok d →
          Param.ofWords us v ∈ d.params := by
  refine ⟨parse?_eq_none_iff h, fun hnone result name args hmem => ?_, ?_⟩
  · cases hread : Decl.read result name args with
    | ok d =>
      obtain ⟨q, hq⟩ := Decl.exists_read_iff.1 ⟨d, hread⟩ _ hmem
      rw [hnone] at hq
      cases hq
    | error fault =>
      obtain ⟨_, f, _, _, _, _, rfl⟩ := Decl.read_eq_error_iff.1 hread
      exact ⟨f.trim, rfl⟩
  · intro us v hstars hus hwords
    have hparse := parse?_of_words h hstars hus hwords
    refine ⟨hparse, fun result name => ⟨?_, fun args d hmem hread => ?_⟩⟩
    · have hcomma : ∀ g ∈ [u.text], ',' ∉ g := List.forall_mem_singleton.2 (comma_not_mem_text h)
      have hread := Decl.read_intercalate result name (List.cons_ne_nil u.text []) hcomma
        (.cons (Param.parse?_eq_some_iff.1 hparse) .nil)
      rwa [List.intercalate_singleton] at hread
    · have hparams : Param.parse? u.text ∈ d.params.map some := by
        rw [← Decl.parse?_of_read hread]
        exact List.mem_map_of_mem hmem
      rw [hparse] at hparams
      obtain ⟨q, hq, heq⟩ := List.mem_map.1 hparams
      cases heq
      exact hq

/-- the type of a text, on two lines -/
def constChar : Unnamed := ⟨['\n'], [("const", " "), ("char", "\t")], [[], " "]⟩

/-- the type of a number without a sign -/
def unsignedInt : Unnamed := ⟨[], [("unsigned", " "), ("int", [])], []⟩

theorem wellFormed_constChar : constChar.WellFormed := wellFormed_iff_all.2 (by decide +kernel)

theorem wellFormed_unsignedInt : unsignedInt.WellFormed := wellFormed_iff_all.2 (by decide +kernel)

theorem refused_iff_star_or_word_constChar :
    constChar.WellFormed ∧ Param.parse? constChar.text = none ∧
    ∃ f, Decl.read "int" "bdrv_flush" "BlockDriverState *bs,\nconst char\t** "
      = .error (.malformed (trim "bdrv_flush") f) := by
  have hstars : constChar.stars ≠ [] := by decide
  have hmem : constChar.text ∈ ("BlockDriverState *bs,\nconst char\t** " : Text).splitOn ',' := by
    decide +kernel
  obtain ⟨hnone, hmalformed, _⟩ := refused_iff_star_or_word wellFormed_constChar
  have hrefused := hnone.2 (.inl hstars)
  exact ⟨wellFormed_constChar, hrefused, hmalformed hrefused "int" "bdrv_flush" _ hmem⟩

/-- the type of a number without a sign is read as a parameter of the type `unsigned` and the name
`int`, and a bridge can be made of it -/
theorem unsigned_int_declares_int :
    unsignedInt.WellFormed ∧ unsignedInt.text = "unsigned int" ∧
    Param.parse? unsignedInt.text = some ⟨"unsigned int", "unsigned ", "int"⟩ ∧
    (∃ d p, Decl.read "int" "bdrv_flush" "BlockDriverState *bs, unsigned int" = .ok d ∧
      d.params.map Param.name = [("bs" : Text), "int"] ∧ d.plan = .ok p) ∧
    ¬ ∀ u : Unnamed, u.WellFormed → Param.parse? u.text = none := by
  have hread : Param.parse? unsignedInt.text = some ⟨"unsigned int", "unsigned ", "int"⟩ := by
    decide +kernel
  refine ⟨wellFormed_unsignedInt, by decide, hread, ?_, fun h => ?_⟩
  · exact ⟨⟨"int", "bdrv_flush", [⟨"BlockDriverState *bs", "BlockDriverState *", "bs"⟩,
      ⟨"unsigned int", "unsigned ", "int"⟩]⟩, _, by decide +kernel, by decide +kernel, rfl⟩
  · rw [h unsignedInt wellFormed_unsignedInt] at hread
    cases hread

end Unnamed
end CoroBridge
