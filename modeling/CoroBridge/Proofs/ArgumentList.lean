import CoroBridge.Proofs.Tokens

/-!
# Argument lists: when a declaration is read, and which fragment is to blame

An argument text is cut at its commas, and the fragments are read from left to right.

* `Text.Padded`              a text with any blanks around it;
* `length_splitOn`           a text has one part more than it has commas;
* `Param.parseAll_eq_error_iff`   the search for parameters stops at the first fragment that
                             declares none;
* `Decl.read_padded`         the texts of the parameters that were read, with any blanks around them
                             and commas between, are read as the same declaration;
* `Decl.read_eq_error_iff`   a declaration is malformed for its first fragment that declares none;
* `Decl.read_fragments`      all this for one argument text.
-/

namespace CoroBridge
namespace Text

/-! ## blanks around a text -/

/-- `g` is the text `t` with any blanks around it -/
def Padded (t g : Text) : Prop :=
  ∃ a b, g = a ++ (t ++ b) ∧ (∀ c ∈ a, isBlank c = true) ∧ ∀ c ∈ b, isBlank c = true

theorem Padded.trim_eq {t g : Text} (h : Padded t g) : g.trim = t.trim := by
  obtain ⟨a, b, rfl, ha, hb⟩ := h
  rw [trim_blank_append ha, trim_append_blank t hb]

theorem Padded.tidy_eq {t g : Text} (h : Padded t g) : g.tidy = t.tidy := by
  rw [tidy, h.trim_eq, tidy]

theorem Padded.not_mem {t g : Text} (h : Padded t g) {c : Char} (hc : isBlank c = false)
    (ht : c ∉ t) : c ∉ g := by
  obtain ⟨a, b, rfl, ha, hb⟩ := h
  intro hmem
  rw [List.mem_append, List.mem_append] at hmem
  rcases hmem with hm | hm | hm
  · rw [ha c hm] at hc
    cases hc
  · exact ht hm
  · rw [hb c hm] at hc
    cases hc

end Text

open Text

/-! ## fragments -/

/-- a text has one part more than it has characters that it is cut at -/
theorem length_splitOn (a : Char) (t : Text) : (t.splitOn a).length = t.count a + 1 := by
  induction t with
  | nil => rw [List.splitOn_nil, List.length_singleton, List.count_nil]
  | cons c t ih =>
    rw [List.splitOn_cons_eq_if_modifyHead, List.count_cons]
    split
    · rw [List.length_cons, ih]
    · rw [List.length_modifyHead, ih]

namespace Param

/-- the search for parameters stops at the first fragment that declares none -/
theorem parseAll_eq_error_iff {fs : List Text} {f : Text} :
    parseAll fs = .error f
      ↔ ∃ xs ys, fs = xs ++ f :: ys ∧ (∀ x ∈ xs, ∃ q, parse? x = some q) ∧ parse? f = none := by
  induction fs with
  | nil =>
    constructor
    · intro h
      cases h
    · rintro ⟨xs, ys, h, _⟩
      exact absurd h (by simp)
  | cons g fs ih =>
    unfold parseAll
    cases hg : parse? g with
    | none =>
      constructor
      · intro h
        cases h
        exact ⟨[], fs, rfl, fun _ hx => absurd hx List.not_mem_nil, hg⟩
      · rintro ⟨_ | ⟨x, xs⟩, ys, h, hxs, _⟩
        · cases h
          rfl
        · cases h
          obtain ⟨q, hq⟩ := hxs g List.mem_cons_self
          rw [hg] at hq
          cases hq
    | some p =>
      have hmap : (parseAll fs).map (p :: ·) = .error f ↔ parseAll fs = .error f := by
        cases parseAll fs with
        | ok _ => exact iff_of_false (by intro h; cases h) (by intro h; cases h)
        | error _ => exact Iff.rfl
      show (parseAll fs).map (p :: ·) = .error f ↔ _
      rw [hmap, ih]
      constructor
      · rintro ⟨xs, ys, rfl, hxs, hf⟩
        exact ⟨g :: xs, ys, rfl, List.forall_mem_cons.2 ⟨⟨p, hg⟩, hxs⟩, hf⟩
      · rintro ⟨_ | ⟨x, xs⟩, ys, h, hxs, hf⟩
        · cases h
          rw [hg] at hf
          cases hf
        · cases h
          exact ⟨xs, ys, rfl, (List.forall_mem_cons.1 hxs).2, hf⟩

end Param

/-! ## declarations -/

namespace Decl
variable {result name args : Text} {d : Decl}

/-- the texts of the parameters that were read, with any blanks around them and commas between, are
read as the same declaration -/
theorem read_padded (h : read result name args = .ok d) {result' name' : Text} {gs : List Text}
    (hresult : Padded d.result result') (hname : Padded d.name name')
    (hgs : List.Forall₂ (fun q g => Padded q.decl g) d.params gs) :
    read result' name' (List.intercalate [','] gs) = .ok d := by
  obtain ⟨hr, hn, _⟩ := read_eq_ok_iff.1 h
  have hwritten := written_of_read h
  have hne : gs ≠ [] := by
    rintro rfl
    have hlen := length_of_read h
    rw [length_splitOn, hgs.length_eq] at hlen
    exact absurd hlen (Nat.succ_ne_zero _)
  have hcomma : ∀ g ∈ gs, ',' ∉ g := by
    intro g hg
    obtain ⟨q, hq, hpad⟩ := exists_of_forall₂_right hgs g hg
    exact hpad.not_mem (by decide) (hwritten q hq).2.1
  have hall : List.Forall₂ (fun g q => q.Written ∧ g.tidy = q.decl) gs d.params := by
    have hboth := (List.forall₂_and_left _ _).2 ⟨fun q hq => (hwritten q hq).1, hgs⟩
    refine List.Forall₂.flip (hboth.imp fun q g hqg => ?_)
    exact ⟨hqg.1, hqg.2.tidy_eq.trans hqg.1.tidy_decl⟩
  rw [read_intercalate result' name' hne hcomma hall, hresult.trim_eq, hname.trim_eq, hr, hn,
    trim_trim, trim_trim, ← hr, ← hn]

/-- a declaration is malformed for its first fragment that declares no parameter -/
theorem read_eq_error_iff {fault : Fault} :
    read result name args = .error fault
      ↔ ∃ fs f gs, args.splitOn ',' = fs ++ f :: gs ∧
        (∀ g ∈ fs, ∃ q, Param.parse? g = some q) ∧ Param.parse? f = none ∧
        fault = .malformed name.trim f.trim := by
  unfold read
  constructor
  · intro h
    split at h
    · cases h
    · next f hf =>
      cases h
      obtain ⟨fs, gs, hcut, hfs, hnone⟩ := Param.parseAll_eq_error_iff.1 hf
      exact ⟨fs, f, gs, hcut, hfs, hnone, rfl⟩
  · rintro ⟨fs, f, gs, hcut, hfs, hnone, rfl⟩
    rw [Param.parseAll_eq_error_iff.2 ⟨fs, gs, hcut, hfs, hnone⟩]

theorem exists_read_iff :
    (∃ d, read result name args = .ok d)
      ↔ ∀ f ∈ args.splitOn ',', ∃ q, Param.parse? f = some q := by
  constructor
  · rintro ⟨d, h⟩ f hf
    have hmem : Param.parse? f ∈ d.params.map some := by
      rw [← parse?_of_read h]
      exact List.mem_map_of_mem hf
    obtain ⟨q, _, hq⟩ := List.mem_map.1 hmem
    exact ⟨q, hq.symm⟩
  · intro hall
    cases h : read result name args with
    | ok d => exact ⟨d, rfl⟩
    | error fault =>
      obtain ⟨fs, f, gs, hcut, _, hnone, _⟩ := read_eq_error_iff.1 h
      obtain ⟨q, hq⟩ := hall f (by rw [hcut]; simp)
      rw [hnone] at hq
      cases hq

/-- **A declaration is read if and only if every fragment between commas declares a parameter.**  It
has the parameters of the fragments in their order, one more than there are commas.  Any text that
is put together from their texts, with blanks around and commas between, is read as the same
declaration.  Otherwise it is malformed, for the first fragment that declares none. -/
theorem read_fragments (result name args : Text) :
    ((∃ d, read result name args = .ok d)
      ↔ ∀ f ∈ args.splitOn ',', ∃ q, Param.parse? f = some q) ∧
    (∀ d, read result name args = .ok d →
      d.result = result.trim ∧ d.name = name.trim ∧
      (args.splitOn ',').map Param.parse? = d.params.map some ∧
      d.params.length = args.count ',' + 1 ∧
      ∀ result' name' gs, Padded d.result result' → Padded d.name name' →
        List.Forall₂ (fun q g => Padded q.decl g) d.params gs →
        read result' name' (List.intercalate [','] gs) = .ok d) ∧
    ∀ fault, read result name args = .error fault
      ↔ ∃ fs f gs, args.splitOn ',' = fs ++ f :: gs ∧
        (∀ g ∈ fs, ∃ q, Param.parse? g = some q) ∧ Param.parse? f = none ∧
        fault = .malformed name.trim f.trim := by
  refine ⟨exists_read_iff, fun d h => ?_, fun fault => read_eq_error_iff⟩
  obtain ⟨hresult, hname, _⟩ := read_eq_ok_iff.1 h
  refine ⟨hresult, hname, parse?_of_read h, ?_, fun _ _ _ hr hn hgs => read_padded h hr hn hgs⟩
  rw [← length_of_read h, length_splitOn]

/-- two parameters on three lines -/
def scatteredArgs : Text := "BdrvChild\n*child, bool\n    exact"

/-- what they are read as -/
def truncateDecl : Decl :=
  ⟨"int", "bdrv_truncate", [⟨"BdrvChild *child", "BdrvChild *", "child"⟩,
    ⟨"bool exact", "bool ", "exact"⟩]⟩

theorem read_fragments_scatteredArgs :
    read " int" "bdrv_truncate" scatteredArgs = .ok truncateDecl ∧
    read "int" "bdrv_truncate\n" "\tBdrvChild *child ,bool exact" = .ok truncateDecl := by
  have h : read " int" "bdrv_truncate" scatteredArgs = .ok truncateDecl := by decide +kernel
  refine ⟨h, ?_⟩
  obtain ⟨_, _, _, _, hagain⟩ := (read_fragments " int" "bdrv_truncate" scatteredArgs).2.1 _ h
  have hnone : ∀ c ∈ ([] : Text), isBlank c = true := fun _ hc => absurd hc List.not_mem_nil
  have hone : ∀ b, isBlank b = true → ∀ c ∈ [b], isBlank c = true :=
    fun _ hb => List.forall_mem_singleton.2 hb
  refine hagain "int" "bdrv_truncate\n" ["\tBdrvChild *child ", "bool exact"]
    ⟨[], [], rfl, hnone, hnone⟩ ⟨[], ['\n'], rfl, hnone, hone _ (by decide)⟩
    (.cons ?_ (.cons ?_ .nil))
  · exact ⟨['\t'], [' '], rfl, hone _ (by decide), hone _ (by decide)⟩
  · exact ⟨[], [], rfl, hnone, hnone⟩

/-- the second and the third fragment declare nothing, and the second one is to blame -/
example : read "int" "bdrv_flush" "BlockDriverState *bs,  char\n * , int"
    = .error (.malformed "bdrv_flush" "char\n *") := by decide +kernel

end Decl
end CoroBridge
