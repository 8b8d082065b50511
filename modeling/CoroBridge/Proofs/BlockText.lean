import CoroBridge.Proofs.Lines
import CoroBridge.Proofs.Occurrence
import CoroBridge.Proofs.Parameter
import CoroBridge.Proofs.Rules

/-!
# Block texts: what the lines of a block are made of

Nothing of a declaration that was found at a site can break a line of its block.

* `Decl.Found`              a declaration as it stands at a site: a name, and written parameters
                            without commas and closing parentheses;
* `Marker.found_of_mem_decls`   the declarations of a text are such declarations;
* `isAlphanum_of_mem_camel` type names are made of letters and digits;
* `Plan.lines_eq`           the lines above the signature of the bridge, and those below;
* `Plan.head?_of_mem_linesAbove`, `Plan.head?_of_mem_linesBelow`   no other line begins like a
                            signature;
* `Text.oneLine`, `Text.Unbroken`   whether a text has no blanks but spaces, or at least no line ends;
* `Planned.oneLine_of_mem_lines`   every line of a block is such a text;
* `Planned.splitOn_block`   a block, cut at its line feeds, is the list of its lines.
-/

namespace CoroBridge

/-! ## declarations at sites -/

/-- a declaration as it stands at a site: the one result type, a name, and written parameters whose
texts hold neither a comma nor a closing parenthesis -/
structure Decl.Found (d : Decl) : Prop where
  result_eq : d.result = statusType
  name_isName : isName d.name = true
  written : ∀ q ∈ d.params, q.Written
  no_comma : ∀ q ∈ d.params, ',' ∉ q.decl
  no_close : ∀ q ∈ d.params, ')' ∉ q.decl

theorem trim_of_isName {n : Text} (h : isName n = true) : n.trim = n := by
  have hblank : ∀ c ∈ n, isBlank c = false := fun c hc =>
    isBlank_eq_false_of_isNameChar (isNameChar_of_isName h c hc)
  apply Text.trim_eq_self
  · cases n with
    | nil => rfl
    | cons c r => exact hblank c List.mem_cons_self
  · have hne : n ≠ [] := by rintro rfl; cases h
    rw [Text.endsBlank, List.getLast?_eq_some_getLast hne]
    exact hblank _ (List.getLast_mem hne)

theorem Statement.WellFormed.found {s : Statement} (hs : s.WellFormed) {d : Decl}
    (h : s.decl = .ok d) : d.Found := by
  have hwritten := Decl.written_of_read h
  obtain ⟨hresult, hname, _⟩ := Decl.read_eq_ok_iff.1 h
  rw [trim_of_isName hs.name_isName] at hname
  refine ⟨hresult, hname ▸ hs.name_isName, fun q hq => (hwritten q hq).1,
    fun q hq => (hwritten q hq).2.1, fun q hq hc => ?_⟩
  rcases (hwritten q hq).2.2 _ hc with h | h
  · exact absurd h (by decide)
  · exact hs.args_open h

namespace Marker

theorem mem_decls_iff {m : Marker} {t : Text} {x : Except Fault Decl} :
    x ∈ m.decls t ↔ ∃ s ∈ m.sites t, s.decl = x := List.mem_map

theorem found_of_mem_decls {m : Marker} {t : Text} {d : Decl} (h : .ok d ∈ m.decls t) :
    d.Found := by
  obtain ⟨x, hx, hd⟩ := mem_decls_iff.1 h
  exact ((scan_sites m t).occursAt x hx).1.found hd

end Marker

/-! ## names -/

theorem isAlphanum_of_isNameChar {c : Char} (h : isNameChar c = true) (hc : c ≠ '_') :
    c.isAlphanum = true := by
  simp only [isNameChar, Bool.or_eq_true, beq_iff_eq, hc, or_false] at h
  rcases h with h | h
  · exact isAlphanum_of_isLower h
  · exact isAlphanum_of_isDigit h

theorem toNat_lt_of_isAlphanum {c : Char} (h : c.isAlphanum = true) : c.toNat < 0x80 := by
  have hc := toNat_of_isAlphanum h
  omega

/-- what can be said of every ASCII character holds of a character with a small number -/
theorem of_forall_ascii {P : Char → Prop} (h : ∀ n < 0x80, P (Char.ofNat n)) {c : Char}
    (hc : c.toNat < 0x80) : P c := by
  have hn := h c.toNat hc
  rwa [Char.ofNat_toNat] at hn

theorem isAlphanum_toUpper {c : Char} (h : c.isAlphanum = true) :
    c.toUpper.isAlphanum = true := by
  exact of_forall_ascii (P := fun c => c.isAlphanum = true → c.toUpper.isAlphanum = true)
    (by decide) (toNat_lt_of_isAlphanum h) h

theorem isAlphanum_of_mem_capital {t : Text} (h : ∀ c ∈ t, c.isAlphanum = true) :
    ∀ c ∈ t.capital, c.isAlphanum = true := by
  cases t with
  | nil => exact h
  | cons d r =>
    have hd := h d List.mem_cons_self
    intro c hc
    rw [Text.capital_cons, Text.upper_of_ascii (toNat_lt_of_isAlphanum hd)] at hc
    rcases List.mem_cons.1 hc with rfl | hc
    · exact isAlphanum_toUpper hd
    · exact h c (List.mem_cons_of_mem d hc)

/-- the type name made of a name is made of letters and digits -/
theorem isAlphanum_of_mem_camel {n : Text} (h : ∀ c ∈ n, isNameChar c = true) :
    ∀ c ∈ camel n, c.isAlphanum = true := by
  intro c hc
  obtain ⟨part, hpart, hc⟩ := List.mem_flatMap.1 hc
  obtain ⟨hscore, hmem⟩ := mem_splitOn hpart
  refine isAlphanum_of_mem_capital (fun e he => ?_) c hc
  exact isAlphanum_of_isNameChar (h e (hmem e he)) (ne_of_mem_of_not_mem he hscore)

/-! ## lines -/

namespace Plan

/-- the lines of a block above the signature -/
def linesAbove (p : Plan) : List Text :=
  p.titleLines ++ [[]] ++ p.contextLines ++ [[]] ++ p.entryLines ++ [[]]

/-- the lines of a block below the signature -/
def linesBelow (p : Plan) : List Text :=
  p.bridgeHead.tail ++ p.pollInits.map initLine ++ [[]] ++ p.paramInits.map initLine
    ++ p.bridgeTail

theorem lines_eq (p : Plan) : p.lines = p.linesAbove ++ p.signature :: p.linesBelow := by
  simp only [lines, linesAbove, bridgeLines, linesBelow, bridgeHead, List.tail_cons,
    List.append_assoc, List.cons_append]

theorem head?_fieldLine (decl : Text) : (fieldLine decl).head? = some ' ' := by
  unfold fieldLine
  rfl

theorem head?_initLine (i : Text × Text) : (initLine i).head? = some ' ' := by
  unfold initLine
  rfl

theorem head?_of_mem_linesAbove (p : Plan) : ∀ l ∈ p.linesAbove, l.head? ≠ some 'i' := by
  simp only [linesAbove, Plan.titleLines, contextLines, contextHead, entryLines,
    List.forall_mem_append, List.forall_mem_cons, List.forall_mem_map, head?_fieldLine]
  simp

theorem head?_of_mem_linesBelow (p : Plan) : ∀ l ∈ p.linesBelow, l.head? ≠ some 'i' := by
  simp only [linesBelow, bridgeHead, bridgeTail, List.tail_cons, List.forall_mem_append,
    List.forall_mem_cons, List.forall_mem_map, head?_initLine]
  simp

end Plan

namespace Text

/-- whether the only blank in a text is the space -/
def oneLine (t : Text) : Bool := t.all fun c => !isBlank c || c == ' '

theorem oneLine_iff {t : Text} : t.oneLine = true ↔ ∀ c ∈ t, isBlank c = true → c = ' ' := by
  simp only [oneLine, List.all_eq_true, Bool.or_eq_true, Bool.not_eq_true', beq_iff_eq]
  refine forall₂_congr fun c _ => ?_
  cases isBlank c <;> simp

theorem oneLine_append (a b : Text) : (a ++ b).oneLine = (a.oneLine && b.oneLine) :=
  List.all_append

theorem oneLine_of_not_blank {t : Text} (h : ∀ c ∈ t, isBlank c = false) : t.oneLine = true :=
  oneLine_iff.2 fun c hc hb => by rw [h c hc] at hb; cases hb

theorem feed_not_mem {t : Text} (h : t.oneLine = true) : '\n' ∉ t := fun hc =>
  absurd (oneLine_iff.1 h _ hc (by decide)) (by decide)

/-- whether a text is free of the two characters that end a line -/
def Unbroken (t : Text) : Prop := '\n' ∉ t ∧ '\r' ∉ t

theorem unbroken_of_oneLine {t : Text} (h : t.oneLine = true) : t.Unbroken :=
  ⟨feed_not_mem h, fun hc => absurd (oneLine_iff.1 h _ hc (by decide)) (by decide)⟩

theorem oneLine_commas {ts : List Text} (h : ∀ t ∈ ts, oneLine t = true) :
    oneLine (Plan.commas ts) = true := by
  rw [Plan.commas, oneLine_iff]
  intro c hc
  rcases mem_intercalate hc with hc | ⟨t, ht, hc⟩
  · exact oneLine_iff.1 (by rfl : oneLine [',', ' '] = true) c hc
  · exact oneLine_iff.1 (h t ht) c hc

end Text

open Text

theorem oneLine_of_isNameChar {n : Text} (h : ∀ c ∈ n, isNameChar c = true) :
    n.oneLine = true :=
  oneLine_of_not_blank fun c hc => isBlank_eq_false_of_isNameChar (h c hc)

namespace Planned
variable {d : Decl} {p : Plan}

theorem mem_coroutine (h : Planned d p) (hd : d.Found) :
    ∀ c ∈ p.coroutine, isNameChar c = true := by
  have hname := isNameChar_of_isName hd.name_isName
  have hstem : coroutineStem.all isNameChar = true := by rfl
  obtain ⟨r, hr, hco⟩ := h.stem
  intro c hc
  rw [hco] at hc
  rcases List.mem_append.1 hc with hc | hc
  · exact List.all_eq_true.1 hstem c hc
  · exact hname c (hr ▸ List.mem_append_right wrapperStem hc)

theorem params_eq (h : Planned d p) : p.params = d.params := by
  rw [Plan.params, h.wrapper_eq]

theorem oneLine_owner (h : Planned d p) (hd : d.Found) : oneLine p.owner = true := by
  obtain ⟨q, qs, hparams, _, hsub⟩ := h.first
  have hq : q ∈ d.params := hparams ▸ List.mem_cons_self
  have hname : oneLine p.subject = true :=
    hsub ▸ oneLine_of_isNameChar fun c hc => (hd.written q hq).mem_name hc
  rw [Plan.owner]
  cases p.handle with
  | direct => exact hname
  | child =>
    rw [Handle.owner, oneLine_append, hname]
    rfl

theorem oneLine_coroutine (h : Planned d p) (hd : d.Found) : oneLine p.coroutine = true :=
  oneLine_of_isNameChar (h.mem_coroutine hd)

theorem oneLine_context (h : Planned d p) (hd : d.Found) : oneLine p.context = true :=
  oneLine_of_not_blank fun c hc =>
    isBlank_eq_false_of_isAlphanum (isAlphanum_of_mem_camel (h.mem_coroutine hd) c hc)

theorem oneLine_decl (h : Planned d p) (hd : d.Found) : ∀ q ∈ p.params, oneLine q.decl = true :=
  fun q hq => oneLine_iff.2 fun _ => (hd.written q (h.params_eq ▸ hq)).eq_space

theorem oneLine_name (h : Planned d p) (hd : d.Found) : ∀ q ∈ p.params, oneLine q.name = true :=
  fun q hq => oneLine_of_isNameChar fun _ => (hd.written q (h.params_eq ▸ hq)).mem_name

theorem oneLine_contextLines (h : Planned d p) (hd : d.Found) :
    p.contextLines.all oneLine = true := by
  have hfields : (p.fields.map Plan.fieldLine).all oneLine = true := by
    refine List.all_eq_true.2 (List.forall_mem_map.2 (List.forall_mem_map.2 fun q hq => ?_))
    unfold Plan.fieldLine
    simp only [oneLine_append, h.oneLine_decl hd q hq]
    rfl
  simp only [Plan.contextLines, Plan.contextHead, List.all_append, List.all_cons, List.all_nil,
    oneLine_append, h.oneLine_context hd, hfields]
  rfl

theorem oneLine_entryLines (h : Planned d p) (hd : d.Found) :
    p.entryLines.all oneLine = true := by
  have hargs : oneLine (Plan.commas p.entryArgs) = true := by
    refine oneLine_commas (List.forall_mem_map.2 fun q hq => ?_)
    rw [oneLine_append, h.oneLine_name hd q hq]
    rfl
  simp only [Plan.entryLines, Plan.entry, List.all_cons, List.all_nil, oneLine_append,
    h.oneLine_context hd, h.oneLine_coroutine hd, hargs]
  rfl

theorem oneLine_wrapperName (h : Planned d p) (hd : d.Found) : oneLine p.wrapper.name = true := by
  rw [h.wrapper_eq]
  exact oneLine_of_isNameChar (isNameChar_of_isName hd.name_isName)

theorem oneLine_fields (h : Planned d p) (hd : d.Found) :
    oneLine (Plan.commas p.fields) = true :=
  oneLine_commas (List.forall_mem_map.2 (h.oneLine_decl hd))

theorem oneLine_signature (h : Planned d p) (hd : d.Found) : oneLine p.signature = true := by
  simp only [Plan.signature, oneLine_append, h.oneLine_wrapperName hd, h.oneLine_fields hd]
  rfl

theorem oneLine_initLine {a b : Text} (ha : oneLine a = true) (hb : oneLine b = true) :
    oneLine (Plan.initLine (a, b)) = true := by
  unfold Plan.initLine
  simp only [oneLine_append, ha, hb]
  rfl

theorem oneLine_bridgeLines (h : Planned d p) (hd : d.Found) :
    p.bridgeLines.all oneLine = true := by
  have hargs : oneLine (Plan.commas p.directArgs) = true :=
    oneLine_commas (List.forall_mem_map.2 (h.oneLine_name hd))
  have hinits : (p.paramInits.map Plan.initLine).all oneLine = true := by
    refine List.all_eq_true.2 (List.forall_mem_map.2 (List.forall_mem_map.2 fun q hq => ?_))
    exact oneLine_initLine (h.oneLine_name hd q hq) (h.oneLine_name hd q hq)
  simp only [Plan.bridgeLines, Plan.bridgeHead, Plan.pollInits, Plan.bridgeTail, Plan.entry,
    List.map_cons, List.map_nil, List.all_append, List.all_cons, List.all_nil, oneLine_append,
    oneLine_initLine (a := "poll_state.bs") (by rfl) (h.oneLine_owner hd),
    h.oneLine_signature hd, h.oneLine_context hd, h.oneLine_coroutine hd, hargs, hinits]
  rfl

/-- every line of a block is on one line -/
theorem oneLine_of_mem_lines (h : Planned d p) (hd : d.Found) :
    ∀ l ∈ p.lines, oneLine l = true := by
  refine List.all_eq_true.1 ?_
  simp only [Plan.lines, Plan.titleLines, List.all_append, List.all_cons, List.all_nil,
    oneLine_append, h.oneLine_coroutine hd, h.oneLine_contextLines hd, h.oneLine_entryLines hd,
    h.oneLine_bridgeLines hd]
  rfl

theorem splitOn_block (h : Planned d p) (hd : d.Found) : p.block.splitOn '\n' = p.lines :=
  List.splitOn_intercalate '\n' (fun l hl => feed_not_mem (h.oneLine_of_mem_lines hd l hl))
    (by simp [Plan.lines, Plan.titleLines])

end Planned
end CoroBridge
