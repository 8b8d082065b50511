import CoroBridge.Proofs.BlockText

/-!
# Read back: calls and initialisers in the text of a block

Readers for the lines of a block that know nothing of the plan which it was written from.

* `Text.splitCommas`           the parts of a text between commas with a space behind;
* `Call`, `call?`              the call on a line, when the text before it is known;
* `init?`                      the initialiser on a line;
* `entryCall?`, `directCall?`, `initsOf`   the two calls and the initialisers in a block;
* `Planned.entryCall?_block`, `Planned.directCall?_block`, `Planned.initsOf_block`   what they find
                               in the block of a plan.
-/

namespace CoroBridge

/-! ## lists with commas -/

namespace Text

/-- the parts of a text between commas that a space follows -/
def splitCommas : Text → List Text
  | [] => [[]]
  | ',' :: ' ' :: r => [] :: splitCommas r
  | c :: r => onto c (splitCommas r)

theorem splitCommas_cons {c : Char} (h : c ≠ ',') (r : Text) :
    splitCommas (c :: r) = onto c (splitCommas r) := by
  rw [splitCommas]
  rintro s rfl
  exact absurd rfl h

theorem splitCommas_of_not_mem {a : Text} (h : ',' ∉ a) : splitCommas a = [a] := by
  induction a with
  | nil => rfl
  | cons c a ih =>
    obtain ⟨hc, ha⟩ := not_or.1 (mt List.mem_cons.2 h)
    rw [splitCommas_cons (Ne.symm hc), ih ha, onto_cons]

theorem splitCommas_append {a : Text} (h : ',' ∉ a) (r : Text) :
    splitCommas (a ++ ',' :: ' ' :: r) = a :: splitCommas r := by
  induction a with
  | nil => rfl
  | cons c a ih =>
    obtain ⟨hc, ha⟩ := not_or.1 (mt List.mem_cons.2 h)
    rw [List.cons_append, splitCommas_cons (Ne.symm hc), ih ha, onto_cons]

theorem splitCommas_commas {ts : List Text} (hne : ts ≠ []) (h : ∀ t ∈ ts, ',' ∉ t) :
    splitCommas (Plan.commas ts) = ts := by
  induction ts with
  | nil => exact absurd rfl hne
  | cons t ts ih =>
    obtain ⟨ht, hts⟩ := List.forall_mem_cons.1 h
    by_cases hnil : ts = []
    · subst hnil
      rw [Plan.commas, List.intercalate_singleton, splitCommas_of_not_mem ht]
    · rw [Plan.commas, List.intercalate_cons_of_ne_nil hnil, List.append_assoc]
      exact (splitCommas_append ht _).trans (congrArg (t :: ·) (ih hnil hts))

end Text

/-! ## calls -/

/-- a call with the texts of its arguments -/
structure Call where
  callee : Text
  args : List Text
  deriving DecidableEq, Repr

/-- the call that is all of a line but for the text `lead` before it -/
def call? (lead line : Text) : Option Call := do
  let t ← lead.after? line
  let callee := t.takeWhile (· != '(')
  let t ← Text.after? ['('] (t.dropWhile (· != '('))
  let args := t.takeWhile (· != ')')
  let t ← Text.after? [')', ';'] (t.dropWhile (· != ')'))
  if t = [] then some ⟨callee, Text.splitCommas args⟩ else none

/-- a call is read back from its line -/
theorem call?_line (lead : Text) {callee : Text} {args : List Text} (hcallee : '(' ∉ callee)
    (hne : args ≠ []) (hcomma : ∀ a ∈ args, ',' ∉ a) (hclose : ∀ a ∈ args, ')' ∉ a) :
    call? lead (lead ++ callee ++ ['('] ++ Plan.commas args ++ [')', ';'])
      = some ⟨callee, args⟩ := by
  have hargs : ')' ∉ Plan.commas args := by
    intro h
    rcases mem_intercalate h with h | ⟨a, ha, h⟩
    · exact absurd h (by decide)
    · exact hclose a ha h
  have hopen : ∀ r, StopsAt (· != '(') (['('] ++ r) := fun r => stopsAt_cons (by decide) r
  have hshut : ∀ r, StopsAt (· != ')') ([')', ';'] ++ r) :=
    fun r => stopsAt_cons (by decide) (';' :: r)
  have hline : lead ++ callee ++ ['('] ++ Plan.commas args ++ [')', ';']
      = lead ++ (callee ++ (['('] ++ (Plan.commas args ++ ([')', ';'] ++ [])))) := by
    simp only [List.append_assoc, List.append_nil]
  rw [hline]
  simp only [call?, Text.after?_append, Option.bind_eq_bind, Option.bind_some,
    takeWhile_append_of_stopsAt (bne_of_not_mem hcallee) (hopen _),
    dropWhile_append_of_stopsAt (bne_of_not_mem hcallee) (hopen _),
    takeWhile_append_of_stopsAt (bne_of_not_mem hargs) (hshut _),
    dropWhile_append_of_stopsAt (bne_of_not_mem hargs) (hshut _), if_true,
    Text.splitCommas_commas hne hcomma]

theorem call?_of_after?_none {lead line : Text} (h : lead.after? line = none) :
    call? lead line = none := by
  rw [call?, h]
  rfl

/-- a line without a closing parenthesis is no call -/
theorem call?_of_not_mem (lead : Text) {line : Text} (h : ')' ∉ line) : call? lead line = none := by
  rw [Option.eq_none_iff_forall_ne_some]
  intro x hx
  simp only [call?, Option.bind_eq_bind, Option.bind_eq_some_iff, Text.after?_eq_some_iff] at hx
  obtain ⟨t1, h1, t2, h2, t3, h3, _⟩ := hx
  have hm2 : ')' ∈ t2 := by
    refine (List.dropWhile_sublist (· != ')')).mem ?_
    rw [h3]
    exact List.mem_cons_self
  have hm1 : ')' ∈ t1 := by
    refine (List.dropWhile_sublist (· != '(')).mem ?_
    rw [h2]
    exact List.mem_append_right _ hm2
  rw [h1] at h
  exact h (List.mem_append_right lead hm1)

/-! ## initialisers -/

/-- the initialiser that is all of a line: the field that it fills, and the value -/
def init? (line : Text) : Option (Text × Text) := do
  let t ← Text.after? "            ." line
  let field := t.takeWhile (· != ' ')
  let t ← Text.after? " = " (t.dropWhile (· != ' '))
  let value := t.takeWhile (· != ',')
  let t ← Text.after? [','] (t.dropWhile (· != ','))
  if t = [] then some (field, value) else none

/-- an initialiser is read back from its line -/
theorem init?_initLine {i : Text × Text} (hfield : ' ' ∉ i.1) (hvalue : ',' ∉ i.2) :
    init? (Plan.initLine i) = some i := by
  have hspace : ∀ r, StopsAt (· != ' ') ((" = " : Text) ++ r) :=
    fun r => stopsAt_cons (x := ' ') (by decide) _
  have hcomma : ∀ r, StopsAt (· != ',') ([','] ++ r) := fun r => stopsAt_cons (by decide) r
  have hline : Plan.initLine i
      = ("            ." : Text) ++ (i.1 ++ ((" = " : Text) ++ (i.2 ++ ([','] ++ [])))) := by
    unfold Plan.initLine
    simp only [List.append_assoc]
    rfl
  rw [hline]
  simp only [init?, Text.after?_append, Option.bind_eq_bind, Option.bind_some,
    takeWhile_append_of_stopsAt (bne_of_not_mem hfield) (hspace _),
    dropWhile_append_of_stopsAt (bne_of_not_mem hfield) (hspace _),
    takeWhile_append_of_stopsAt (bne_of_not_mem hvalue) (hcomma _),
    dropWhile_append_of_stopsAt (bne_of_not_mem hvalue) (hcomma _), if_true]

/-- a line that ends otherwise than with a comma is no initialiser -/
theorem init?_of_getLast? {line : Text} {c : Char} (h : line.getLast? = some c) (hc : c ≠ ',') :
    init? line = none := by
  rw [Option.eq_none_iff_forall_ne_some]
  intro x hx
  simp only [init?, Option.bind_eq_bind, Option.bind_eq_some_iff, Text.after?_eq_some_iff] at hx
  obtain ⟨t1, h1, t2, h2, t3, h3, h4⟩ := hx
  split at h4
  · next hnil =>
    rw [hnil, List.append_nil] at h3
    have hs2 : [','] <:+ t2 := h3 ▸ List.dropWhile_suffix (· != ',')
    have hs1 : t2 <:+ t1 := (h2 ▸ List.suffix_append _ t2).trans (List.dropWhile_suffix (· != ' '))
    have hs0 : t1 <:+ line := h1 ▸ List.suffix_append _ t1
    obtain ⟨r, rfl⟩ := (hs2.trans hs1).trans hs0
    rw [List.getLast?_concat] at h
    exact hc (Option.some.inj h).symm
  · cases h4

/-! ## blocks -/

theorem filterMap_map_of_some {α β : Type} {f : α → β} {g : β → Option α} {l : List α}
    (h : ∀ a ∈ l, g (f a) = some a) : (l.map f).filterMap g = l := by
  rw [List.filterMap_map]
  exact (List.filterMap_congr h).trans List.filterMap_some

/-- the line that opens the branch of a bridge that already runs in a coroutine -/
def branchLine : Text := "    if (qemu_in_coroutine()) \x7b"

/-- the call whose result the entry point in a block keeps -/
def entryCall? (block : Text) : Option Call :=
  (block.splitOn '\n').findSome? (call? "    s->poll_state.ret = ")

/-- the call whose result the bridge in a block returns if it already runs in a coroutine -/
def directCall? (block : Text) : Option Call :=
  ((block.splitOn '\n').dropWhile (· != branchLine)).findSome? (call? "        return ")

/-- the initialisers in a block, in order -/
def initsOf (block : Text) : List (Text × Text) := (block.splitOn '\n').filterMap init?

theorem findSome?_append_cons {α β : Type} {f : α → Option β} {a b : List α} {x : α} {y : β}
    (ha : ∀ z ∈ a, f z = none) (hx : f x = some y) : (a ++ x :: b).findSome? f = some y := by
  rw [List.findSome?_append, List.findSome?_eq_none_iff.2 ha, Option.none_or, List.findSome?_cons,
    hx]

namespace Planned
variable {d : Decl} {p : Plan}

/-- a character that no name has, is not in the names of a block -/
theorem not_mem_coroutine (h : Planned d p) (hd : d.Found) {c : Char} (hc : isNameChar c = false) :
    c ∉ p.coroutine := by
  intro hm
  rw [h.mem_coroutine hd c hm] at hc
  cases hc

theorem not_mem_context (h : Planned d p) (hd : d.Found) {c : Char} (hc : c.isAlphanum = false) :
    c ∉ p.context := by
  intro hm
  rw [isAlphanum_of_mem_camel (h.mem_coroutine hd) c hm] at hc
  cases hc

theorem not_mem_name (h : Planned d p) (hd : d.Found) {c : Char} (hc : isNameChar c = false) :
    ∀ q ∈ p.params, c ∉ q.name := by
  intro q hq hm
  rw [(hd.written q (h.params_eq ▸ hq)).mem_name hm] at hc
  cases hc

theorem params_ne_nil (h : Planned d p) : p.params ≠ [] := by
  obtain ⟨q, qs, hparams, _⟩ := h.first
  rw [h.params_eq, hparams]
  exact List.cons_ne_nil q qs

/-- a name with a text before it, where it is written in a list of arguments -/
theorem not_mem_entryArgs (h : Planned d p) (hd : d.Found) {c : Char}
    (hc : isNameChar c = false) (hs : c ∉ ("s->" : Text)) : ∀ a ∈ p.entryArgs, c ∉ a :=
  List.forall_mem_map.2 fun q hq hm =>
    (List.mem_append.1 hm).elim hs (h.not_mem_name hd hc q hq)

theorem not_mem_directArgs (h : Planned d p) (hd : d.Found) {c : Char}
    (hc : isNameChar c = false) : ∀ a ∈ p.directArgs, c ∉ a :=
  List.forall_mem_map.2 (h.not_mem_name hd hc)

/-- the lines of a block above the call in the entry point -/
theorem call?_eq_none_above (h : Planned d p) (hd : d.Found) :
    ∀ l ∈ p.titleLines ++ [[]] ++ p.contextLines ++ [[]] ++ p.entryLines.take 4,
      call? "    s->poll_state.ret = " l = none := by
  have hfield : ∀ decl ∈ p.fields, call? "    s->poll_state.ret = " (Plan.fieldLine decl) = none := by
    refine List.forall_mem_map.2 fun q hq => call?_of_not_mem _ ?_
    have hq' := hd.no_close q (h.params_eq ▸ hq)
    simp [Plan.fieldLine, hq']
  have hself : call? "    s->poll_state.ret = " ("    " ++ p.context ++ " *s = opaque;") = none := by
    have hctx := h.not_mem_context hd (c := ')') (by decide)
    exact call?_of_not_mem _ (by simp [hctx])
  simp only [Plan.titleLines, Plan.contextLines, Plan.contextHead, Plan.entryLines,
    List.take_succ_cons, List.take_zero, List.forall_mem_append, List.forall_mem_cons,
    List.forall_mem_map, List.not_mem_nil, false_implies, implies_true, and_true]
  and_intros
  all_goals first
    | exact hfield
    | exact hself
    | exact call?_of_after?_none rfl

/-- the entry point calls the coroutine with the fields of the context -/
theorem entryCall?_block (h : Planned d p) (hd : d.Found) :
    entryCall? p.block = some ⟨p.coroutine, p.entryArgs⟩ := by
  have hargs : p.entryArgs ≠ [] := mt List.map_eq_nil_iff.1 h.params_ne_nil
  have hcall := call?_line "    s->poll_state.ret = "
    (h.not_mem_coroutine hd (c := '(') (by decide)) hargs
    (h.not_mem_entryArgs hd (by decide) (by decide))
    (h.not_mem_entryArgs hd (by decide) (by decide))
  have hlines : p.lines = (p.titleLines ++ [[]] ++ p.contextLines ++ [[]] ++ p.entryLines.take 4)
      ++ ("    s->poll_state.ret = " ++ p.coroutine ++ ['('] ++ Plan.commas p.entryArgs ++ [')', ';'])
        :: (p.entryLines.drop 5 ++ [[]] ++ p.bridgeLines) := by
    unfold Plan.lines Plan.entryLines
    simp only [List.take_succ_cons, List.take_zero, List.drop_succ_cons, List.drop_zero,
      List.append_assoc, List.cons_append, List.nil_append]
    rfl
  rw [entryCall?, h.splitOn_block hd, hlines]
  exact findSome?_append_cons (h.call?_eq_none_above hd) hcall

/-- no line above the branch is the one that opens it -/
theorem ne_branchLine_above (p : Plan) :
    ∀ l ∈ p.linesAbove ++ [p.signature, "\x7b"], (l != branchLine) = true := by
  have hlast : ∀ l : Text, l.getLast? = some ';' → (l != branchLine) = true := by
    intro l h
    rw [bne_iff_ne]
    rintro rfl
    exact absurd h (by decide)
  have hfield : ∀ decl : Text, (Plan.fieldLine decl != branchLine) = true := fun decl =>
    hlast _ (by unfold Plan.fieldLine; rw [List.getLast?_append]; rfl)
  have hself : ∀ l : Text, ("    " ++ l ++ " *s = opaque;" != branchLine) = true := fun l =>
    hlast _ (by rw [List.getLast?_append]; rfl)
  simp only [Plan.linesAbove, Plan.titleLines, Plan.contextLines, Plan.contextHead,
    Plan.entryLines, List.forall_mem_append, List.forall_mem_cons, List.forall_mem_map, hfield,
    hself, List.not_mem_nil, false_implies, implies_true, and_true, true_and]
  and_intros <;> rfl

/-- the lines of a block from the branch on -/
theorem dropWhile_lines (p : Plan) : p.lines.dropWhile (· != branchLine)
    = branchLine
      :: ("        return " ++ p.coroutine ++ ['('] ++ Plan.commas p.directArgs ++ [')', ';'])
      :: p.linesBelow.drop 3 := by
  have hlines : p.lines = (p.linesAbove ++ [p.signature, "\x7b"]) ++ branchLine
      :: ("        return " ++ p.coroutine ++ ['('] ++ Plan.commas p.directArgs ++ [')', ';'])
        :: p.linesBelow.drop 3 := by
    rw [p.lines_eq]
    unfold Plan.linesBelow Plan.bridgeHead
    simp only [List.tail_cons, List.drop_succ_cons, List.drop_zero, List.append_assoc,
      List.cons_append, List.nil_append]
    rfl
  have hstop : ∀ r, StopsAt (· != branchLine) (branchLine :: r) :=
    fun r => stopsAt_cons (by simp) r
  rw [hlines, dropWhile_append_of_stopsAt (ne_branchLine_above p) (hstop _)]

/-- the bridge calls the coroutine with its parameters if it already runs in one -/
theorem directCall?_block (h : Planned d p) (hd : d.Found) :
    directCall? p.block = some ⟨p.coroutine, p.directArgs⟩ := by
  have hargs : p.directArgs ≠ [] := mt List.map_eq_nil_iff.1 h.params_ne_nil
  have hcall := call?_line "        return "
    (h.not_mem_coroutine hd (c := '(') (by decide)) hargs
    (h.not_mem_directArgs hd (by decide)) (h.not_mem_directArgs hd (by decide))
  have hbranch : call? "        return " branchLine = none := call?_of_after?_none rfl
  rw [directCall?, h.splitOn_block hd, dropWhile_lines]
  exact findSome?_append_cons (a := [branchLine]) (List.forall_mem_singleton.2 hbranch) hcall

theorem space_not_mem_field (h : Planned d p) (hd : d.Found) : ∀ i ∈ p.inits, ' ' ∉ i.1 := by
  have hpoll : ∀ i ∈ p.pollInits, ' ' ∉ i.1 := by simp [Plan.pollInits]
  have hparam : ∀ i ∈ p.paramInits, ' ' ∉ i.1 :=
    List.forall_mem_map.2 (h.not_mem_name hd (by decide))
  exact List.forall_mem_append.2 ⟨hpoll, hparam⟩

theorem comma_not_mem_owner (h : Planned d p) (hd : d.Found) : ',' ∉ p.owner := by
  obtain ⟨q, qs, hparams, _, hsub⟩ := h.first
  have hname : ',' ∉ p.subject := by
    rw [hsub]
    exact h.not_mem_name hd (by decide) q (by rw [h.params_eq, hparams]; exact List.mem_cons_self)
  rw [Plan.owner]
  cases p.handle with
  | direct => exact hname
  | child => simp [Handle.owner, hname]

theorem comma_not_mem_value (h : Planned d p) (hd : d.Found) : ∀ i ∈ p.inits, ',' ∉ i.2 := by
  have hpoll : ∀ i ∈ p.pollInits, ',' ∉ i.2 := by
    simp [Plan.pollInits, h.comma_not_mem_owner hd]
  have hparam : ∀ i ∈ p.paramInits, ',' ∉ i.2 :=
    List.forall_mem_map.2 (h.not_mem_name hd (by decide))
  exact List.forall_mem_append.2 ⟨hpoll, hparam⟩

/-- the lines of a block other than its initialisers -/
theorem init?_eq_none_of_mem (p : Plan) :
    ∀ l ∈ p.titleLines ++ [[]] ++ p.contextLines ++ [[]] ++ p.entryLines ++ [[]] ++ p.bridgeHead
      ++ [[]] ++ p.bridgeTail, init? l = none := by
  have hfield : ∀ decl : Text, init? (Plan.fieldLine decl) = none := fun decl =>
    init?_of_getLast? (c := ';') (by unfold Plan.fieldLine; rw [List.getLast?_append]; rfl)
      (by decide)
  have hself : ∀ l : Text, init? ("    " ++ l ++ " *s = opaque;") = none := fun l =>
    init?_of_getLast? (c := ';') (by rw [List.getLast?_append]; rfl) (by decide)
  have hopen : ∀ l : Text, init? ("        " ++ l ++ " s = \x7b") = none := fun l =>
    init?_of_getLast? (c := '\x7b') (by rw [List.getLast?_append]; rfl) (by decide)
  simp only [Plan.titleLines, Plan.contextLines, Plan.contextHead, Plan.entryLines,
    Plan.bridgeHead, Plan.bridgeTail, List.forall_mem_append, List.forall_mem_cons,
    List.forall_mem_map, hfield, hself, hopen, List.not_mem_nil, false_implies, implies_true,
    and_true, true_and]
  and_intros <;> rfl

/-- the bridge fills the context with what the plan says -/
theorem initsOf_block (h : Planned d p) (hd : d.Found) : initsOf p.block = p.inits := by
  have hinit : ∀ i ∈ p.inits, init? (Plan.initLine i) = some i := fun i hi =>
    init?_initLine (h.space_not_mem_field hd i hi) (h.comma_not_mem_value hd i hi)
  obtain ⟨hpoll, hparam⟩ := List.forall_mem_append.1 hinit
  have hnone := init?_eq_none_of_mem p
  simp only [List.forall_mem_append, and_assoc] at hnone
  obtain ⟨h1, h2, h3, _, h5, _, h7, _, h9⟩ := hnone
  have hlines : p.lines = p.titleLines ++ ([[]] ++ (p.contextLines ++ ([[]] ++ (p.entryLines
      ++ ([[]] ++ (p.bridgeHead ++ (p.pollInits.map Plan.initLine ++ ([[]]
      ++ (p.paramInits.map Plan.initLine ++ p.bridgeTail))))))))) := by
    simp only [Plan.lines, Plan.bridgeLines, List.append_assoc]
  rw [initsOf, h.splitOn_block hd, hlines]
  simp only [List.filterMap_append, List.filterMap_eq_nil_iff.2 h1, List.filterMap_eq_nil_iff.2 h2,
    List.filterMap_eq_nil_iff.2 h3, List.filterMap_eq_nil_iff.2 h5, List.filterMap_eq_nil_iff.2 h7,
    List.filterMap_eq_nil_iff.2 h9, filterMap_map_of_some hpoll, filterMap_map_of_some hparam,
    List.nil_append, List.append_nil]
  rfl

end Planned
end CoroBridge
