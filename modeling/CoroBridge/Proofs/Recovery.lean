import CoroBridge.Proofs.Readback

/-!
# Recovery: the parameters in the text of a block

A block writes its parameters in five places.  Each of them can be read without the plan that the
block was written from, and each gives all parameters in order.

* `field?`, `fieldsOf`     the declarations in the context structure, from its second field on;
* `prototype?`, `signatureOf?`   the function that a block defines for callers: its name, and the
                           texts of its parameters;
* `memberInitsOf`          the initialisers that fill a member of the context itself;
* `Planned.fieldsOf_block`, `Planned.signatureOf?_block`, `Planned.memberInitsOf_block`   what they
                           find in the block of a plan;
* `block_recovers_params`  all five places give the parameters of the declaration.
-/

namespace CoroBridge

/-! ## fields -/

/-- the line of the first field of every context -/
def pollStateLine : Text := "    BdrvPollCo poll_state;"

/-- the declaration on the line of a field -/
def field? (line : Text) : Option Text := do
  let t ← Text.after? "    " line
  if t.getLast? = some ';' then some t.dropLast else none

/-- the declarations on the lines that follow the first field of a context, up to the first line
that declares no field -/
def fieldsOf (block : Text) : List Text :=
  let below := ((block.splitOn '\n').dropWhile (· != pollStateLine)).tail
  (below.takeWhile fun l => (field? l).isSome).filterMap field?

theorem field?_fieldLine (decl : Text) : field? (Plan.fieldLine decl) = some decl := by
  have hline : Plan.fieldLine decl = ("    " : Text) ++ (decl ++ [';']) := by
    unfold Plan.fieldLine
    rw [List.append_assoc]
    rfl
  rw [hline]
  simp only [field?, Text.after?_append, Option.bind_eq_bind, Option.bind_some,
    List.getLast?_concat, List.dropLast_concat, if_true]

namespace Planned
variable {d : Decl} {p : Plan}

/-- the context in a block has a field for each parameter after its first one -/
theorem fieldsOf_block (h : Planned d p) (hd : d.Found) : fieldsOf p.block = p.fields := by
  have hlines : p.lines = (p.titleLines ++ [[]] ++ p.contextHead.take 1)
      ++ pollStateLine :: (p.fields.map Plan.fieldLine ++ ("\x7d " ++ p.context ++ ";")
        :: ([] :: p.entryLines ++ [[]] ++ p.bridgeLines)) := by
    unfold Plan.lines Plan.contextLines Plan.contextHead
    simp only [List.take_succ_cons, List.take_zero, List.append_assoc, List.cons_append,
      List.nil_append]
    rfl
  have habove : ∀ l ∈ p.titleLines ++ [[]] ++ p.contextHead.take 1, (l != pollStateLine) = true := by
    simp only [Plan.titleLines, Plan.contextHead, List.take_succ_cons, List.take_zero,
      List.forall_mem_append, List.forall_mem_cons, List.not_mem_nil, false_implies,
      implies_true, and_true]
    and_intros <;> rfl
  have hfirst : ∀ r, StopsAt (· != pollStateLine) (pollStateLine :: r) :=
    fun r => stopsAt_cons (by simp) r
  have hfield : ∀ l ∈ p.fields.map Plan.fieldLine, (field? l).isSome = true :=
    List.forall_mem_map.2 fun decl _ => by rw [field?_fieldLine]; rfl
  have hclose : ∀ r, StopsAt (fun l => (field? l).isSome) (("\x7d " ++ p.context ++ ";") :: r) :=
    fun r => stopsAt_cons (by rfl) r
  rw [fieldsOf, h.splitOn_block hd, hlines, dropWhile_append_of_stopsAt habove (hfirst _),
    List.tail_cons, takeWhile_append_of_stopsAt hfield (hclose _)]
  exact filterMap_map_of_some fun decl _ => field?_fieldLine decl

end Planned

/-! ## signatures -/

/-- the function whose signature a line is: a semicolon would make a declaration of it -/
def prototype? (line : Text) : Option Call := call? (statusType ++ " ") (line ++ [';'])

/-- the first function in a block that gives a result, with the texts of its parameters -/
def signatureOf? (block : Text) : Option Call := (block.splitOn '\n').findSome? prototype?

/-- a line that begins with another letter is no signature -/
theorem prototype?_of_head? {l : Text} (h : l.head? ≠ some 'i') : prototype? l = none := by
  have hhead : (l ++ [';']).head? ≠ some 'i' := by
    cases l with
    | nil => decide
    | cons c l => exact h
  exact call?_of_after?_none (Text.after?_eq_none_of_head? hhead)

namespace Planned
variable {d : Decl} {p : Plan}

/-- the parameters of the bridge in a block are written as in its declaration -/
theorem signatureOf?_block (h : Planned d p) (hd : d.Found) :
    signatureOf? p.block = some ⟨d.name, p.fields⟩ := by
  have hne : p.fields ≠ [] := mt List.map_eq_nil_iff.1 h.params_ne_nil
  have hopen : '(' ∉ d.name := fun hc =>
    absurd (isNameChar_of_isName hd.name_isName _ hc) (by decide)
  have hcomma : ∀ f ∈ p.fields, ',' ∉ f :=
    List.forall_mem_map.2 fun q hq => hd.no_comma q (h.params_eq ▸ hq)
  have hclose : ∀ f ∈ p.fields, ')' ∉ f :=
    List.forall_mem_map.2 fun q hq => hd.no_close q (h.params_eq ▸ hq)
  have hsig : prototype? p.signature = some ⟨d.name, p.fields⟩ := by
    have hline : p.signature ++ [';']
        = statusType ++ " " ++ d.name ++ ['('] ++ Plan.commas p.fields ++ [')', ';'] := by
      unfold Plan.signature
      rw [h.wrapper_eq, List.append_assoc]
      rfl
    rw [prototype?, hline]
    exact call?_line _ hopen hne hcomma hclose
  rw [signatureOf?, h.splitOn_block hd, p.lines_eq]
  exact findSome?_append_cons
    (fun l hl => prototype?_of_head? (p.head?_of_mem_linesAbove l hl)) hsig

end Planned

/-! ## initialisers -/

/-- the initialisers in a block that fill a member of the context, not a member of a member -/
def memberInitsOf (block : Text) : List (Text × Text) :=
  (initsOf block).filter fun i => !i.1.contains '.'

namespace Planned
variable {d : Decl} {p : Plan}

/-- the bridge in a block fills one member of the context with each parameter -/
theorem memberInitsOf_block (h : Planned d p) (hd : d.Found) :
    memberInitsOf p.block = p.paramInits := by
  have hpoll : p.pollInits.filter (fun i => !i.1.contains '.') = [] :=
    List.filter_eq_nil_iff.2 (by simp [Plan.pollInits])
  have hparam : ∀ i ∈ p.paramInits, (!i.1.contains '.') = true :=
    List.forall_mem_map.2 fun q hq => by
      simpa using h.not_mem_name hd (c := '.') (by decide) q hq
  rw [memberInitsOf, h.initsOf_block hd, Plan.inits, List.filter_append, hpoll, List.nil_append,
    List.filter_eq_self.2 hparam]

end Planned

/-! ## all places -/

/-- **The parameters can be recovered from a block in five places.**  For a declaration that was
found in a text and keeps the rules, the block has two lines for each parameter and 34 others.  The
fields of the context, the call in the entry point, the signature of the bridge, the call in the
branch for a running coroutine and the initialisers of the context each give the parameters of the
declaration, all and in order; and the text of a field or of a parameter of the bridge declares the
parameter again. -/
theorem block_recovers_params {t : Text} {d : Decl} {p : Plan}
    (hd : .ok d ∈ Marker.wrapper.decls t) (hp : d.plan = .ok p) :
    d.block = .ok p.block ∧
    (p.block.splitOn '\n').length = 34 + 2 * d.params.length ∧
    fieldsOf p.block = d.params.map Param.decl ∧
    entryCall? p.block = some ⟨p.coroutine, d.params.map fun q => "s->" ++ q.name⟩ ∧
    signatureOf? p.block = some ⟨d.name, d.params.map Param.decl⟩ ∧
    directCall? p.block = some ⟨p.coroutine, d.params.map Param.name⟩ ∧
    memberInitsOf p.block = (d.params.map fun q => (q.name, q.name)) ∧
    ∀ q ∈ d.params, Param.parse? q.decl = some q := by
  have hfound := Marker.found_of_mem_decls hd
  have h := Decl.plan_eq_ok_iff.1 hp
  have hblock : d.block = .ok p.block := by rw [Decl.block, hp]; rfl
  have hfields := h.fieldsOf_block hfound
  have hentry := h.entryCall?_block hfound
  have hsig := h.signatureOf?_block hfound
  have hdirect := h.directCall?_block hfound
  have hinits := h.memberInitsOf_block hfound
  rw [Plan.fields, h.params_eq] at hfields hsig
  rw [Plan.entryArgs, h.params_eq] at hentry
  rw [Plan.directArgs, h.params_eq] at hdirect
  rw [Plan.paramInits, h.params_eq] at hinits
  refine ⟨hblock, ?_, hfields, hentry, hsig, hdirect, hinits, fun q hq => ?_⟩
  · rw [h.splitOn_block hfound, p.length_lines, h.params_eq]
  · have hw := hfound.written q hq
    exact Param.parse?_eq_some_iff.2 ⟨hw, hw.tidy_decl⟩

/-- a text that declares one bridge, with tabs and a line break in its parameters -/
def truncateText : Text :=
  "int generated_co_wrapper bdrv_truncate(BdrvChild\t*child, int64_t\toffset, bool\n    exact);\r\n"

/-- the plan for that bridge -/
def truncatePlan : Plan :=
  ⟨⟨"int", "bdrv_truncate", [⟨"BdrvChild *child", "BdrvChild *", "child"⟩,
    ⟨"int64_t offset", "int64_t ", "offset"⟩, ⟨"bool exact", "bool ", "exact"⟩]⟩,
    "bdrv_co_truncate", .child, "child"⟩

theorem block_recovers_params_truncate :
    (.ok truncatePlan.wrapper ∈ Marker.wrapper.decls truncateText ∧
      truncatePlan.wrapper.plan = .ok truncatePlan) ∧
    truncatePlan.wrapper.block = .ok truncatePlan.block ∧
    (truncatePlan.block.splitOn '\n').length = 34 + 2 * 3 ∧
    fieldsOf truncatePlan.block = [("BdrvChild *child" : Text), "int64_t offset", "bool exact"] ∧
    entryCall? truncatePlan.block
      = some ⟨"bdrv_co_truncate", ["s->child", "s->offset", "s->exact"]⟩ ∧
    signatureOf? truncatePlan.block
      = some ⟨"bdrv_truncate", ["BdrvChild *child", "int64_t offset", "bool exact"]⟩ ∧
    directCall? truncatePlan.block = some ⟨"bdrv_co_truncate", ["child", "offset", "exact"]⟩ ∧
    memberInitsOf truncatePlan.block
      = truncatePlan.wrapper.params.map (fun q => (q.name, q.name)) ∧
    ∀ q ∈ truncatePlan.wrapper.params, Param.parse? q.decl = some q := by
  have hdecls : Marker.wrapper.decls truncateText = [.ok truncatePlan.wrapper] := by rfl
  have hd : .ok truncatePlan.wrapper ∈ Marker.wrapper.decls truncateText := by
    rw [hdecls]
    exact List.mem_cons_self
  have hp : truncatePlan.wrapper.plan = .ok truncatePlan := by rfl
  exact ⟨⟨hd, hp⟩, block_recovers_params hd hp⟩

end CoroBridge
