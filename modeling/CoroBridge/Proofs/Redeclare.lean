import CoroBridge.Proofs.FileText
import CoroBridge.Proofs.Listing

/-!
# Redeclaring: the signatures of a generated file, declared again

A file holds the signature of every bridge on a line of its own.  Marked and declared again, the
signatures make a text from which the same file comes.

* `isSignature`, `signatures`   the lines of a file that are signatures of bridges;
* `redeclared`                  these, as a text of marked declarations;
* `signatures_assemble`         the signatures of a file are those of its plans, in order;
* `Plan.statement`              the marked statement that declares the bridge of a plan again;
* `generate_redeclared`         the text declares what the file was made from, and makes the file
                                again.
-/

namespace CoroBridge

/-! ## signatures -/

/-- what the signature of every bridge begins with -/
def signatureStem : Text := "int bdrv_"

/-- whether a line is the signature of a bridge -/
def isSignature (l : Text) : Bool := signatureStem.isPrefixOf l && l.getLast? == some ')'

/-- the signatures in a file, in order -/
def signatures (file : Text) : List Text := file.lines.filter isSignature

/-- a signature as a marked declaration on a line of its own -/
def redeclare (sig : Text) : Text := "int generated_co_wrapper " ++ sig.drop 4 ++ ";\n"

/-- the text that declares the bridges of a file again -/
def redeclared (file : Text) : Text := (signatures file).flatMap redeclare

/-- a line that begins with another letter is no signature -/
theorem isSignature_chomp_eq_false {l : Text} (h : l.head? ≠ some 'i') :
    isSignature l.chomp = false := by
  rw [Bool.eq_false_iff]
  intro hsig
  rw [isSignature, Bool.and_eq_true, List.isPrefixOf_iff_prefix] at hsig
  obtain ⟨r, hr⟩ := hsig.1.trans (Text.chomp_prefix l)
  rw [← hr] at h
  exact h rfl

theorem signatures_nil_of_head {ls : List Text} (h : ∀ l ∈ ls, l.head? ≠ some 'i') :
    (ls.map Text.chomp).filter isSignature = [] := by
  rw [List.filter_eq_nil_iff]
  refine List.forall_mem_map.2 fun l hl => ?_
  rw [isSignature_chomp_eq_false (h l hl)]
  decide

theorem signatures_headerLines (generator : Text) :
    ((headerLines generator).map Text.chomp).filter isSignature = [] :=
  signatures_nil_of_head fun l hl hi =>
    absurd (head?_of_mem_headerLines generator l hl _ hi) (by decide)

/-! ## blocks -/

theorem Plan.getLast?_signature (p : Plan) : p.signature.getLast? = some ')' := by
  rw [Plan.signature, List.getLast?_append]
  rfl

theorem Planned.isSignature_signature {d : Decl} {p : Plan} (h : Planned d p) :
    isSignature p.signature = true := by
  have hint : signatureStem = statusType ++ " " ++ wrapperStem := rfl
  obtain ⟨r, hr, _⟩ := h.stem
  rw [isSignature, p.getLast?_signature, Bool.and_eq_true, List.isPrefixOf_iff_prefix]
  refine ⟨⟨r ++ "(" ++ Plan.commas p.fields ++ ")", ?_⟩, by decide⟩
  rw [Plan.signature, h.wrapper_eq, hr, hint]
  simp only [List.append_assoc]

/-- the one signature in a block is that of its bridge -/
theorem Planned.signatures_lines {d : Decl} {p : Plan} (h : Planned d p) :
    (p.lines.map Text.chomp).filter isSignature = [p.signature] := by
  have hchomp : p.signature.chomp = p.signature :=
    Text.chomp_of_ne (by rw [p.getLast?_signature]; decide)
  rw [p.lines_eq, List.map_append, List.map_cons, List.filter_append,
    signatures_nil_of_head p.head?_of_mem_linesAbove, hchomp,
    List.filter_cons_of_pos h.isSignature_signature,
    signatures_nil_of_head p.head?_of_mem_linesBelow, List.nil_append]

/-- the signatures in a file are those of its plans -/
theorem signatures_assemble {generator : Text} {ps : List Plan} (hgen : '\n' ∉ generator)
    (hplanned : ∀ p ∈ ps, Planned p.wrapper p) (hfound : ∀ p ∈ ps, p.wrapper.Found) :
    signatures (assemble generator (ps.map Plan.block)) = ps.map Plan.signature := by
  have hfeed : ∀ p ∈ ps, ∀ l ∈ p.lines, '\n' ∉ l := fun p hp l hl =>
    Text.feed_not_mem ((hplanned p hp).oneLine_of_mem_lines (hfound p hp) l hl)
  have hblock : ∀ p ∈ ps, (([] :: [] :: p.lines).map Text.chomp).filter isSignature
      = [p.signature] := fun p hp => (hplanned p hp).signatures_lines
  rw [signatures, lines_assemble hgen hfeed, fileLines, List.map_append, List.filter_append,
    signatures_headerLines, List.nil_append, List.map_flatMap, List.filter_flatMap,
    List.flatMap_congr hblock, ← List.map_eq_flatMap]

/-! ## statements -/

/-- the marked statement that declares the bridge of a plan again -/
def Plan.statement (p : Plan) : Statement := ⟨[' '], [' '], p.wrapper.name, commas p.fields⟩

theorem redeclare_signature (p : Plan) :
    redeclare p.signature = p.statement.text .wrapper ++ ['\n'] := by
  have hdrop : p.signature.drop 4 = p.wrapper.name ++ "(" ++ Plan.commas p.fields ++ ")" := by
    unfold Plan.signature
    rfl
  have hhead : ("int generated_co_wrapper " : Text)
      = statusType ++ [' '] ++ Marker.wrapper.word ++ [' '] := rfl
  unfold redeclare
  rw [hdrop, hhead]
  simp [Statement.text, Plan.statement]

/-- fragments with a comma and a space between are fragments with a comma between, of which all but
the first one begin with a space -/
theorem commas_cons (t : Text) (ts : List Text) :
    Plan.commas (t :: ts) = List.intercalate [','] (t :: ts.map (' ' :: ·)) := by
  rw [Plan.commas, intercalate_cons, intercalate_cons, List.flatMap_map]
  rfl

theorem isBlank_of_mem_space : ∀ c ∈ [' '], isBlank c = true :=
  List.forall_mem_singleton.2 (by decide)

theorem Plan.statement_wellFormed {p : Plan} (hd : p.wrapper.Found) : p.statement.WellFormed := by
  refine ⟨isBlank_of_mem_space, isBlank_of_mem_space, hd.name_isName, fun hc => ?_⟩
  rcases mem_intercalate hc with hc | ⟨f, hf, hc⟩
  · exact absurd hc (by decide)
  · obtain ⟨q, hq, rfl⟩ := List.mem_map.1 hf
    exact hd.no_close q hq hc

/-- the statement declares the bridge as it was declared -/
theorem Plan.statement_decl {p : Plan} (h : Planned p.wrapper p) (hd : p.wrapper.Found) :
    p.statement.decl = .ok p.wrapper := by
  obtain ⟨q, qs, hparams, _, _⟩ := h.first
  have hfields : commas p.fields
      = List.intercalate [','] (q.decl :: qs.map (' ' :: Param.decl ·)) := by
    rw [fields, h.params_eq, hparams, List.map_cons, commas_cons, List.map_map]
    rfl
  have hcomma : ∀ g ∈ q.decl :: qs.map (' ' :: Param.decl ·), ',' ∉ g := by
    have hno := hd.no_comma
    rw [hparams, List.forall_mem_cons] at hno
    refine List.forall_mem_cons.2 ⟨hno.1, List.forall_mem_map.2 fun x hx hc => ?_⟩
    rcases List.mem_cons.1 hc with hc | hc
    · exact absurd hc (by decide)
    · exact hno.2 x hx hc
  have htidy : List.Forall₂ (fun g x => x.Written ∧ g.tidy = x.decl)
      (q.decl :: qs.map (' ' :: Param.decl ·)) (q :: qs) := by
    have hw := hd.written
    rw [hparams, List.forall_mem_cons] at hw
    refine .cons ⟨hw.1, hw.1.tidy_decl⟩ (List.forall₂_map_left_iff.2 ?_)
    refine List.forall₂_same.2 fun x hx => ⟨hw.2 x hx, ?_⟩
    exact (Text.tidy_blank_append isBlank_of_mem_space x.decl).trans (hw.2 x hx).tidy_decl
  rw [statement, Statement.decl, hfields,
    Decl.read_intercalate _ _ (List.cons_ne_nil _ _) hcomma htidy, trim_of_isName hd.name_isName,
    ← hparams]
  have hresult : statusType.trim = p.wrapper.result := by
    rw [hd.result_eq]
    decide
  rw [hresult]

/-- the statement is on one line -/
theorem Plan.oneLine_statement {p : Plan} (h : Planned p.wrapper p) (hd : p.wrapper.Found) :
    (p.statement.text .wrapper).oneLine = true := by
  have htext : p.statement.text .wrapper = statusType ++ [' '] ++ Marker.wrapper.word ++ [' ']
      ++ p.wrapper.name ++ (['('] ++ commas p.fields) ++ [')', ';'] := rfl
  simp only [htext, Text.oneLine_append, h.oneLine_wrapperName hd, h.oneLine_fields hd]
  rfl

/-- the signatures of a file, declared again, are the listing of its plans' statements -/
theorem redeclared_assemble {generator : Text} {ps : List Plan} (hgen : '\n' ∉ generator)
    (hplanned : ∀ p ∈ ps, Planned p.wrapper p) (hfound : ∀ p ∈ ps, p.wrapper.Found) :
    redeclared (assemble generator (ps.map Plan.block))
      = Marker.wrapper.listing (ps.map Plan.statement) := by
  rw [redeclared, signatures_assemble hgen hplanned hfound, List.flatMap_map, Marker.listing,
    List.flatMap_map]
  simp only [redeclare_signature]

/-! ## runs -/

/-- where no coroutine is declared, a bridge has nothing to be compared with -/
theorem Bridged.of_no_coroutine {config : Config} {t t' : Text} {x : Except Fault Decl} {b : Text}
    (h : Bridged config t x b) (hnone : Marker.coroutine.sites t' = []) :
    Bridged config t' x b := by
  cases h with
  | intro hplan hblock hname _ =>
    exact .intro hplan hblock hname fun _ c hc =>
      absurd hc (not_firstKnown (ok_not_mem_decls hnone) _ c)

/-- **The signatures of a generated file, declared again, make the same file.**  If a file comes of
a text, then the signatures of the file, marked and declared again, are a text in which the same
declarations are found as in the first one, all and in order, and of which the same file comes. -/
theorem generate_redeclared {config : Config} {t out : Text} (hgen : '\n' ∉ config.generator)
    (h : (generate config t).outcome = .ok out) :
    (∃ ds : List Decl, Marker.wrapper.decls t = ds.map .ok ∧
      Marker.wrapper.decls (redeclared out) = ds.map .ok) ∧
    (generate config (redeclared out)).outcome = .ok out := by
  obtain ⟨blocks, hblocks, rfl⟩ := outcome_generate_ok_iff.1 h
  obtain ⟨ps, hdecls, rfl, hplanned⟩ := plans_of_bridged hblocks
  have hfound : ∀ p ∈ ps, p.wrapper.Found := fun p hp =>
    Marker.found_of_mem_decls (t := t) (hdecls ▸ List.mem_map_of_mem hp)
  have hwell : ∀ s ∈ ps.map Plan.statement, s.WellFormed :=
    List.forall_mem_map.2 fun p hp => Plan.statement_wellFormed (hfound p hp)
  have hline : ∀ s ∈ ps.map Plan.statement, (s.text .wrapper).oneLine = true :=
    List.forall_mem_map.2 fun p hp => Plan.oneLine_statement (hplanned p hp) (hfound p hp)
  have hagain : Marker.wrapper.decls (redeclared (assemble config.generator (ps.map Plan.block)))
      = ps.map fun p => .ok p.wrapper := by
    rw [redeclared_assemble hgen hplanned hfound, Marker.decls_listing _ hwell, List.map_map]
    exact List.map_congr_left fun p hp => Plan.statement_decl (hplanned p hp) (hfound p hp)
  have hnone : Marker.coroutine.sites (redeclared (assemble config.generator (ps.map Plan.block)))
      = [] := by
    rw [redeclared_assemble hgen hplanned hfound]
    exact Marker.sites_listing_of_ne (by decide) hwell hline
  refine ⟨⟨ps.map Plan.wrapper, ?_, ?_⟩, outcome_generate_ok_iff.2 ⟨ps.map Plan.block, ?_, rfl⟩⟩
  · rw [hdecls, List.map_map]
    rfl
  · rw [hagain, List.map_map]
    rfl
  · rw [hagain, ← hdecls]
    exact hblocks.imp fun x b hx => hx.of_no_coroutine hnone

/-- the plan for a bridge that takes no more than its handle -/
def flushPlan : Plan :=
  ⟨⟨"int", "bdrv_flush", [⟨"BlockDriverState *bs", "BlockDriverState *", "bs"⟩]⟩,
    "bdrv_co_flush", .direct, "bs"⟩

/-- the plan for a bridge with several parameters -/
def readingPlan : Plan :=
  ⟨⟨"int", "bdrv_pread", [⟨"BdrvChild *child", "BdrvChild *", "child"⟩,
    ⟨"int64_t offset", "int64_t ", "offset"⟩, ⟨"const void *buf", "const void *", "buf"⟩]⟩,
    "bdrv_co_pread", .child, "child"⟩

/-- a text that declares one bridge twice, and on three lines another one between them -/
def listedText : Text :=
  "int generated_co_wrapper bdrv_flush(BlockDriverState *bs);\n"
    ++ "int generated_co_wrapper bdrv_pread(BdrvChild *child,\n    int64_t\toffset,\n"
    ++ "    const  void *buf);\nint generated_co_wrapper bdrv_flush(BlockDriverState *bs);\n"

/-- the plans for its bridges -/
def listedPlans : List Plan := [flushPlan, readingPlan, flushPlan]

/-- the file for it -/
def listedFile : Text := assemble "co-wrapper" (listedPlans.map Plan.block)

theorem decls_listedText :
    Marker.wrapper.decls listedText = listedPlans.map fun p => .ok p.wrapper := by decide +kernel

theorem outcome_generate_listedText : (generate {} listedText).outcome = .ok listedFile := by
  have hplan : ∀ p ∈ listedPlans, p.wrapper.plan = .ok p := by decide +kernel
  have hnone : Marker.coroutine.sites listedText = [] := by decide +kernel
  exact outcome_generate_of_plans listedPlans decls_listedText hplan (ok_not_mem_decls hnone)

theorem generate_redeclared_listed :
    '\n' ∉ ({} : Config).generator ∧
    (generate {} listedText).outcome = .ok listedFile ∧
    Marker.wrapper.decls listedText = listedPlans.map (fun p => .ok p.wrapper) ∧
    Marker.wrapper.decls (redeclared listedFile) = listedPlans.map (fun p => .ok p.wrapper) ∧
    (generate {} (redeclared listedFile)).outcome = .ok listedFile := by
  have hgen : '\n' ∉ ({} : Config).generator := by decide +kernel
  obtain ⟨⟨ds, hds, hagain⟩, hfile⟩ := generate_redeclared hgen outcome_generate_listedText
  rw [decls_listedText] at hds
  exact ⟨hgen, outcome_generate_listedText, decls_listedText, hagain.trans hds.symm, hfile⟩

end CoroBridge
