import CoroBridge.Proofs.Camel
import CoroBridge.Proofs.FileText

/-!
# Type definitions: the context structures of a file

Every block defines a structure, of which the name is made from that of the coroutine.  Whether two
blocks define the same one can be seen from the names of their bridges.

* `Text.between?`          what stands on a line between two given texts;
* `structTags`, `typeNames`   the structures that are opened in a text, and the types that are named
                           after a structure;
* `linesBetween_assemble`  what is read from a file is read from its header and its blocks;
* `Planned.structTags_block`, `Planned.typeNames_block`   the one structure of a block;
* `nameKey_coroutineStem_eq_iff`   coroutines have the same parts if and only if their bridges have;
* `contexts_nodup_iff`     the structures of a file are distinct if and only if no two bridges have
                           the same parts.
-/

namespace CoroBridge

/-! ## readers -/

/-- what stands on a line between the texts `pre` and `post`, which make up the rest of it -/
def Text.between? (pre post line : Text) : Option Text := do
  let t ← pre.after? line
  let r ← Text.after? post.reverse t.reverse
  some r.reverse

theorem Text.between?_append (pre n post : Text) :
    Text.between? pre post (pre ++ n ++ post) = some n := by
  simp only [between?, List.append_assoc, Text.after?_append, Option.bind_eq_bind,
    Option.bind_some, List.reverse_append, List.reverse_reverse]

theorem Text.between?_of_after?_none {pre line : Text} (post : Text) (h : pre.after? line = none) :
    Text.between? pre post line = none := by
  rw [between?, h]
  rfl

/-- what stands between the two texts on those lines that have both, in order -/
def linesBetween (pre post t : Text) : List Text :=
  (t.splitOn '\n').filterMap (Text.between? pre post)

/-- the names of the structures that are opened in a text, in order -/
def structTags : Text → List Text := linesBetween "typedef struct " " \x7b"

/-- the names of the types that are given after a structure, in order -/
def typeNames : Text → List Text := linesBetween "\x7d " ";"

theorem Text.between?_nil {pre : Text} (post : Text) (h : pre ≠ []) :
    Text.between? pre post [] = none := by
  obtain ⟨c, r, rfl⟩ := List.exists_cons_of_ne_nil h
  rfl

/-- what is read from a file is read from its header, then from its blocks -/
theorem linesBetween_assemble {pre : Text} (post : Text) (h : pre ≠ []) (generator : Text)
    (blocks : List Text) :
    linesBetween pre post (assemble generator blocks)
      = linesBetween pre post (header generator) ++ blocks.flatMap (linesBetween pre post) :=
  filterMap_splitOn_assemble (Text.between?_nil post h) generator blocks

/-- a header defines no structure -/
theorem linesBetween_header {generator : Text} (hgen : '\n' ∉ generator) {c : Char} (pre post : Text)
    (hc : c ∉ ['/', ' ', '#']) : linesBetween (c :: pre) post (header generator) = [] := by
  refine filterMap_splitOn_header hgen fun l hl => ?_
  have hhead : l.head? ≠ some c := fun h => hc (hl c h)
  exact Text.between?_of_after?_none post (Text.after?_eq_none_of_head? hhead)

theorem structTags_header {generator : Text} (hgen : '\n' ∉ generator) :
    structTags (header generator) = [] := linesBetween_header hgen _ _ (by decide)

theorem typeNames_header {generator : Text} (hgen : '\n' ∉ generator) :
    typeNames (header generator) = [] := linesBetween_header hgen _ _ (by decide)

/-! ## blocks -/

/-- what is read from one line of a block, if no other line begins like it -/
theorem Planned.linesBetween_block {d : Decl} {p : Plan} (h : Planned d p) (hd : d.Found)
    {pre n post : Text} {above below : List Text}
    (hlines : p.lines = above ++ (pre ++ n ++ post) :: below)
    (hnone : ∀ l ∈ above ++ below, pre.after? l = none) : linesBetween pre post p.block = [n] := by
  obtain ⟨habove, hbelow⟩ := List.forall_mem_append.1 hnone
  have hread : ∀ ls : List Text, (∀ l ∈ ls, pre.after? l = none) →
      ls.filterMap (Text.between? pre post) = [] := fun ls hls =>
    List.filterMap_eq_nil_iff.2 fun l hl => Text.between?_of_after?_none post (hls l hl)
  rw [linesBetween, h.splitOn_block hd, hlines, List.filterMap_append, hread above habove,
    List.filterMap_cons_some (Text.between?_append pre n post), hread below hbelow,
    List.nil_append]

namespace Plan

/-- the lines of a block after the line that ends the structure -/
def linesAfterContext (p : Plan) : List Text := [] :: p.entryLines ++ [[]] ++ p.bridgeLines

/-- no line but one opens a structure -/
theorem after?_tag_eq_none (p : Plan) :
    ∀ l ∈ (p.titleLines ++ [[]]) ++ (p.contextHead.tail ++ p.fields.map fieldLine
      ++ ("\x7d " ++ p.context ++ ";") :: p.linesAfterContext),
      Text.after? "typedef struct " l = none := by
  have hfield : ∀ decl, Text.after? "typedef struct " (fieldLine decl) = none := fun decl =>
    Text.after?_eq_none_of_head? (by rw [head?_fieldLine]; decide)
  have hinit : ∀ i, Text.after? "typedef struct " (initLine i) = none := fun i =>
    Text.after?_eq_none_of_head? (by rw [head?_initLine]; decide)
  simp only [titleLines, contextHead, linesAfterContext, entryLines, bridgeLines, bridgeHead,
    bridgeTail, List.tail_cons, List.forall_mem_append, List.forall_mem_cons, List.forall_mem_map,
    hfield, hinit, List.not_mem_nil, false_implies, implies_true, and_true]
  and_intros <;> rfl

/-- no line but one gives a name to a structure -/
theorem after?_brace_eq_none (p : Plan) :
    ∀ l ∈ (p.titleLines ++ [[]] ++ p.contextHead ++ p.fields.map fieldLine) ++ p.linesAfterContext,
      Text.after? "\x7d " l = none := by
  have hfield : ∀ decl, Text.after? "\x7d " (fieldLine decl) = none := fun decl =>
    Text.after?_eq_none_of_head? (by rw [head?_fieldLine]; decide)
  have hinit : ∀ i, Text.after? "\x7d " (initLine i) = none := fun i =>
    Text.after?_eq_none_of_head? (by rw [head?_initLine]; decide)
  simp only [titleLines, contextHead, linesAfterContext, entryLines, bridgeLines, bridgeHead,
    bridgeTail, List.forall_mem_append, List.forall_mem_cons, List.forall_mem_map,
    hfield, hinit, List.not_mem_nil, false_implies, implies_true, and_true]
  and_intros <;> rfl

end Plan

namespace Planned
variable {d : Decl} {p : Plan}

/-- a block opens one structure, the context -/
theorem structTags_block (h : Planned d p) (hd : d.Found) : structTags p.block = [p.context] := by
  refine h.linesBetween_block hd ?_ p.after?_tag_eq_none
  simp only [Plan.lines, Plan.contextLines, Plan.contextHead, Plan.linesAfterContext,
    List.tail_cons, List.append_assoc, List.cons_append, List.nil_append]

/-- a block gives a name to one structure, that of the context -/
theorem typeNames_block (h : Planned d p) (hd : d.Found) : typeNames p.block = [p.context] := by
  refine h.linesBetween_block hd ?_ p.after?_brace_eq_none
  simp only [Plan.lines, Plan.contextLines, Plan.linesAfterContext, List.append_assoc,
    List.cons_append, List.nil_append]

end Planned

/-! ## the names of bridges and of coroutines -/

/-- of joined parts the ones after the first can be read back -/
theorem joinDigits_cons_eq_iff {a : Text} {as bs : List Text} :
    joinDigits (a :: as) = joinDigits (a :: bs) ↔ joinDigits as = joinDigits bs := by
  have hne : ∀ {b : Text}, startsDigit b = true → a ++ b ≠ a := by
    intro b hb he
    rw [List.append_right_eq_self.1 he] at hb
    cases hb
  constructor
  · intro h
    cases has : joinDigits as with
    | nil =>
      cases hbs : joinDigits bs with
      | nil => rfl
      | cons c cs =>
        rw [joinDigits_cons_of_nil a has, joinDigits_cons_of_cons a hbs] at h
        split at h
        · next hc => exact absurd (List.cons.inj h).1.symm (hne hc)
        · cases h
    | cons b r =>
      cases hbs : joinDigits bs with
      | nil =>
        rw [joinDigits_cons_of_cons a has, joinDigits_cons_of_nil a hbs] at h
        split at h
        · next hb => exact absurd (List.cons.inj h).1 (hne hb)
        · cases h
      | cons c s =>
        rw [joinDigits_cons_of_cons a has, joinDigits_cons_of_cons a hbs] at h
        split at h <;> split at h
        · obtain ⟨hb, rfl⟩ := List.cons.inj h
          rw [List.append_cancel_left hb]
        · next hb _ => exact absurd (List.cons.inj h).1 (hne hb)
        · next _ hc => exact absurd (List.cons.inj h).1.symm (hne hc)
        · exact (List.cons.inj h).2
  · intro h
    rw [joinDigits, joinDigits, h]

/-- the parts of a coroutine's name after the stem are those of the bridge's name -/
theorem nameKey_coroutineStem_eq_iff {r s : Text} :
    nameKey (coroutineStem ++ r) = nameKey (coroutineStem ++ s)
      ↔ nameKey (wrapperStem ++ r) = nameKey (wrapperStem ++ s) := by
  have hwrapper : ∀ r, nameKey (wrapperStem ++ r)
      = joinDigits (['b', 'd', 'r', 'v'] :: (r.splitOn '_').filter (· ≠ [])) := by
    intro r
    rw [nameKey, splitOn_wrapperStem]
    rfl
  have hcoroutine : ∀ r, nameKey (coroutineStem ++ r)
      = joinDigits (['b', 'd', 'r', 'v'] :: ['c', 'o'] :: (r.splitOn '_').filter (· ≠ [])) := by
    intro r
    rw [nameKey, splitOn_coroutineStem]
    rfl
  rw [hcoroutine, hcoroutine, hwrapper, hwrapper, joinDigits_cons_eq_iff, joinDigits_cons_eq_iff,
    joinDigits_cons_eq_iff]

/-- two blocks define the same structure if and only if the names of their bridges have the same
parts -/
theorem context_eq_iff {d e : Decl} {p q : Plan} (hp : Planned d p) (hq : Planned e q)
    (hd : d.Found) (he : e.Found) : p.context = q.context ↔ nameKey d.name = nameKey e.name := by
  obtain ⟨r, hr, hpco⟩ := hp.stem
  obtain ⟨s, hs, hqco⟩ := hq.stem
  rw [Plan.context, Plan.context, camel_eq_camel_iff (hp.mem_coroutine hd) (hq.mem_coroutine he),
    hpco, hqco, hr, hs, nameKey_coroutineStem_eq_iff]

/-! ## files -/

/-- what is read from a file, if one line is read from the block of each plan -/
theorem linesBetween_assemble_map {pre : Text} (post : Text) (hpre : pre ≠ []) (generator : Text)
    {ps : List Plan} (hblock : ∀ p ∈ ps, linesBetween pre post p.block = [p.context]) :
    linesBetween pre post (assemble generator (ps.map Plan.block))
      = linesBetween pre post (header generator) ++ ps.map Plan.context := by
  rw [linesBetween_assemble post hpre, List.flatMap_map, List.flatMap_congr hblock,
    ← List.map_eq_flatMap]

/-- **Bridges with different parts have different structures.**  If a file comes of a text, then its
blocks open one structure for each declaration, in order, and name a type after it: the type name of
the coroutine.  The header has none, unless the name of the generator breaks its line.  The
structures are distinct if and only if the names of the bridges are, apart from empty parts between
underscores and from underscores before digits. -/
theorem contexts_nodup_iff {config : Config} {t out : Text}
    (h : (generate config t).outcome = .ok out) :
    ∃ (ds : List Decl) (contexts : List Text), Marker.wrapper.decls t = ds.map .ok ∧
      structTags out = structTags (header config.generator) ++ contexts ∧
      typeNames out = typeNames (header config.generator) ++ contexts ∧
      ('\n' ∉ config.generator →
        structTags (header config.generator) = [] ∧ typeNames (header config.generator) = []) ∧
      contexts.map some = ds.map (fun d => (coroutineName? d.name).map camel) ∧
      (contexts.Nodup ↔ (ds.map fun d => nameKey d.name).Nodup) := by
  obtain ⟨blocks, hblocks, rfl⟩ := outcome_generate_ok_iff.1 h
  obtain ⟨ps, hdecls, rfl, hplanned⟩ := plans_of_bridged hblocks
  have hfound : ∀ p ∈ ps, p.wrapper.Found := fun p hp =>
    Marker.found_of_mem_decls (t := t) (hdecls ▸ List.mem_map_of_mem hp)
  refine ⟨ps.map Plan.wrapper, ps.map Plan.context, ?_, ?_, ?_,
    fun hgen => ⟨structTags_header hgen, typeNames_header hgen⟩, ?_, ?_⟩
  · rw [hdecls, List.map_map]
    rfl
  · exact linesBetween_assemble_map _ (by decide) _ fun p hp =>
      (hplanned p hp).structTags_block (hfound p hp)
  · exact linesBetween_assemble_map _ (by decide) _ fun p hp =>
      (hplanned p hp).typeNames_block (hfound p hp)
  · rw [List.map_map, List.map_map]
    refine List.map_congr_left fun p hp => ?_
    rw [Function.comp_apply, Function.comp_apply,
      coroutineName?_eq_some_iff.2 (hplanned p hp).stem]
    rfl
  · rw [List.map_map, List.Nodup, List.Nodup, List.pairwise_map, List.pairwise_map]
    refine List.Pairwise.iff_of_mem fun {p q} hp hq => not_congr ?_
    exact context_eq_iff (hplanned p hp) (hplanned q hq) (hfound p hp) (hfound q hq)

/-- a text that declares two bridges of which the names differ in an underscore -/
def twinText : Text :=
  ("int generated_co_wrapper bdrv_flush(BlockDriverState *bs);\n" : Text)
    ++ "int generated_co_wrapper bdrv__flush(BlockDriverState *bs);\n"

/-- the plans for these bridges -/
def twinPlans : List Plan :=
  [⟨⟨"int", "bdrv_flush", [⟨"BlockDriverState *bs", "BlockDriverState *", "bs"⟩]⟩,
      "bdrv_co_flush", .direct, "bs"⟩,
    ⟨⟨"int", "bdrv__flush", [⟨"BlockDriverState *bs", "BlockDriverState *", "bs"⟩]⟩,
      "bdrv_co__flush", .direct, "bs"⟩]

theorem decls_twinText : Marker.wrapper.decls twinText = twinPlans.map fun p => .ok p.wrapper := by
  rfl

theorem plan_of_mem_twinPlans : ∀ p ∈ twinPlans, p.wrapper.plan = .ok p :=
  List.forall_mem_cons.2 ⟨by rfl, List.forall_mem_singleton.2 (by rfl)⟩

theorem outcome_generate_twinText :
    (generate {} twinText).outcome = .ok (assemble "co-wrapper" (twinPlans.map Plan.block)) := by
  have hnone : Marker.coroutine.sites twinText = [] := by rfl
  exact outcome_generate_of_plans twinPlans decls_twinText plan_of_mem_twinPlans
    (ok_not_mem_decls hnone)

theorem contexts_nodup_iff_twinText :
    (generate {} twinText).outcome = .ok (assemble "co-wrapper" (twinPlans.map Plan.block)) ∧
    ∃ (ds : List Decl) (contexts : List Text), Marker.wrapper.decls twinText = ds.map .ok ∧
      structTags (assemble "co-wrapper" (twinPlans.map Plan.block))
        = structTags (header ({} : Config).generator) ++ contexts ∧
      typeNames (assemble "co-wrapper" (twinPlans.map Plan.block))
        = typeNames (header ({} : Config).generator) ++ contexts ∧
      ('\n' ∉ ({} : Config).generator → structTags (header ({} : Config).generator) = [] ∧
        typeNames (header ({} : Config).generator) = []) ∧
      contexts.map some = ds.map (fun d => (coroutineName? d.name).map camel) ∧
      (contexts.Nodup ↔ (ds.map fun d => nameKey d.name).Nodup) :=
  ⟨outcome_generate_twinText, contexts_nodup_iff outcome_generate_twinText⟩

/-- the two bridges have different names, but the file defines one structure twice -/
theorem not_nodup_contexts_twinText :
    (generate {} twinText).outcome = .ok (assemble "co-wrapper" (twinPlans.map Plan.block)) ∧
    (∃ ds : List Decl, Marker.wrapper.decls twinText = ds.map .ok ∧ (ds.map Decl.name).Nodup) ∧
    structTags (assemble "co-wrapper" (twinPlans.map Plan.block))
      = [("BdrvCoFlush" : Text), "BdrvCoFlush"] ∧
    typeNames (assemble "co-wrapper" (twinPlans.map Plan.block))
      = [("BdrvCoFlush" : Text), "BdrvCoFlush"] := by
  have hgen : '\n' ∉ ("co-wrapper" : Text) := by decide
  have hplanned : ∀ p ∈ twinPlans, Planned p.wrapper p := fun p hp =>
    Decl.plan_eq_ok_iff.1 (plan_of_mem_twinPlans p hp)
  have hfound : ∀ p ∈ twinPlans, p.wrapper.Found := fun p hp =>
    Marker.found_of_mem_decls (t := twinText) (decls_twinText ▸ List.mem_map_of_mem hp)
  have hcontexts : twinPlans.map Plan.context = [("BdrvCoFlush" : Text), "BdrvCoFlush"] := by
    rfl
  refine ⟨outcome_generate_twinText, ⟨twinPlans.map Plan.wrapper, ?_, by decide⟩, ?_, ?_⟩
  · rw [decls_twinText, List.map_map]
    rfl
  · rw [structTags, linesBetween_assemble_map _ (by decide) _ fun p hp =>
      (hplanned p hp).structTags_block (hfound p hp), ← structTags, structTags_header hgen,
      List.nil_append, hcontexts]
  · rw [typeNames, linesBetween_assemble_map _ (by decide) _ fun p hp =>
      (hplanned p hp).typeNames_block (hfound p hp), ← typeNames, typeNames_header hgen,
      List.nil_append, hcontexts]

end CoroBridge
