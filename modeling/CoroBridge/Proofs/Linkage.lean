import Mathlib.Data.List.DropRight
import CoroBridge.Proofs.FileText
import CoroBridge.Proofs.Recovery

/-!
# Linkage: the functions that a file defines, and those that it calls

Every block defines two functions, the entry point and the bridge, and calls one, the coroutine.
Declarations are judged one at a time, so that the names of different blocks may meet.  Here it is
said where they do.

* `definedName?`, `definedIn`   the function whose definition a line heads, and all of a text;
* `calledIn`               the functions that the entry point and the bridge in a block call;
* `Planned.definedIn_block`, `Planned.calledIn_block`   what they find in the block of a plan;
* `Planned.name_ne_append`   no bridge is named like a coroutine;
* `clash_iff_entry_name`   an entry point is named like a coroutine that is called if and only if one
                           bridge is named like another one with the ending of an entry point.
-/

namespace CoroBridge

/-! ## readers -/

/-- the name of the function whose definition a line heads: the line begins with a small letter and
ends with a closing parenthesis, and the name stands before the opening one -/
def definedName? (line : Text) : Option Text :=
  if line.head?.any Char.isLower && line.getLast? == some ')' then
    some ((line.takeWhile (· != '(')).rtakeWhile isNameChar)
  else none

/-- the functions that are defined in a text, in order -/
def definedIn (t : Text) : List Text := (t.splitOn '\n').filterMap definedName?

/-- the functions whose results the entry point and the bridge in a block use, in this order -/
def calledIn (block : Text) : List Text :=
  ((entryCall? block).toList ++ (directCall? block).toList).map Call.callee

theorem definedName?_of_head? {l : Text} (h : l.head?.any Char.isLower = false) :
    definedName? l = none := by
  rw [definedName?, h]
  rfl

theorem definedName?_of_getLast? {l : Text} (h : (l.getLast? == some ')') = false) :
    definedName? l = none := by
  rw [definedName?, h, Bool.and_false]
  rfl

/-- the name is read back from the line that heads a definition -/
theorem definedName?_line {lead name : Text} {c : Char} (hfirst : lead.head?.any Char.isLower = true)
    (hlast : lead.getLast? = some c) (hc : isNameChar c = false) (hopen : '(' ∉ lead)
    (hname : ∀ d ∈ name, isNameChar d = true) (args : Text) :
    definedName? (lead ++ name ++ ("(" ++ args ++ ")")) = some name := by
  have hhead : (lead ++ name ++ ("(" ++ args ++ ")" : Text)).head? = lead.head? := by
    cases lead with
    | nil => cases hfirst
    | cons d r => rfl
  have hclose : (lead ++ name ++ ("(" ++ args ++ ")" : Text)).getLast? = some ')' := by
    rw [List.getLast?_append, List.getLast?_append]
    rfl
  have hsolid : '(' ∉ lead ++ name := by
    have hword : '(' ∉ name := fun hm => absurd (hname _ hm) (by decide)
    simp [hopen, hword]
  have hstop : ∀ t : Text, StopsAt (· != '(') ("(" ++ t) := fun t => stopsAt_cons (by decide) t
  have htake : (lead ++ name ++ ("(" ++ args ++ ")" : Text)).takeWhile (· != '(')
      = lead ++ name := by
    rw [List.append_assoc _ args]
    exact takeWhile_append_of_stopsAt (bne_of_not_mem hsolid) (hstop _)
  have hword : (lead ++ name).rtakeWhile isNameChar = name := by
    have hbefore : StopsAt isNameChar lead.reverse := by
      intro d hd
      rw [List.head?_reverse, hlast] at hd
      cases hd
      exact hc
    rw [List.rtakeWhile, List.reverse_append, takeWhile_append_of_stopsAt
      (fun d hd => hname d (List.mem_reverse.1 hd)) hbefore, List.reverse_reverse]
  rw [definedName?, hhead, hfirst, hclose, htake, hword]
  rfl

/-! ## blocks -/

namespace Plan

/-- the line that heads the definition of the entry point -/
def entryHead (p : Plan) : Text := "static void coroutine_fn " ++ p.entry ++ "(void *opaque)"

/-- the lines of a block other than the two that head a definition -/
theorem definedName?_eq_none (p : Plan) :
    ∀ l ∈ (p.titleLines ++ [[]] ++ p.contextLines ++ [[]]) ++ (p.entryLines.tail ++ [[]])
      ++ p.linesBelow, definedName? l = none := by
  have hfield : ∀ decl : Text, definedName? (fieldLine decl) = none := fun decl =>
    definedName?_of_head? (by rw [head?_fieldLine]; decide)
  have hinit : ∀ i : Text × Text, definedName? (initLine i) = none := fun i =>
    definedName?_of_head? (by rw [head?_initLine]; decide)
  have htypedef : ∀ name : Text, definedName? ("typedef struct " ++ name ++ " \x7b") = none :=
    fun name => definedName?_of_getLast? (by rw [List.getLast?_append]; rfl)
  simp only [titleLines, contextLines, contextHead, entryLines, linesBelow, bridgeHead, bridgeTail,
    List.tail_cons, List.forall_mem_append, List.forall_mem_cons, List.forall_mem_map,
    hfield, hinit, htypedef, List.not_mem_nil, false_implies, implies_true, and_true, true_and]
  and_intros <;> exact definedName?_of_head? rfl

end Plan

namespace Planned
variable {d : Decl} {p : Plan}

theorem mem_entry (h : Planned d p) (hd : d.Found) : ∀ c ∈ p.entry, isNameChar c = true := by
  have hending : ("_entry" : Text).all isNameChar = true := by rfl
  exact List.forall_mem_append.2 ⟨h.mem_coroutine hd, List.all_eq_true.1 hending⟩

/-- a block defines the entry point and the bridge, and nothing else -/
theorem definedIn_block (h : Planned d p) (hd : d.Found) :
    definedIn p.block = [p.entry, d.name] := by
  have hlines : p.lines = (p.titleLines ++ [[]] ++ p.contextLines ++ [[]])
      ++ p.entryHead :: ((p.entryLines.tail ++ [[]]) ++ p.signature :: p.linesBelow) := by
    have hentry : p.entryLines = p.entryHead :: p.entryLines.tail := rfl
    rw [p.lines_eq, Plan.linesAbove, hentry, List.tail_cons]
    simp only [List.append_assoc, List.cons_append, List.nil_append]
  have hnone := p.definedName?_eq_none
  rw [List.forall_mem_append, List.forall_mem_append] at hnone
  obtain ⟨⟨habove, hmiddle⟩, hbelow⟩ := hnone
  have hentry : definedName? p.entryHead = some p.entry := by
    have hline : p.entryHead
        = "static void coroutine_fn " ++ p.entry ++ ("(" ++ "void *opaque" ++ ")") := rfl
    rw [hline]
    exact definedName?_line (c := ' ') (by decide) (by decide) (by decide) (by decide)
      (h.mem_entry hd) _
  have hbridge : definedName? p.signature = some d.name := by
    have hline : p.signature
        = (statusType ++ " ") ++ d.name ++ ("(" ++ Plan.commas p.fields ++ ")") := by
      rw [Plan.signature, h.wrapper_eq]
      simp only [List.append_assoc]
    rw [hline]
    exact definedName?_line (c := ' ') (by decide) (by decide) (by decide) (by decide)
      (isNameChar_of_isName hd.name_isName) _
  rw [definedIn, h.splitOn_block hd, hlines, List.filterMap_append,
    List.filterMap_eq_nil_iff.2 habove, List.filterMap_cons_some hentry, List.filterMap_append,
    List.filterMap_eq_nil_iff.2 hmiddle, List.filterMap_cons_some hbridge,
    List.filterMap_eq_nil_iff.2 hbelow, List.nil_append, List.nil_append]

/-- the entry point and the bridge in a block call the coroutine -/
theorem calledIn_block (h : Planned d p) (hd : d.Found) :
    calledIn p.block = [p.coroutine, p.coroutine] := by
  rw [calledIn, h.entryCall?_block hd, h.directCall?_block hd]
  rfl

end Planned

/-! ## names -/

/-- the name of a bridge without its stem -/
def Plan.rest (p : Plan) : Text := p.wrapper.name.drop wrapperStem.length

namespace Planned
variable {d : Decl} {p : Plan}

theorem name_eq (h : Planned d p) : d.name = wrapperStem ++ p.rest := by
  obtain ⟨r, hr, _⟩ := h.stem
  rw [Plan.rest, h.wrapper_eq, hr, List.drop_left]

theorem entry_eq (h : Planned d p) : p.entry = coroutineStem ++ p.rest ++ "_entry" := by
  rw [Plan.entry, h.coroutine_eq h.name_eq]

/-- no bridge is named like a coroutine, or like anything else under the stem of coroutines -/
theorem name_ne_append (h : Planned d p) (r : Text) : wrapperStem ++ p.rest ≠ coroutineStem ++ r :=
  fun he => h.no_coroutine (h.name_eq ▸ he ▸ List.prefix_append _ r)

end Planned

/-! ## files -/

theorem definedIn_header {generator : Text} (hgen : '\n' ∉ generator) :
    definedIn (header generator) = [] := by
  refine filterMap_splitOn_header hgen fun l hl => definedName?_of_head? ?_
  cases h : l.head? with
  | none => rfl
  | some c =>
    have hc := hl c h
    simp only [List.mem_cons, List.not_mem_nil, or_false] at hc
    rcases hc with rfl | rfl | rfl <;> rfl

/-- **An entry point is named like a coroutine that is called if and only if a bridge is named like
another one with the ending of an entry point.**  If a file comes of a text, its blocks define two
functions for each declaration, in order, and nothing else is defined, unless the name of the
generator breaks its line; the coroutine is called from both.  No bridge is named like a coroutine
that the file calls or like an entry point.  An entry point is named like a coroutine that the file
calls exactly if the bridge of this one has the name of its own bridge with `_entry` behind. -/
theorem clash_iff_entry_name {config : Config} {t out : Text}
    (h : (generate config t).outcome = .ok out) :
    ∃ (ds : List Decl) (rests blocks : List Text), Marker.wrapper.decls t = ds.map .ok ∧
      ds.map Decl.name = rests.map (wrapperStem ++ ·) ∧
      out = assemble config.generator blocks ∧
      definedIn out = definedIn (header config.generator) ++ blocks.flatMap definedIn ∧
      ('\n' ∉ config.generator → definedIn (header config.generator) = []) ∧
      blocks.map definedIn
        = rests.map (fun r => [coroutineStem ++ r ++ "_entry", wrapperStem ++ r]) ∧
      blocks.map calledIn = rests.map (fun r => [coroutineStem ++ r, coroutineStem ++ r]) ∧
      ∀ r ∈ rests, ∀ s ∈ rests,
        wrapperStem ++ r ≠ coroutineStem ++ s ∧
        coroutineStem ++ r ++ "_entry" ≠ wrapperStem ++ s ∧
        (coroutineStem ++ r ++ "_entry" = coroutineStem ++ s ↔ s = r ++ "_entry") := by
  obtain ⟨blocks, hblocks, rfl⟩ := outcome_generate_ok_iff.1 h
  obtain ⟨ps, hdecls, rfl, hplanned⟩ := plans_of_bridged hblocks
  have hfound : ∀ p ∈ ps, p.wrapper.Found := fun p hp =>
    Marker.found_of_mem_decls (t := t) (hdecls ▸ List.mem_map_of_mem hp)
  refine ⟨ps.map Plan.wrapper, ps.map Plan.rest, ps.map Plan.block, ?_, ?_, rfl,
    filterMap_splitOn_assemble (definedName?_of_head? rfl) _ _, definedIn_header, ?_, ?_, ?_⟩
  · rw [hdecls, List.map_map]
    rfl
  · rw [List.map_map, List.map_map]
    exact List.map_congr_left fun p hp => (hplanned p hp).name_eq
  · rw [List.map_map, List.map_map]
    refine List.map_congr_left fun p hp => ?_
    rw [Function.comp_apply, (hplanned p hp).definedIn_block (hfound p hp), (hplanned p hp).entry_eq,
      (hplanned p hp).name_eq]
    rfl
  · rw [List.map_map, List.map_map]
    refine List.map_congr_left fun p hp => ?_
    rw [Function.comp_apply, (hplanned p hp).calledIn_block (hfound p hp),
      (hplanned p hp).coroutine_eq (hplanned p hp).name_eq]
    rfl
  · refine List.forall_mem_map.2 fun p hp => List.forall_mem_map.2 fun q hq => ⟨?_, ?_, ?_⟩
    · exact (hplanned p hp).name_ne_append q.rest
    · rw [List.append_assoc]
      exact ((hplanned q hq).name_ne_append _).symm
    · rw [List.append_assoc, List.append_cancel_left_eq]
      exact eq_comm

/-- a text that declares a bridge, and another one that is named like it with the ending of an entry
point -/
def entryText : Text :=
  ("int generated_co_wrapper bdrv_flush(BlockDriverState *bs);\n" : Text)
    ++ "int generated_co_wrapper bdrv_flush_entry(BlockDriverState *bs);\n"

/-- the plans for these bridges -/
def entryPlans : List Plan :=
  [⟨⟨"int", "bdrv_flush", [⟨"BlockDriverState *bs", "BlockDriverState *", "bs"⟩]⟩,
      "bdrv_co_flush", .direct, "bs"⟩,
    ⟨⟨"int", "bdrv_flush_entry", [⟨"BlockDriverState *bs", "BlockDriverState *", "bs"⟩]⟩,
      "bdrv_co_flush_entry", .direct, "bs"⟩]

theorem decls_entryText :
    Marker.wrapper.decls entryText = entryPlans.map fun p => .ok p.wrapper := by
  rfl

theorem plan_of_mem_entryPlans : ∀ p ∈ entryPlans, p.wrapper.plan = .ok p :=
  List.forall_mem_cons.2 ⟨by rfl, List.forall_mem_singleton.2 (by rfl)⟩

theorem outcome_generate_entryText :
    (generate {} entryText).outcome = .ok (assemble "co-wrapper" (entryPlans.map Plan.block)) := by
  have hnone : Marker.coroutine.sites entryText = [] := by rfl
  exact outcome_generate_of_plans entryPlans decls_entryText plan_of_mem_entryPlans
    (ok_not_mem_decls hnone)

theorem clash_iff_entry_name_entryText :
    (generate {} entryText).outcome = .ok (assemble "co-wrapper" (entryPlans.map Plan.block)) ∧
    ∃ (ds : List Decl) (rests blocks : List Text), Marker.wrapper.decls entryText = ds.map .ok ∧
      ds.map Decl.name = rests.map (wrapperStem ++ ·) ∧
      assemble "co-wrapper" (entryPlans.map Plan.block)
        = assemble ({} : Config).generator blocks ∧
      definedIn (assemble "co-wrapper" (entryPlans.map Plan.block))
        = definedIn (header ({} : Config).generator) ++ blocks.flatMap definedIn ∧
      ('\n' ∉ ({} : Config).generator → definedIn (header ({} : Config).generator) = []) ∧
      blocks.map definedIn
        = rests.map (fun r => [coroutineStem ++ r ++ "_entry", wrapperStem ++ r]) ∧
      blocks.map calledIn = rests.map (fun r => [coroutineStem ++ r, coroutineStem ++ r]) ∧
      ∀ r ∈ rests, ∀ s ∈ rests,
        wrapperStem ++ r ≠ coroutineStem ++ s ∧
        coroutineStem ++ r ++ "_entry" ≠ wrapperStem ++ s ∧
        (coroutineStem ++ r ++ "_entry" = coroutineStem ++ s ↔ s = r ++ "_entry") :=
  ⟨outcome_generate_entryText, clash_iff_entry_name outcome_generate_entryText⟩

/-- a file comes of the two bridges in which the first block defines the function that the second
one calls as its coroutine -/
theorem entry_clash_entryText :
    ∃ b c : Text,
      (generate {} entryText).outcome = .ok (assemble "co-wrapper" [b, c]) ∧
      definedIn b = [("bdrv_co_flush_entry" : Text), "bdrv_flush"] ∧
      calledIn c = [("bdrv_co_flush_entry" : Text), "bdrv_co_flush_entry"] := by
  have hplanned : ∀ p ∈ entryPlans, Planned p.wrapper p := fun p hp =>
    Decl.plan_eq_ok_iff.1 (plan_of_mem_entryPlans p hp)
  have hfound : ∀ p ∈ entryPlans, p.wrapper.Found := fun p hp =>
    Marker.found_of_mem_decls (t := entryText) (decls_entryText ▸ List.mem_map_of_mem hp)
  obtain ⟨hp, hq⟩ := List.forall_mem_cons.1 hplanned
  obtain ⟨hpf, hqf⟩ := List.forall_mem_cons.1 hfound
  refine ⟨_, _, outcome_generate_entryText, ?_, ?_⟩
  · rw [hp.definedIn_block hpf]
    rfl
  · rw [(hq _ List.mem_cons_self).calledIn_block (hqf _ List.mem_cons_self)]

end CoroBridge
