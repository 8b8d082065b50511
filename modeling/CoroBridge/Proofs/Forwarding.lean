import CoroBridge.Proofs.Readback

/-!
# Forwarding: the two ways to call a coroutine

A bridge calls its coroutine with its own parameters, or fills a context with them from which an
entry point calls the coroutine later.  Both calls pass the same values.

* `value?`            the value of a name, or of a member that a name points to;
* `Context.store`     one initialiser: what it fills, and what is known of the fields around it;
* `fill`              all initialisers, in order;
* `Context.arg?`      the value of an argument that the entry point reads from the context;
* `Apart`             fields of which none is a part of the other;
* `fill_path`         initialisers of fields that lie apart all keep their values;
* `Planned.apart_inits`   the fields that a bridge fills lie apart;
* `entry_passes_direct_args`   the entry point passes what the bridge itself would pass.
-/

namespace CoroBridge
universe u
variable {V : Type u}

/-! ## values -/

/-- the value of an expression, a name or a member that a name points to, when the names have the
values `ρ`, and `member` gives the members of what a value points to -/
def value? (ρ : Text → V) (member : V → Text → V) (e : Text) : Option V :=
  let name := e.takeWhile isNameChar
  if isName name then
    match e.dropWhile isNameChar with
    | [] => some (ρ name)
    | '-' :: '>' :: field => if isName field then some (member (ρ name) field) else none
    | _ => none
  else none

variable (ρ : Text → V) (member : V → Text → V)

theorem value?_name {n : Text} (h : isName n = true) : value? ρ member n = some (ρ n) := by
  have hall := isNameChar_of_isName h
  have htake : n.takeWhile isNameChar = n := List.takeWhile_eq_self_iff.2 hall
  have hdrop : n.dropWhile isNameChar = [] := List.dropWhile_eq_nil_iff.2 hall
  simp only [value?, htake, hdrop, h, if_true]

theorem value?_member {n f : Text} (h : isName n = true) (hf : isName f = true) :
    value? ρ member (n ++ "->" ++ f) = some (member (ρ n) f) := by
  have hall := isNameChar_of_isName h
  have hstop : StopsAt isNameChar ('-' :: '>' :: f) := stopsAt_cons (by decide) _
  have hcat : n ++ "->" ++ f = n ++ '-' :: '>' :: f := by simp
  rw [hcat]
  simp only [value?, takeWhile_append_of_stopsAt hall hstop,
    dropWhile_append_of_stopsAt hall hstop, h, hf, if_true]

/-! ## contexts -/

/-- where a field is: its name, then the names of the fields inside of it -/
abbrev Path := List Text

/-- the place of a field that is written with dots -/
def Text.path (field : Text) : Path := field.splitOn '.'

/-- what is known of the fields of a context -/
abbrev Context (V : Type u) := Path → Option V

/-- a context with a value in the field at `x`; what was known of the fields around it or inside of
it is lost -/
def Context.store (s : Context V) (x : Path) (v : Option V) : Context V :=
  fun y => if y = x then v else if x <+: y ∨ y <+: x then none else s y

/-- none of the two fields is a part of the other -/
def Apart (x y : Path) : Prop := ¬ x <+: y ∧ ¬ y <+: x

theorem Context.store_self (s : Context V) (x : Path) (v : Option V) : s.store x v x = v :=
  if_pos rfl

theorem Context.store_of_apart (s : Context V) {x y : Path} (v : Option V) (h : Apart x y) :
    s.store x v y = s y := by
  have hne : y ≠ x := by
    rintro rfl
    exact h.1 List.prefix_rfl
  rw [Context.store, if_neg hne, if_neg (not_or.2 h)]

/-- the context after initialisers, each of which is the last word on its field -/
def fill (s : Context V) (inits : List (Text × Text)) : Context V :=
  inits.foldl (fun s i => s.store (Text.path i.1) (value? ρ member i.2)) s

/-- the value of an argument that is read from the context behind a pointer `s` -/
def Context.arg? (s : Context V) (a : Text) : Option V :=
  (Text.after? "s->" a).bind fun field => s (Text.path field)

variable {ρ member}

/-- initialisers of other fields leave a field alone -/
theorem fill_of_apart {s : Context V} {inits : List (Text × Text)} {x : Path}
    (h : ∀ i ∈ inits, Apart (Text.path i.1) x) : fill ρ member s inits x = s x := by
  induction inits generalizing s with
  | nil => rfl
  | cons i inits ih =>
    obtain ⟨hi, hinits⟩ := List.forall_mem_cons.1 h
    exact (ih hinits).trans (s.store_of_apart _ hi)

/-- initialisers of fields that lie apart all keep their values -/
theorem fill_path {s : Context V} {inits : List (Text × Text)}
    (h : inits.Pairwise fun i j => Apart (Text.path i.1) (Text.path j.1)) :
    ∀ i ∈ inits, fill ρ member s inits (Text.path i.1) = value? ρ member i.2 := by
  induction inits generalizing s with
  | nil => intro i hi; cases hi
  | cons j inits ih =>
    obtain ⟨hj, hinits⟩ := List.pairwise_cons.1 h
    intro i hi
    rcases List.mem_cons.1 hi with rfl | hi
    · have hback : ∀ k ∈ inits, Apart (Text.path k.1) (Text.path i.1) := fun k hk => (hj k hk).symm
      exact (fill_of_apart hback).trans (s.store_self _ _)
    · exact ih hinits i hi

/-! ## bridges -/

theorem path_of_isName {n : Text} (h : isName n = true) : Text.path n = [n] := by
  have hdot : '.' ∉ n := fun hc =>
    absurd (isNameChar_of_isName h _ hc) (by decide)
  have hsplit := List.splitOn_intercalate '.' (List.forall_mem_singleton.2 hdot)
    (List.cons_ne_nil n [])
  rwa [List.intercalate_singleton] at hsplit

theorem apart_of_ne {a b : Text} (h : a ≠ b) : Apart [a] [b] := by
  simp [Apart, List.cons_prefix_cons, h, Ne.symm h]

theorem apart_inner_of_ne {a b n : Text} (h : n ≠ a) : Apart [a, b] [n] := by
  simp [Apart, List.cons_prefix_cons, h, Ne.symm h]

namespace Planned
variable {d : Decl} {p : Plan}

/-- the fields that a bridge fills lie apart -/
theorem apart_inits (h : Planned d p) (hd : d.Found) :
    p.inits.Pairwise fun i j => Apart (Text.path i.1) (Text.path j.1) := by
  have hpath : ∀ q ∈ d.params, Text.path q.name = [q.name] := fun q hq =>
    path_of_isName (hd.written q hq).name_isName
  have hparams : p.paramInits = d.params.map fun q => (q.name, q.name) := by
    rw [Plan.paramInits, h.params_eq]
  have hbs : Text.path "poll_state.bs" = ["poll_state", "bs"] := by decide
  have hprogress : Text.path "poll_state.in_progress" = ["poll_state", "in_progress"] := by decide
  refine List.pairwise_append.2 ⟨?_, ?_, ?_⟩
  · refine List.pairwise_pair.2 ?_
    rw [hbs, hprogress]
    simp [Apart, List.cons_prefix_cons]
  · rw [hparams, List.pairwise_map]
    refine (List.pairwise_map.1 h.nodup).imp_of_mem fun {q r} hq hr hne => ?_
    rw [hpath q hq, hpath r hr]
    exact apart_of_ne hne
  · have hpoll : ∀ b, ∀ q ∈ d.params, Apart ["poll_state", b] (Text.path q.name) := by
      intro b q hq
      rw [hpath q hq]
      exact apart_inner_of_ne fun he => h.free q hq (by rw [he]; decide)
    rw [hparams]
    refine List.forall_mem_cons.2 ⟨?_, List.forall_mem_singleton.2 ?_⟩
    · refine List.forall_mem_map.2 fun q hq => ?_
      rw [hbs]
      exact hpoll _ q hq
    · refine List.forall_mem_map.2 fun q hq => ?_
      rw [hprogress]
      exact hpoll _ q hq

/-- the value of the expression for the block driver state -/
theorem value?_owner (h : Planned d p) (hd : d.Found) (ρ : Text → V) (member : V → Text → V) :
    ∃ v, value? ρ member p.owner = some v := by
  obtain ⟨q, qs, hparams, _, hsub⟩ := h.first
  have hname : isName p.subject = true :=
    hsub ▸ (hd.written q (hparams ▸ List.mem_cons_self)).name_isName
  rw [Plan.owner]
  cases p.handle with
  | direct => exact ⟨_, value?_name ρ member hname⟩
  | child =>
    have hcat : Handle.child.owner p.subject = p.subject ++ "->" ++ "bs" := by simp [Handle.owner]
    rw [hcat]
    exact ⟨_, value?_member ρ member hname (by decide)⟩

end Planned

/-- **The entry point passes what the bridge itself would pass.**  In the block of a declaration
that was found in a text and keeps the rules, there is a call in the entry point and one in the
branch for a running coroutine; both call the same coroutine.  Whatever values the parameters have,
once the initialisers of the context are done, the arguments of the first call have the values of
the arguments of the second one, and these are the values of the parameters in order.  The block
driver state in the poll state is that of the handle: no parameter overwrites it. -/
theorem entry_passes_direct_args {t : Text} {d : Decl} {p : Plan}
    (hd : .ok d ∈ Marker.wrapper.decls t) (hp : d.plan = .ok p) (ρ : Text → V)
    (member : V → Text → V) (s : Context V) :
    ∃ entry direct : Call,
      (entryCall? p.block = some entry ∧ directCall? p.block = some direct ∧
        entry.callee = direct.callee) ∧
      direct.args.map (value? ρ member) = d.params.map (fun q => some (ρ q.name)) ∧
      entry.args.map (fill ρ member s (initsOf p.block)).arg?
        = direct.args.map (value? ρ member) ∧
      ∃ v, value? ρ member p.owner = some v ∧
        fill ρ member s (initsOf p.block) ["poll_state", "bs"] = some v := by
  have hfound := Marker.found_of_mem_decls hd
  have h := Decl.plan_eq_ok_iff.1 hp
  have hkept : ∀ i ∈ p.inits, fill ρ member s p.inits (Text.path i.1) = value? ρ member i.2 :=
    fill_path (h.apart_inits hfound)
  have hdirect : p.directArgs.map (value? ρ member) = d.params.map fun q => some (ρ q.name) := by
    rw [Plan.directArgs, List.map_map, h.params_eq]
    exact List.map_congr_left fun q hq => value?_name ρ member (hfound.written q hq).name_isName
  have hentry : p.entryArgs.map (fill ρ member s p.inits).arg?
      = d.params.map fun q => some (ρ q.name) := by
    rw [Plan.entryArgs, List.map_map, h.params_eq]
    refine List.map_congr_left fun q hq => ?_
    have hmem : (q.name, q.name) ∈ p.inits := by
      refine List.mem_append_right _ (List.mem_map.2 ⟨q, ?_, rfl⟩)
      rwa [h.params_eq]
    rw [Function.comp_apply, Context.arg?, Text.after?_append, Option.bind_some]
    exact (hkept _ hmem).trans (value?_name ρ member (hfound.written q hq).name_isName)
  obtain ⟨v, hv⟩ := h.value?_owner hfound ρ member
  have howner : (("poll_state.bs" : Text), p.owner) ∈ p.inits :=
    List.mem_append_left _ List.mem_cons_self
  refine ⟨⟨p.coroutine, p.entryArgs⟩, ⟨p.coroutine, p.directArgs⟩,
    ⟨h.entryCall?_block hfound, h.directCall?_block hfound, rfl⟩, hdirect, ?_, v, hv, ?_⟩
  · rw [h.initsOf_block hfound, hentry, hdirect]
  · rw [h.initsOf_block hfound, ← hv]
    exact hkept _ howner

/-- a text that declares one bridge, which takes a child and a number -/
def preadText : Text := "int generated_co_wrapper bdrv_pread(BdrvChild *child, int64_t offset);"

/-- the plan for that bridge -/
def preadPlan : Plan :=
  ⟨⟨"int", "bdrv_pread", [⟨"BdrvChild *child", "BdrvChild *", "child"⟩,
    ⟨"int64_t offset", "int64_t ", "offset"⟩]⟩, "bdrv_co_pread", .child, "child"⟩

theorem entry_passes_direct_args_pread :
    (.ok preadPlan.wrapper ∈ Marker.wrapper.decls preadText ∧
      preadPlan.wrapper.plan = .ok preadPlan) ∧
    ∃ entry direct : Call,
      (entryCall? preadPlan.block = some entry ∧ directCall? preadPlan.block = some direct ∧
        entry.callee = direct.callee) ∧
      direct.args.map (value? id fun v f => v ++ f)
        = preadPlan.wrapper.params.map (fun q => some (id q.name)) ∧
      entry.args.map (fill id (fun v f => v ++ f) (fun _ => none) (initsOf preadPlan.block)).arg?
        = direct.args.map (value? id fun v f => v ++ f) ∧
      ∃ v, value? id (fun v f => v ++ f) preadPlan.owner = some v ∧
        fill id (fun v f => v ++ f) (fun _ => none) (initsOf preadPlan.block)
          ["poll_state", "bs"] = some v := by
  have hd : .ok preadPlan.wrapper ∈ Marker.wrapper.decls preadText := by decide +kernel
  have hp : preadPlan.wrapper.plan = .ok preadPlan := by decide +kernel
  exact ⟨⟨hd, hp⟩, entry_passes_direct_args hd hp id (fun v f => v ++ f) fun _ => none⟩

end CoroBridge
