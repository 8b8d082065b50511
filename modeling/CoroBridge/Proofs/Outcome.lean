import Mathlib.Data.List.Forall2
import CoroBridge.Generate
import CoroBridge.Proofs.Occurrence
import CoroBridge.Proofs.Rules

/-!
# Outcomes: when a file is generated, and which fault is reported otherwise

A run mixes the search with three sources of faults and a table of coroutines.  Here its outcome is
read off the declarations of the text alone.

* `outcome_bind`, `outcome_mapM`   the outcome of a run is the run of the outcomes;
* `FirstKnown`     the first declaration of a coroutine in a text that can be read;
* `Bridged`        a declaration can be bridged, with the block that it gets;
* `Refused`        the fault of a declaration that cannot, in the order in which faults count;
* `outcome_bridge_ok_iff`, `outcome_bridge_error_iff`   the same for one step of the run;
* `outcome_generate_decls`, `outcome_generate_unchecked`   the outcome, as a walk along the
                   declarations of the text;
* `outcome_generate`   the file of a text, or the fault of its first declaration that is refused.
-/

namespace CoroBridge

/-! ## runs without their events -/

namespace Run
variable {α β : Type}

@[simp] theorem outcome_pure (a : α) : (Pure.pure a : Run α).outcome = .ok a := rfl

@[simp] theorem outcome_ofExcept (x : Except Fault α) : (ofExcept x).outcome = x := rfl

theorem outcome_bind (x : Run α) (f : α → Run β) :
    (x >>= f).outcome = x.outcome >>= fun a => (f a).outcome := by
  cases h : x.outcome with
  | ok a => rw [bind_of_ok h]; rfl
  | error fault => rw [bind_of_error h]; rfl

@[simp] theorem outcome_note (event : Event) : (note event).outcome = .ok () := rfl

theorem outcome_mapM (f : α → Run β) (l : List α) :
    (l.mapM f).outcome = l.mapM fun a => (f a).outcome := by
  induction l with
  | nil => rfl
  | cons a l ih =>
    rw [List.mapM_cons, List.mapM_cons, outcome_bind]
    congr 1
    funext b
    rw [outcome_bind, ih]
    rfl

end Run

section
variable {α β ε : Type} {f : α → Except ε β}

theorem ok_bind (a : α) : (.ok a : Except ε α) >>= f = f a := rfl

theorem bind_eq_ok_iff {x : Except ε α} {b : β} :
    x >>= f = .ok b ↔ ∃ a, x = .ok a ∧ f a = .ok b := by
  cases x with
  | ok a =>
    refine ⟨fun h => ⟨a, rfl, h⟩, ?_⟩
    rintro ⟨_, h, hb⟩
    cases h
    exact hb
  | error e =>
    constructor
    · intro h; cases h
    · rintro ⟨_, h, _⟩; cases h

theorem bind_eq_error_iff {x : Except ε α} {e : ε} :
    x >>= f = .error e ↔ x = .error e ∨ ∃ a, x = .ok a ∧ f a = .error e := by
  cases x with
  | ok a =>
    refine ⟨fun h => .inr ⟨a, rfl, h⟩, ?_⟩
    rintro (h | ⟨_, h, he⟩)
    · cases h
    · cases h; exact he
  | error e' =>
    constructor
    · intro h
      cases h
      exact .inl rfl
    · rintro (h | ⟨_, h, _⟩)
      · cases h; rfl
      · cases h

theorem mapM_eq_ok_iff {l : List α} {bs : List β} :
    l.mapM f = .ok bs ↔ List.Forall₂ (fun a b => f a = .ok b) l bs := by
  induction l generalizing bs with
  | nil =>
    rw [List.mapM_nil]
    constructor
    · intro h; cases h; exact .nil
    · intro h; cases h; rfl
  | cons a l ih =>
    rw [List.mapM_cons, bind_eq_ok_iff]
    constructor
    · rintro ⟨b, hb, h⟩
      obtain ⟨bs', hbs, h⟩ := bind_eq_ok_iff.1 h
      cases h
      exact .cons hb (ih.1 hbs)
    · intro h
      cases h with
      | cons hb hl => exact ⟨_, hb, bind_eq_ok_iff.2 ⟨_, ih.2 hl, rfl⟩⟩

/-- a walk along a list stops at the first element that fails -/
theorem mapM_eq_error_iff {l : List α} {e : ε} :
    l.mapM f = .error e
      ↔ ∃ xs a ys, l = xs ++ a :: ys ∧ (∀ x ∈ xs, ∃ b, f x = .ok b) ∧ f a = .error e := by
  induction l with
  | nil =>
    rw [List.mapM_nil]
    constructor
    · intro h; cases h
    · rintro ⟨xs, a, ys, h, _⟩
      exact absurd h (by simp)
  | cons x l ih =>
    rw [List.mapM_cons, bind_eq_error_iff]
    constructor
    · rintro (hx | ⟨b, hb, h⟩)
      · exact ⟨[], x, l, rfl, fun _ h => absurd h List.not_mem_nil, hx⟩
      · rcases bind_eq_error_iff.1 h with hl | ⟨_, _, h⟩
        · obtain ⟨xs, a, ys, rfl, hxs, ha⟩ := ih.1 hl
          refine ⟨x :: xs, a, ys, rfl, fun y hy => ?_, ha⟩
          rcases List.mem_cons.1 hy with rfl | hy
          · exact ⟨b, hb⟩
          · exact hxs y hy
        · cases h
    · rintro ⟨xs, a, ys, h, hxs, ha⟩
      cases xs with
      | nil =>
        cases h
        exact .inl ha
      | cons x' xs =>
        cases h
        obtain ⟨b, hb⟩ := hxs x List.mem_cons_self
        refine .inr ⟨b, hb, bind_eq_error_iff.2 (.inl (ih.2 ⟨xs, a, ys, rfl, ?_, ha⟩))⟩
        exact fun y hy => hxs y (List.mem_cons_of_mem _ hy)

end

/-! ## counterparts -/

/-- `d` is the first declaration of a coroutine called `name` that can be read from `t`, wherever it
stands -/
def FirstKnown (t name : Text) (d : Decl) : Prop :=
  ∃ xs ys, Marker.coroutine.decls t = xs ++ .ok d :: ys ∧ d.name = name ∧
    ∀ e, .ok e ∈ xs → e.name ≠ name

theorem ok_not_mem_decls {m : Marker} {t : Text} (h : m.sites t = []) (d : Decl) :
    .ok d ∉ m.decls t := by
  rw [Marker.decls, h]
  exact List.not_mem_nil

theorem not_firstKnown {t : Text} (h : ∀ d, .ok d ∉ Marker.coroutine.decls t) (name : Text)
    (d : Decl) : ¬ FirstKnown t name d := by
  rintro ⟨xs, ys, hdecls, _⟩
  exact h d (hdecls ▸ List.mem_append_right xs List.mem_cons_self)

/-- the coroutines that bridges are compared with -/
def Config.known (config : Config) (t : Text) : List Decl :=
  if config.crossCheck then (Marker.coroutine.decls t).filterMap Except.toOption else []

theorem counterpart?_eq_some_iff {ds : List (Except Fault Decl)} {name : Text} {d : Decl} :
    counterpart? (ds.filterMap Except.toOption) name = some d
      ↔ ∃ xs ys, ds = xs ++ .ok d :: ys ∧ d.name = name ∧ ∀ e, .ok e ∈ xs → e.name ≠ name := by
  unfold counterpart?
  rw [List.find?_eq_some_iff_append, decide_eq_true_iff]
  constructor
  · rintro ⟨hd, as, bs, e, has⟩
    obtain ⟨xs, zs, rfl, hxs, hzs⟩ := List.filterMap_eq_append_iff.1 e
    obtain ⟨us, x, ys, rfl, hus, hx, _⟩ := List.filterMap_eq_cons_iff.1 hzs
    obtain rfl : x = .ok d := by
      cases x with
      | error _ => cases hx
      | ok _ => cases hx; rfl
    refine ⟨xs ++ us, ys, (List.append_assoc ..).symm, hd, fun e he => ?_⟩
    rcases List.mem_append.1 he with he | he
    · have hmem : e ∈ as := by
        rw [← hxs]
        exact List.mem_filterMap.2 ⟨.ok e, he, rfl⟩
      simpa using has e hmem
    · exact absurd (hus _ he) (by simp [Except.toOption])
  · rintro ⟨xs, ys, rfl, hd, hxs⟩
    refine ⟨hd, xs.filterMap Except.toOption, ys.filterMap Except.toOption, ?_, fun e he => ?_⟩
    · rw [List.filterMap_append]
      rfl
    · obtain ⟨x, hx, hxe⟩ := List.mem_filterMap.1 he
      cases x with
      | error _ => cases hxe
      | ok _ =>
        cases hxe
        simpa using hxs e hx

variable {config : Config} {t : Text}

theorem counterpart?_known_iff {name : Text} {c : Decl} :
    counterpart? (config.known t) name = some c
      ↔ config.crossCheck = true ∧ FirstKnown t name c := by
  unfold Config.known
  by_cases h : config.crossCheck = true
  · rw [if_pos h, counterpart?_eq_some_iff]
    exact ⟨fun hc => ⟨h, hc⟩, fun hc => hc.2⟩
  · rw [if_neg h]
    exact ⟨fun hc => (by cases hc), fun hc => absurd hc.1 h⟩

theorem outcome_noteCounterpart (s : Site) :
    (noteCounterpart s).outcome = .ok s.decl.toOption := by
  unfold noteCounterpart
  cases s.decl <;> rfl

theorem outcome_counterparts (t : Text) :
    (counterparts t).outcome = .ok ((Marker.coroutine.decls t).filterMap Except.toOption) := by
  have hall : (fun s => (noteCounterpart s).outcome) = fun s => Pure.pure s.decl.toOption :=
    funext outcome_noteCounterpart
  unfold counterparts
  rw [Run.outcome_bind, Run.outcome_mapM, hall, List.mapM_pure, pure_bind, Run.outcome_pure,
    List.filterMap_map, Marker.decls, List.filterMap_map]
  rfl

/-! ## one declaration -/

/-- a declaration that can be bridged, with its block: it can be read and keeps the rules, and the
first declaration of its coroutine takes the same parameters, if it is looked for and there is
one -/
inductive Bridged (config : Config) (t : Text) : Except Fault Decl → Text → Prop
  | intro {d : Decl} {p : Plan} {r b : Text} (hplan : d.plan = .ok p) (hblock : d.block = .ok b)
      (hname : d.name = wrapperStem ++ r)
      (hagrees : config.crossCheck = true →
        ∀ c, FirstKnown t (coroutineStem ++ r) c → p.checkAgainst c = .ok ()) :
      Bridged config t (.ok d) b

/-- a declaration that cannot be bridged, with its fault: it cannot be read; or it can, but breaks
a rule; or it keeps the rules, but its coroutine takes other parameters -/
inductive Refused (config : Config) (t : Text) : Except Fault Decl → Fault → Prop
  | unread {fault : Fault} : Refused config t (.error fault) fault
  | unruly {d : Decl} {fault : Fault} (hplan : d.plan = .error fault) :
      Refused config t (.ok d) fault
  | drifted {d c : Decl} {p : Plan} {r : Text} {fault : Fault} (hplan : d.plan = .ok p)
      (hname : d.name = wrapperStem ++ r) (hcheck : config.crossCheck = true)
      (hknown : FirstKnown t (coroutineStem ++ r) c) (hdrift : p.checkAgainst c = .error fault) :
      Refused config t (.ok d) fault

theorem checkAmong_eq_ok_iff {p : Plan} :
    p.checkAmong (config.known t) = .ok ()
      ↔ (config.crossCheck = true → ∀ c, FirstKnown t p.coroutine c →
        p.checkAgainst c = .ok ()) := by
  unfold Plan.checkAmong
  cases h : counterpart? (config.known t) p.coroutine with
  | none =>
    refine ⟨fun _ hcheck c hc => ?_, fun _ => rfl⟩
    rw [counterpart?_known_iff.2 ⟨hcheck, hc⟩] at h
    cases h
  | some d =>
    constructor
    · intro hd _ c hc
      have hdc := counterpart?_known_iff.2 ⟨(counterpart?_known_iff.1 h).1, hc⟩
      rw [h] at hdc
      cases hdc
      exact hd
    · intro hall
      obtain ⟨hcheck, hd⟩ := counterpart?_known_iff.1 h
      exact hall hcheck d hd

theorem checkAmong_eq_error_iff {p : Plan} {fault : Fault} :
    p.checkAmong (config.known t) = .error fault
      ↔ config.crossCheck = true ∧ ∃ c, FirstKnown t p.coroutine c ∧
        p.checkAgainst c = .error fault := by
  unfold Plan.checkAmong
  cases h : counterpart? (config.known t) p.coroutine with
  | none =>
    constructor
    · intro he; cases he
    · rintro ⟨hcheck, c, hc, _⟩
      rw [counterpart?_known_iff.2 ⟨hcheck, hc⟩] at h
      cases h
  | some d =>
    constructor
    · intro he
      obtain ⟨hcheck, hd⟩ := counterpart?_known_iff.1 h
      exact ⟨hcheck, d, hd, he⟩
    · rintro ⟨hcheck, c, hc, he⟩
      rw [counterpart?_known_iff.2 ⟨hcheck, hc⟩] at h
      cases h
      exact he

theorem outcome_bridge (known : List Decl) (s : Site) :
    (bridge known s).outcome
      = s.decl >>= fun d => d.plan >>= fun p => p.checkAmong known >>= fun _ => .ok p.block := by
  unfold bridge
  simp only [Run.outcome_bind, Run.outcome_note, Run.outcome_ofExcept, Run.outcome_pure, ok_bind]

theorem Decl.block_eq_of_plan {d : Decl} {p : Plan} (h : d.plan = .ok p) :
    d.block = .ok p.block := by
  rw [Decl.block, h]
  rfl

/-- the name of a planned coroutine, once the stem of the bridge's name is known -/
theorem Planned.coroutine_eq {d : Decl} {p : Plan} (h : Planned d p) {r : Text}
    (hr : d.name = wrapperStem ++ r) : p.coroutine = coroutineStem ++ r := by
  obtain ⟨r', hname, hco⟩ := h.stem
  rw [hr] at hname
  rw [hco, List.append_cancel_left hname]

theorem outcome_bridge_ok_iff {s : Site} {b : Text} :
    (bridge (config.known t) s).outcome = .ok b ↔ Bridged config t s.decl b := by
  rw [outcome_bridge]
  constructor
  · intro h
    obtain ⟨d, hd, h⟩ := bind_eq_ok_iff.1 h
    obtain ⟨p, hp, h⟩ := bind_eq_ok_iff.1 h
    obtain ⟨_, hc, h⟩ := bind_eq_ok_iff.1 h
    cases h
    obtain ⟨r, hname, hco⟩ := (Decl.plan_eq_ok_iff.1 hp).stem
    rw [hd]
    exact .intro hp (Decl.block_eq_of_plan hp) hname (hco ▸ checkAmong_eq_ok_iff.1 hc)
  · intro h
    generalize hx : s.decl = x at h
    cases h with
    | @intro d p r b hp hb hname hagrees =>
      rw [← (Decl.plan_eq_ok_iff.1 hp).coroutine_eq hname] at hagrees
      rw [Decl.block_eq_of_plan hp] at hb
      cases hb
      refine bind_eq_ok_iff.2 ⟨d, rfl, bind_eq_ok_iff.2 ⟨p, hp, ?_⟩⟩
      exact bind_eq_ok_iff.2 ⟨(), checkAmong_eq_ok_iff.2 hagrees, rfl⟩

theorem outcome_bridge_error_iff {s : Site} {fault : Fault} :
    (bridge (config.known t) s).outcome = .error fault ↔ Refused config t s.decl fault := by
  rw [outcome_bridge]
  constructor
  · intro h
    rcases bind_eq_error_iff.1 h with hd | ⟨d, hd, h⟩
    · rw [hd]
      exact .unread
    rw [hd]
    rcases bind_eq_error_iff.1 h with hp | ⟨p, hp, h⟩
    · exact .unruly hp
    rcases bind_eq_error_iff.1 h with hc | ⟨_, _, h⟩
    · obtain ⟨hcheck, c, hknown, hdrift⟩ := checkAmong_eq_error_iff.1 hc
      obtain ⟨r, hname, hco⟩ := (Decl.plan_eq_ok_iff.1 hp).stem
      exact .drifted hp hname hcheck (hco ▸ hknown) hdrift
    · cases h
  · intro h
    generalize hx : s.decl = x at h
    cases h with
    | unread => exact bind_eq_error_iff.2 (.inl rfl)
    | unruly hp =>
      exact bind_eq_error_iff.2 (.inr ⟨_, rfl, bind_eq_error_iff.2 (.inl hp)⟩)
    | drifted hp hname hcheck hknown hdrift =>
      rw [← (Decl.plan_eq_ok_iff.1 hp).coroutine_eq hname] at hknown
      have hc := checkAmong_eq_error_iff.2 ⟨hcheck, _, hknown, hdrift⟩
      refine bind_eq_error_iff.2 (.inr ⟨_, rfl, bind_eq_error_iff.2 (.inr ⟨_, hp, ?_⟩)⟩)
      exact bind_eq_error_iff.2 (.inl hc)

/-! ## a whole text -/

theorem outcome_generate_eq (config : Config) (t : Text) :
    (generate config t).outcome
      = (Marker.wrapper.sites t).mapM (fun s => (bridge (config.known t) s).outcome)
          >>= fun blocks => .ok (assemble config.generator blocks) := by
  unfold generate Config.known
  by_cases h : config.crossCheck = true
  · simp only [h, if_true, Run.outcome_bind, outcome_counterparts, ok_bind, Run.outcome_mapM,
      Run.outcome_pure]
  · simp only [h, if_false, Run.outcome_bind, Run.outcome_pure, ok_bind, Run.outcome_mapM,
      Bool.false_eq_true]

/-- the block of a declaration, whose plan is compared with the coroutines that are known -/
def Decl.blockAmong (known : List Decl) (d : Decl) : Except Fault Text :=
  d.plan >>= fun p => p.checkAmong known >>= fun _ => .ok p.block

/-- the outcome of a run depends on the declarations of the text only -/
theorem outcome_generate_decls (config : Config) (t : Text) :
    (generate config t).outcome
      = (Marker.wrapper.decls t).mapM (fun x => x >>= Decl.blockAmong (config.known t))
          >>= fun blocks => .ok (assemble config.generator blocks) := by
  rw [outcome_generate_eq, Marker.decls, List.mapM_map]
  simp only [outcome_bridge]
  rfl

/-- the outcome of a run that compares nothing -/
theorem outcome_generate_unchecked (h : config.crossCheck = false) (t : Text) :
    (generate config t).outcome
      = (Marker.wrapper.decls t).mapM (fun x => x >>= Decl.block)
          >>= fun blocks => .ok (assemble config.generator blocks) := by
  have hknown : config.known t = [] := by
    rw [Config.known, h]
    rfl
  rw [outcome_generate_decls, hknown]
  rfl

theorem outcome_generate_ok_iff {out : Text} :
    (generate config t).outcome = .ok out
      ↔ ∃ blocks, List.Forall₂ (Bridged config t) (Marker.wrapper.decls t) blocks ∧
        out = assemble config.generator blocks := by
  rw [outcome_generate_eq, bind_eq_ok_iff]
  simp only [mapM_eq_ok_iff, outcome_bridge_ok_iff, Marker.decls, List.forall₂_map_left_iff,
    Except.ok.injEq, @eq_comm _ out]

theorem outcome_generate_error_iff {fault : Fault} :
    (generate config t).outcome = .error fault
      ↔ ∃ xs x ys, Marker.wrapper.decls t = xs ++ x :: ys ∧
        (∀ y ∈ xs, ∃ b, Bridged config t y b) ∧ Refused config t x fault := by
  rw [outcome_generate_eq, bind_eq_error_iff, mapM_eq_error_iff]
  simp only [outcome_bridge_ok_iff, outcome_bridge_error_iff]
  constructor
  · rintro (⟨xs, s, ys, e, hxs, hs⟩ | ⟨_, _, h⟩)
    · refine ⟨xs.map Site.decl, s.decl, ys.map Site.decl, ?_, ?_, hs⟩
      · rw [Marker.decls, e, List.map_append, List.map_cons]
      · exact List.forall_mem_map.2 hxs
    · cases h
  · rintro ⟨xs, x, ys, e, hxs, hx⟩
    obtain ⟨as, bs, hsites, rfl, hbs⟩ := List.map_eq_append_iff.1 e
    obtain ⟨s, cs, rfl, rfl, rfl⟩ := List.map_eq_cons_iff.1 hbs
    exact .inl ⟨as, s, cs, hsites, fun y hy => hxs y.decl (List.mem_map_of_mem hy), hx⟩

theorem forall₂_exists_iff {α β : Type} {R : α → β → Prop} {l : List α} :
    (∃ bs, List.Forall₂ R l bs) ↔ ∀ a ∈ l, ∃ b, R a b := by
  induction l with
  | nil => exact ⟨fun _ a ha => absurd ha List.not_mem_nil, fun _ => ⟨[], .nil⟩⟩
  | cons a l ih =>
    rw [List.forall_mem_cons, ← ih]
    constructor
    · rintro ⟨_, h⟩
      cases h with
      | cons hb hbs => exact ⟨⟨_, hb⟩, ⟨_, hbs⟩⟩
    · rintro ⟨⟨b, hb⟩, ⟨bs, hbs⟩⟩
      exact ⟨b :: bs, .cons hb hbs⟩

/-- **The outcome of a run.**  A file comes of a text if and only if every declaration of it can be
bridged; the file is then the header and the blocks of all declarations in order, with two empty
lines before each.  Otherwise the run reports the fault of the first declaration that is refused. -/
theorem outcome_generate (config : Config) (t : Text) :
    ((∃ out, (generate config t).outcome = .ok out)
      ↔ ∀ x ∈ Marker.wrapper.decls t, ∃ b, Bridged config t x b) ∧
    (∀ out, (generate config t).outcome = .ok out
      ↔ ∃ blocks, List.Forall₂ (Bridged config t) (Marker.wrapper.decls t) blocks ∧
        out = header config.generator ++ blocks.flatMap fun b => ['\n', '\n', '\n'] ++ b) ∧
    (∀ fault, (generate config t).outcome = .error fault
      ↔ ∃ xs x ys, Marker.wrapper.decls t = xs ++ x :: ys ∧
        (∀ y ∈ xs, ∃ b, Bridged config t y b) ∧ Refused config t x fault) := by
  refine ⟨?_, fun out => outcome_generate_ok_iff, fun fault => outcome_generate_error_iff⟩
  rw [← forall₂_exists_iff]
  constructor
  · rintro ⟨out, h⟩
    obtain ⟨blocks, hblocks, _⟩ := outcome_generate_ok_iff.1 h
    exact ⟨blocks, hblocks⟩
  · rintro ⟨blocks, hblocks⟩
    exact ⟨_, outcome_generate_ok_iff.2 ⟨blocks, hblocks, rfl⟩⟩

end CoroBridge
