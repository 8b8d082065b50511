import CoroBridge.Proofs.Outcome
import CoroBridge.Proofs.Tokens

/-!
# Cross-checks: a run that compares beside one that does not

A run that compares the bridges with their coroutines may end before another one does that compares
nothing.  Here the two runs go through the declarations of a text side by side.

* `Decl.DriftsFrom`          a declaration that keeps the rules, and differs from the first one of
                             its coroutine;
* `Decl.blockAmong_eq_or_drift`   for one declaration the two runs do the same, or the one that
                             compares reports such a difference;
* `mapM_blockAmong_eq_or_drift`   for a list of declarations as well, at the first one that differs;
* `Decl.fault_of_block`      a run that compares nothing reports malformed and unsupported
                             declarations only;
* `generate_crossCheck`      the comparison ends runs early, and changes no file.
-/

namespace CoroBridge

/-! ## one declaration -/

namespace Decl
variable {known : List Decl} {d c : Decl} {m : Mismatch}

/-- the declaration keeps the rules, but differs by `m` from `c`, which is the first one of its
coroutine among those that are known -/
def DriftsFrom (known : List Decl) (d c : Decl) (m : Mismatch) : Prop :=
  ∃ p, d.plan = .ok p ∧ counterpart? known p.coroutine = some c ∧ d.mismatch? c = some m

/-- a declaration that drifts has the block that it gets without the comparison -/
theorem DriftsFrom.exists_block (h : d.DriftsFrom known c m) : ∃ b, d.block = .ok b := by
  obtain ⟨p, hp, _⟩ := h
  exact ⟨p.block, block_eq_of_plan hp⟩

/-- with the comparison a declaration gets the block that it gets without, or drifts -/
theorem blockAmong_eq_or_drift (known : List Decl) (d : Decl) :
    d.blockAmong known = d.block ∨
      ∃ c m, d.DriftsFrom known c m ∧ d.blockAmong known = .error (.drift d.name c.name m) := by
  cases hp : d.plan with
  | error fault =>
    left
    rw [blockAmong, block, hp]
    rfl
  | ok p =>
    have hwrapper := (plan_eq_ok_iff.1 hp).wrapper_eq
    have hamong : d.blockAmong known = p.checkAmong known >>= fun _ => .ok p.block := by
      rw [blockAmong, hp]
      rfl
    rw [hamong, block_eq_of_plan hp]
    cases hc : counterpart? known p.coroutine with
    | none =>
      left
      rw [Plan.checkAmong, hc]
      rfl
    | some c =>
      have hcheck : p.checkAmong known = p.checkAgainst c := by rw [Plan.checkAmong, hc]
      rw [hcheck, Plan.checkAgainst, hwrapper]
      cases hm : d.mismatch? c with
      | none => exact .inl rfl
      | some m => exact .inr ⟨c, m, ⟨p, hp, hc, hm⟩, rfl⟩

/-- a run that compares nothing reports that a declaration cannot be read or breaks a rule -/
theorem fault_of_block {x : Except Fault Decl} {m : Marker} {t : Text} (hx : x ∈ m.decls t)
    {fault : Fault} (h : x >>= block = .error fault) :
    (∃ f g, fault = .malformed f g) ∨ ∃ f b, fault = .unsupported f b := by
  rcases bind_eq_error_iff.1 h with rfl | ⟨d, rfl, hd⟩
  · obtain ⟨s, _, hs⟩ := List.mem_map.1 hx
    unfold Site.decl Statement.decl read at hs
    split at hs
    · cases hs
    · cases hs
      exact .inl ⟨_, _, rfl⟩
  · unfold block plan at hd
    cases hp : d.plan? with
    | ok p => rw [hp] at hd; cases hd
    | error b =>
      rw [hp] at hd
      cases hd
      exact .inr ⟨_, b, rfl⟩

end Decl

/-! ## lists of declarations -/

/-- a walk along some declarations that compares does the same as one that does not, or stops at the
first declaration that drifts, of which the other walk passes all that stand before -/
theorem mapM_blockAmong_eq_or_drift (known : List Decl) (l : List (Except Fault Decl)) :
    l.mapM (· >>= Decl.blockAmong known) = l.mapM (· >>= Decl.block) ∨
      ∃ xs d ys c m, l = xs ++ .ok d :: ys ∧ (∀ y ∈ xs, ∃ b, y >>= Decl.block = .ok b) ∧
        d.DriftsFrom known c m ∧
        l.mapM (· >>= Decl.blockAmong known) = .error (.drift d.name c.name m) := by
  induction l with
  | nil => exact .inl rfl
  | cons x l ih =>
    have hstep : x >>= Decl.blockAmong known = x >>= Decl.block ∨
        ∃ d c m, x = .ok d ∧ d.DriftsFrom known c m ∧
          x >>= Decl.blockAmong known = .error (.drift d.name c.name m) := by
      cases x with
      | error fault => exact .inl rfl
      | ok d =>
        rcases d.blockAmong_eq_or_drift known with heq | ⟨c, m, hdrift, herr⟩
        · exact .inl heq
        · exact .inr ⟨d, c, m, rfl, hdrift, herr⟩
    rw [List.mapM_cons, List.mapM_cons]
    rcases hstep with heq | ⟨d, c, m, rfl, hdrift, herr⟩
    · rw [heq]
      cases hb : x >>= Decl.block with
      | error fault => exact .inl rfl
      | ok b =>
        rcases ih with hl | ⟨xs, d, ys, c, m, rfl, hxs, hdrift, herr⟩
        · rw [hl]
          exact .inl rfl
        · refine .inr ⟨x :: xs, d, ys, c, m, rfl, List.forall_mem_cons.2 ⟨⟨b, hb⟩, hxs⟩, hdrift, ?_⟩
          rw [ok_bind, herr]
          rfl
    · refine .inr ⟨[], d, l, c, m, rfl, fun _ hy => absurd hy List.not_mem_nil, hdrift, ?_⟩
      rw [herr]
      rfl

/-- of two places in a list, one comes before the other or they are the same -/
theorem cut_cases {α : Type} {xs ys us vs : List α} {x u : α} (h : xs ++ x :: ys = us ++ u :: vs) :
    u ∈ xs ∨ x = u ∨ x ∈ us := by
  rcases List.append_eq_append_iff.1 h with ⟨ws, rfl, hw⟩ | ⟨ws, rfl, hw⟩
  · rcases List.cons_eq_append_iff.1 hw with ⟨_, hw⟩ | ⟨ws', rfl, _⟩
    · exact .inr (.inl (List.cons.inj hw).1.symm)
    · exact .inr (.inr (List.mem_append_right xs List.mem_cons_self))
  · rcases List.cons_eq_append_iff.1 hw with ⟨_, hw⟩ | ⟨ws', rfl, _⟩
    · exact .inr (.inl (List.cons.inj hw).1)
    · exact .inl (List.mem_append_right us List.mem_cons_self)

/-! ## runs -/

/-- the outcome of a run that compares is that of one that does not, or a declaration drifts, and
all that stand before it can be bridged -/
theorem outcome_generate_checked (generator t : Text) :
    (generate ⟨generator, true⟩ t).outcome = (generate ⟨generator, false⟩ t).outcome ∨
      ∃ xs d ys c m, Marker.wrapper.decls t = xs ++ .ok d :: ys ∧
        (∀ y ∈ xs, ∃ b, y >>= Decl.block = .ok b) ∧
        d.DriftsFrom ((⟨generator, true⟩ : Config).known t) c m ∧
        (generate ⟨generator, true⟩ t).outcome = .error (.drift d.name c.name m) := by
  rw [outcome_generate_decls, outcome_generate_unchecked rfl]
  rcases mapM_blockAmong_eq_or_drift ((⟨generator, true⟩ : Config).known t)
    (Marker.wrapper.decls t) with heq | ⟨xs, d, ys, c, m, hdecls, hxs, hdrift, herr⟩
  · rw [heq]
    exact .inl rfl
  · rw [herr]
    exact .inr ⟨xs, d, ys, c, m, hdecls, hxs, hdrift, rfl⟩

/-- a declaration can only drift from a coroutine that its text declares -/
theorem Decl.DriftsFrom.coroutine {config : Config} {t : Text} {d c : Decl} {m : Mismatch}
    (h : d.DriftsFrom (config.known t) c m) :
    .ok c ∈ Marker.coroutine.decls t ∧ coroutineName? d.name = some c.name := by
  obtain ⟨p, hp, hc, _⟩ := h
  obtain ⟨_, us, vs, hdecls, hname, _⟩ := counterpart?_known_iff.1 hc
  obtain ⟨r, hd, hco⟩ := (Decl.plan_eq_ok_iff.1 hp).stem
  exact ⟨hdecls ▸ List.mem_append_right us List.mem_cons_self,
    coroutineName?_eq_some_iff.2 ⟨r, hd, hname.trans hco⟩⟩

/-- the first declaration that a run without the comparison cannot bridge -/
theorem exists_of_outcome_unchecked {generator t : Text} {fault : Fault}
    (h : (generate ⟨generator, false⟩ t).outcome = .error fault) :
    ∃ xs x ys, Marker.wrapper.decls t = xs ++ x :: ys ∧
      (∀ y ∈ xs, ∃ b, y >>= Decl.block = .ok b) ∧ x >>= Decl.block = .error fault := by
  rw [outcome_generate_unchecked rfl] at h
  rcases bind_eq_error_iff.1 h with h | ⟨_, _, h⟩
  · exact mapM_eq_error_iff.1 h
  · cases h

/-- **The comparison filters runs and changes no file.**  What a run with the comparison makes of a
text, a run without it makes as well.  Where a run without it succeeds, one with it does the same or
reports that a declaration of the text differs from its coroutine.  Where a run without it reports a
fault of some declaration, which is never such a difference, one with it reports the same fault, or
a difference at a declaration before that one.  The two runs have the same outcome if no coroutine
that the text declares, and that can be read, is the coroutine of a bridge that it declares. -/
theorem generate_crossCheck (generator t : Text) :
    (∀ out, (generate ⟨generator, true⟩ t).outcome = .ok out →
      (generate ⟨generator, false⟩ t).outcome = .ok out) ∧
    (∀ out, (generate ⟨generator, false⟩ t).outcome = .ok out →
      (generate ⟨generator, true⟩ t).outcome = .ok out ∨
      ∃ d c m, .ok d ∈ Marker.wrapper.decls t ∧
        (generate ⟨generator, true⟩ t).outcome = .error (.drift d.name c m)) ∧
    (∀ fault, (generate ⟨generator, false⟩ t).outcome = .error fault →
      (∀ f c m, fault ≠ .drift f c m) ∧
      ∃ xs x ys, Marker.wrapper.decls t = xs ++ x :: ys ∧
        (∀ y ∈ xs, ∃ b, y >>= Decl.block = .ok b) ∧ x >>= Decl.block = .error fault ∧
        ((generate ⟨generator, true⟩ t).outcome = .error fault ∨
          ∃ d c m, .ok d ∈ xs ∧
            (generate ⟨generator, true⟩ t).outcome = .error (.drift d.name c m))) ∧
    ((∀ d, .ok d ∈ Marker.wrapper.decls t → ∀ c, .ok c ∈ Marker.coroutine.decls t →
        coroutineName? d.name ≠ some c.name) →
      (generate ⟨generator, true⟩ t).outcome = (generate ⟨generator, false⟩ t).outcome) := by
  have hruns := outcome_generate_checked generator t
  refine ⟨fun out h => ?_, fun out h => ?_, fun fault h => ⟨?_, ?_⟩, fun hnone => ?_⟩
  · rcases hruns with heq | ⟨_, _, _, _, _, _, _, _, herr⟩
    · rw [← heq, h]
    · rw [h] at herr
      cases herr
  · rcases hruns with heq | ⟨xs, d, ys, c, m, hdecls, _, _, herr⟩
    · exact .inl (heq.trans h)
    · refine .inr ⟨d, c.name, m, ?_, herr⟩
      rw [hdecls]
      exact List.mem_append_right xs List.mem_cons_self
  · obtain ⟨xs, x, ys, hdecls, _, hx⟩ := exists_of_outcome_unchecked h
    have hmem : x ∈ Marker.wrapper.decls t :=
      hdecls ▸ List.mem_append_right xs List.mem_cons_self
    rintro f c m rfl
    rcases Decl.fault_of_block hmem hx with ⟨_, _, hne⟩ | ⟨_, _, hne⟩
    · cases hne
    · cases hne
  · obtain ⟨xs, x, ys, hdecls, hxs, hx⟩ := exists_of_outcome_unchecked h
    refine ⟨xs, x, ys, hdecls, hxs, hx, ?_⟩
    rcases hruns with heq | ⟨us, d, vs, c, m, hcut, hus, hdrift, herr⟩
    · exact .inl (heq.trans h)
    · refine .inr ⟨d, c.name, m, ?_, herr⟩
      rcases cut_cases (hdecls.symm.trans hcut) with hd | rfl | hxus
      · exact hd
      · obtain ⟨b, hb⟩ := hdrift.exists_block
        rw [ok_bind, hb] at hx
        cases hx
      · obtain ⟨b, hb⟩ := hus x hxus
        rw [hb] at hx
        cases hx
  · rcases hruns with heq | ⟨xs, d, ys, c, m, hdecls, _, hdrift, _⟩
    · exact heq
    · have hd : .ok d ∈ Marker.wrapper.decls t :=
        hdecls ▸ List.mem_append_right xs List.mem_cons_self
      obtain ⟨hc, hname⟩ := hdrift.coroutine
      exact absurd hname (hnone d hd c hc)

/-- a text that declares a coroutine, its bridge with another handle, and a bridge that leaves a
parameter without a name -/
def driftText : Text :=
  ("int coroutine_fn bdrv_co_flush(BdrvChild *child);\n" : Text)
    ++ ("int generated_co_wrapper bdrv_flush(BlockDriverState *bs);\n" : Text)
    ++ "int generated_co_wrapper bdrv_pause(BlockDriverState *);\n"

theorem outcome_generate_driftText :
    (generate ⟨"co-wrapper", false⟩ driftText).outcome
      = .error (.malformed "bdrv_pause" "BlockDriverState *") := by
  decide +kernel

/-- the run that compares stops at the first bridge, the other one at the second -/
theorem generate_crossCheck_driftText :
    (generate ⟨"co-wrapper", false⟩ driftText).outcome
      = .error (.malformed "bdrv_pause" "BlockDriverState *") ∧
    ∃ xs x ys, Marker.wrapper.decls driftText = xs ++ x :: ys ∧
      (∀ y ∈ xs, ∃ b, y >>= Decl.block = .ok b) ∧
      x >>= Decl.block = .error (.malformed "bdrv_pause" "BlockDriverState *") ∧
      ∃ d c m, .ok d ∈ xs ∧
        (generate ⟨"co-wrapper", true⟩ driftText).outcome = .error (.drift d.name c m) := by
  have hchecked : (generate ⟨"co-wrapper", true⟩ driftText).outcome
      = .error (.drift "bdrv_flush" "bdrv_co_flush"
          (.type 1 "bs" "BlockDriverState *" "BdrvChild *")) := by decide +kernel
  obtain ⟨_, _, hfails, _⟩ := generate_crossCheck "co-wrapper" driftText
  obtain ⟨_, xs, x, ys, hdecls, hxs, hx, hruns⟩ := hfails _ outcome_generate_driftText
  refine ⟨outcome_generate_driftText, xs, x, ys, hdecls, hxs, hx, hruns.resolve_left ?_⟩
  rw [hchecked]
  intro h
  cases h

end CoroBridge
