import CoroBridge.Block

/-!
# Rules: which declarations have a plan

The rules for bridges are tested one after the other, the names of the parameters with a list of
the names before.  Here they stand side by side:

* `nameBreach?_eq_none_iff`   the names are distinct, and none of them is reserved;
* `Planned d p`               `d` keeps the rules, and `p` says what follows for its bridge;
* `plan_eq_ok_iff`            a declaration has a plan if and only if it keeps the rules.
-/

namespace CoroBridge

theorem nameBreach?_eq_none_iff {seen ns : List Text} :
    nameBreach? seen ns = none
      ↔ ns.Nodup ∧ ∀ n ∈ ns, n ∉ reservedNames ∧ n ∉ seen := by
  induction ns generalizing seen with
  | nil => simp
  | cons n ns ih =>
    by_cases hr : n ∈ reservedNames
    · simp [nameBreach?, hr]
    · by_cases hs : n ∈ seen
      · simp [nameBreach?, hr, hs]
      · simp only [nameBreach?, hr, hs, if_false, ih, List.nodup_cons, List.mem_cons,
          forall_eq_or_imp, not_or, not_false_eq_true, and_self, true_and]
        constructor
        · rintro ⟨hnd, hall⟩
          exact ⟨⟨fun hm => (hall n hm).2.1 rfl, hnd⟩, fun x hx => ⟨(hall x hx).1, (hall x hx).2.2⟩⟩
        · rintro ⟨⟨hn, hnd⟩, hall⟩
          refine ⟨hnd, fun x hx => ⟨(hall x hx).1, ?_, (hall x hx).2⟩⟩
          rintro rfl
          exact hn hx

/-- `d` keeps the rules for bridges, and `p` is what follows for its bridge: the coroutine has the
name of the bridge under the other stem, and the first parameter is the handle -/
structure Planned (d : Decl) (p : Plan) : Prop where
  wrapper_eq : p.wrapper = d
  result_eq : d.result = statusType
  no_coroutine : ¬ coroutineStem <+: d.name
  stem : ∃ r, d.name = wrapperStem ++ r ∧ p.coroutine = coroutineStem ++ r
  first : ∃ q qs, d.params = q :: qs ∧ q.ty = p.handle.typeText ∧ p.subject = q.name
  nodup : (d.params.map Param.name).Nodup
  free : ∀ q ∈ d.params, q.name ∉ reservedNames

namespace Decl

theorem plan?_eq_ok_iff {d : Decl} {p : Plan} : d.plan? = .ok p ↔ Planned d p := by
  constructor
  · intro h
    unfold plan? at h
    split at h
    · cases h
    next hres =>
    split at h
    · cases h
    next hco =>
    split at h
    · cases h
    · cases h
    next co q qs hstem hparams =>
    split at h
    · cases h
    next handle hhandle =>
    split at h
    · cases h
    next hnames =>
    cases h
    obtain ⟨hnd, hfree⟩ := nameBreach?_eq_none_iff.1 hnames
    exact {
      wrapper_eq := rfl
      result_eq := Decidable.not_not.1 hres
      no_coroutine := fun h => hco (List.isPrefixOf_iff_prefix.2 h)
      stem := coroutineName?_eq_some_iff.1 hstem
      first := ⟨q, qs, hparams, Handle.ofType?_eq_some_iff.1 hhandle, rfl⟩
      nodup := hnd
      free := fun q hq => (hfree _ (List.mem_map_of_mem hq)).1 }
  · rintro ⟨rfl, hres, hco, hstem, ⟨q, qs, hparams, hty, hsub⟩, hnd, hfree⟩
    have hco' : ¬ coroutineStem.isPrefixOf p.wrapper.name = true :=
      fun h => hco (List.isPrefixOf_iff_prefix.1 h)
    have hnames : nameBreach? [] (p.wrapper.params.map Param.name) = none := by
      refine nameBreach?_eq_none_iff.2 ⟨hnd, fun n hn => ?_⟩
      obtain ⟨q, hq, rfl⟩ := List.mem_map.1 hn
      exact ⟨hfree q hq, List.not_mem_nil⟩
    unfold plan?
    rw [if_neg (fun h => h hres), if_neg hco', coroutineName?_eq_some_iff.2 hstem, hnames, hparams]
    simp only [Handle.ofType?_eq_some_iff.2 hty, ← hsub]

/-- **A declaration has a plan if and only if it keeps the rules.** -/
theorem plan_eq_ok_iff {d : Decl} {p : Plan} : d.plan = .ok p ↔ Planned d p := by
  rw [← plan?_eq_ok_iff, Decl.plan]
  cases d.plan? with
  | ok q =>
    constructor
    · intro h
      cases h
      rfl
    · intro h
      cases h
      rfl
  | error breach =>
    constructor
    · intro h
      cases h
    · intro h
      cases h

end Decl
end CoroBridge
