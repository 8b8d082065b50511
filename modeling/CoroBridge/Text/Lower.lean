import CoroBridge.Text.Upper

/-!
# Lowercase

* `Text.lower c`       the character whose uppercase form is a character, and the character itself if
                       there is none.
-/

namespace CoroBridge
namespace Text

/-- the character whose capital is another one -/
def lower (c : Char) : Char :=
  if c.toNat < 128 then c.toLower
  else
    match upperRuns.findSome? fun r =>
      let last := r.image + (r.last - r.first)
      if r.image ≤ c.toNat && c.toNat ≤ last && (c.toNat - r.image) % r.step == 0 then
        some (r.first + (c.toNat - r.image))
      else none with
    | some n => Char.ofNat n
    | none => c

theorem lower_of_ascii {c : Char} (h : c.toNat < 128) : lower c = c.toLower := by
  simp [lower, h]

end Text
end CoroBridge
