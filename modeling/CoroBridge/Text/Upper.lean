import CoroBridge.Text.Upper.Table

/-!
# Uppercase

* `Text.upper c`       the uppercase form of a character: one to three characters, and the character
                       itself if it has none;
* `Text.capital t`     a text with its first character in uppercase.
-/

namespace CoroBridge
namespace Text

/-- the uppercase form of a character -/
def upper (c : Char) : Text :=
  if c.toNat < 0x80 then [c.toUpper]
  else
    match upperExpansions.lookup c.toNat with
    | some ns => ns.map Char.ofNat
    | none =>
      match upperRuns.findSome? (·.map? c.toNat) with
      | some n => [Char.ofNat n]
      | none => [c]

theorem upper_of_ascii {c : Char} (h : c.toNat < 0x80) : upper c = [c.toUpper] := by
  simp [upper, h]

def capital : Text → Text
  | [] => []
  | c :: r => upper c ++ r

@[simp] theorem capital_nil : capital [] = [] := rfl
@[simp] theorem capital_cons (c : Char) (r : Text) : capital (c :: r) = upper c ++ r := rfl

end Text
end CoroBridge
