/-! Classes of characters, given by the places where membership changes. -/

namespace Dialogue.Text

-- The code points at which a class starts or ends, in ascending order.
abbrev Class := List Nat

def Class.contains (changes : Class) (c : Char) : Bool :=
  changes.foldl (fun inside change => if change ≤ c.toNat then !inside else inside) false

end Dialogue.Text
