/-!
# Ranges of code points

A class of characters as a list of ranges.
-/

set_option autoImplicit false

namespace RequestRouting.Text

def isWithin (ranges : List (Nat × Nat)) (c : Char) : Bool :=
  ranges.any fun r => r.1 ≤ c.toNat && c.toNat ≤ r.2

end RequestRouting.Text
