/-!
# ASCII letters

Case folding that touches the letters `A` to `Z` and `a` to `z` and nothing else, and the
comparison of names that it gives.
-/

set_option autoImplicit false

namespace RequestRouting.Text

def lower (s : String) : String := String.ofList (s.toList.map Char.toLower)

def upper (s : String) : String := String.ofList (s.toList.map Char.toUpper)

/-- Two names agree when they differ at most in the case of ASCII letters. -/
def sameName (a b : String) : Bool := lower a == lower b

theorem sameName_refl (a : String) : sameName a a = true := by simp [sameName]

theorem sameName_iff {a b : String} : sameName a b = true ↔ lower a = lower b := by
  simp [sameName]

theorem sameName_comm (a b : String) : sameName a b = sameName b a := by
  simp [sameName, Bool.beq_comm]

end RequestRouting.Text
