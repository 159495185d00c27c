import RequestRouting.Text.Ascii

/-!
# Headers

Named texts in order. Names are compared without regard to the case of ASCII letters.
-/

set_option autoImplicit false

namespace RequestRouting

abbrev Headers := List (String × String)

namespace Headers

def get? (headers : Headers) (name : String) : Option String :=
  (headers.find? fun h => Text.sameName h.1 name).map (·.2)

/-- Removes all headers with the name and adds it at the end. -/
def set (headers : Headers) (name value : String) : Headers :=
  headers.filter (fun h => !Text.sameName h.1 name) ++ [(name, value)]

end Headers

end RequestRouting
