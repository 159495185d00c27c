/-!
# Blank characters

`isBlank` is the Unicode property White_Space, and `trim` strips it from both ends of a text.
-/

set_option autoImplicit false

namespace RequestRouting.Text

/-- The twenty-five code points that have the property White_Space. -/
def isBlank (c : Char) : Bool :=
  let n := c.toNat
  (9 ≤ n && n ≤ 13) || n == 0x20 || n == 0x85 || n == 0xA0 || n == 0x1680 ||
    (0x2000 ≤ n && n ≤ 0x200A) || n == 0x2028 || n == 0x2029 || n == 0x202F || n == 0x205F ||
    n == 0x3000

def trimChars (cs : List Char) : List Char :=
  ((cs.dropWhile isBlank).reverse.dropWhile isBlank).reverse

def trim (s : String) : String := String.ofList (trimChars s.toList)

@[simp] theorem toList_trim (s : String) : (trim s).toList = trimChars s.toList := by
  simp [trim]

theorem trimChars_eq_self {cs : List Char} (first : ∀ c ∈ cs.head?, isBlank c = false)
    (last : ∀ c ∈ cs.getLast?, isBlank c = false) : trimChars cs = cs := by
  cases cs with
  | nil => rfl
  | cons c rest =>
    have hc : isBlank c = false := first c (by simp)
    have hd : (c :: rest).dropWhile isBlank = c :: rest := by simp [hc]
    rw [trimChars, hd]
    cases hr : (c :: rest).reverse with
    | nil => simp at hr
    | cons d tail =>
      have hl : (c :: rest).getLast? = some d := by
        rw [← List.head?_reverse, hr]
        rfl
      have hdb : isBlank d = false := last d (by simp [hl])
      rw [List.dropWhile_cons, hdb]
      simp [← hr]

end RequestRouting.Text
