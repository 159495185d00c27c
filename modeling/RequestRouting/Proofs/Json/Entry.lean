import Mathlib.Data.List.TakeDrop
import RequestRouting.Json.Printer
import RequestRouting.Json.Selection
import RequestRouting.Proofs.Text.Numerals

/-!
# JSON objects of one number

The compact text of an object with one number in it is read back as that object.
-/

set_option autoImplicit false

namespace RequestRouting.Json

open Document (Shape)

variable {cs digits rest : List Char} {n : Nat}

/-! ## Texts -/

def Unescaped (s : String) : Prop := ∀ c ∈ s.toList, escapeChar c = [c]

instance (s : String) : Decidable (Unescaped s) :=
  List.decidableBAll (fun c => escapeChar c = [c]) s.toList

theorem plain_of_escapeChar {c : Char} (h : escapeChar c = [c]) :
    c ≠ '"' ∧ c ≠ '\\' ∧ ¬ c.toNat < 0x20 := by
  refine ⟨?_, ?_, fun hcontrol => ?_⟩
  · rintro rfl
    cases h
  · rintro rfl
    cases h
  · rw [escapeChar] at h
    simp only [if_pos hcontrol] at h
    split_ifs at h <;> cases h

theorem stringBody?_plain (hcs : ∀ c ∈ cs, escapeChar c = [c]) (fuel : Nat) :
    stringBody? (fuel + cs.length + 1) (cs ++ '"' :: rest) = some (cs, rest) := by
  induction cs with
  | nil => rfl
  | cons c cs ih =>
    obtain ⟨hc, hbehind⟩ := List.forall_mem_cons.mp hcs
    obtain ⟨hquote, hbackslash, hcontrol⟩ := plain_of_escapeChar hc
    rw [List.length_cons, List.cons_append, ← Nat.add_assoc, stringBody?, if_neg hquote,
      if_neg hbackslash, if_neg hcontrol, ih hbehind]
    rfl

theorem string?_plain {name : String} (hname : Unescaped name) :
    string? (name.toList ++ '"' :: rest) = some (name, rest) := by
  have hlength : (name.toList ++ '"' :: rest).length = rest.length + 1 + name.toList.length := by
    rw [List.length_append, List.length_cons, Nat.add_comm]
  rw [string?, hlength, stringBody?_plain hname, Option.map_some]
  simp only [String.ofList_toList]

theorem skipSpace_of_solid {c : Char} (hc : isSpace c = false) :
    skipSpace (c :: rest) = c :: rest :=
  List.dropWhile_cons_of_neg (by rw [hc]; exact Bool.false_ne_true)

/-! ## Numbers -/

theorem span_digits (hdigits : ∀ c ∈ digits, c.isDigit = true)
    (hrest : ∀ c ∈ rest.head?, c.isDigit = false) :
    (digits ++ rest).span Char.isDigit = (digits, rest) := by
  rw [List.span_eq_takeWhile_dropWhile, List.takeWhile_append_of_pos hdigits,
    List.dropWhile_append_of_pos hdigits]
  cases rest with
  | nil => simp
  | cons c more =>
    have hc : ¬ c.isDigit = true := by simpa using hrest c rfl
    rw [List.takeWhile_cons_of_neg hc, List.dropWhile_cons_of_neg hc, List.append_nil]

theorem wholePart?_toDigits (hrest : ∀ c ∈ rest.head?, c.isDigit = false) :
    wholePart? (Nat.toDigits 10 n ++ rest) = some (Nat.toDigits 10 n, rest) := by
  rw [wholePart?, span_digits (Text.isDigit_toDigits n) hrest]
  split
  · rename_i heq
    exact absurd (Prod.mk.inj heq).1 Nat.toDigits_ne_nil
  · rename_i heq
    cases Text.eq_nil_of_toDigits_eq_cons (Prod.mk.inj heq).1
  · rfl

theorem number?_toDigits (h : n < UInt64.size) :
    number? false (Nat.toDigits 10 n ++ '\x7d' :: rest) = some (.int n, '\x7d' :: rest) := by
  have hwhole : wholePart? (Nat.toDigits 10 n ++ '\x7d' :: rest) =
      some (Nat.toDigits 10 n, '\x7d' :: rest) := wholePart?_toDigits (by rintro c ⟨⟩; decide)
  have hvalue : Text.digitsNat (Nat.toDigits 10 n) = n := by
    rw [Text.digitsNat_eq, Nat.ofDigitChars_ten_toDigits]
  rw [number?, hwhole]
  simp [fraction?, exponent?, hvalue, isInteger, h]

theorem valueWithin_toDigits (h : n < UInt64.size) (depth : Nat) :
    valueWithin depth (Nat.toDigits 10 n ++ '\x7d' :: rest) = some (.int n, '\x7d' :: rest) := by
  obtain ⟨d, ds, hdigits, hd⟩ := Text.exists_toDigits_eq_cons n
  have hmarks : "ntf\"-[\x7b".toList.any Char.isDigit = false := by decide
  have hne : ∀ mark ∈ "ntf\"-[\x7b".toList, d ≠ mark := by
    rintro _ hmark rfl
    exact List.any_eq_false.mp hmarks d hmark hd
  rw [← number?_toDigits h, hdigits, List.cons_append, valueWithin.eq_def]
  split
  case h_8 => rfl
  all_goals
    rename_i heq
    exact absurd (List.cons.inj heq).1 (hne _ (by decide))

/-! ## Objects -/

theorem compact_entry (name : String) (n : Nat) :
    (compact (.object [(name, .int n)])).toList =
      '\x7b' :: '"' :: (name.toList.flatMap escapeChar ++
        '"' :: ':' :: (Nat.toDigits 10 n ++ ['\x7d'])) := by
  have hnumber : (compact (.int n)).toList = Nat.toDigits 10 n := Text.toList_toString n
  rw [compact, compactFields]
  simp [quote, hnumber]

theorem objectWith_entry {value : String → List Char → Option (Json × List Char)} {name : String}
    {v : Json} (hname : Unescaped name)
    (hvalue : value name (skipSpace cs) = some (v, '\x7d' :: rest)) :
    objectWith value ('"' :: (name.toList ++ '"' :: ':' :: cs)) =
      some (.object [(name, v)], rest) := by
  have hquote : ∀ cs, skipSpace ('"' :: cs) = '"' :: cs := fun _ => skipSpace_of_solid (by decide)
  have hcolon : ∀ cs, skipSpace (':' :: cs) = ':' :: cs := fun _ => skipSpace_of_solid (by decide)
  have hbrace : ∀ cs, skipSpace ('\x7d' :: cs) = '\x7d' :: cs := fun _ =>
    skipSpace_of_solid (by decide)
  have hfields : ∀ fuel, fieldsWith value (fuel + 1) ('"' :: (name.toList ++ '"' :: ':' :: cs)) =
      some ([(name, v)], rest) := by
    intro fuel
    rw [fieldsWith, string?_plain hname]
    simp only [hcolon, hvalue, hbrace]
  rw [objectWith, hquote]
  exact congrArg (Option.map fun found => (Json.object found.1, found.2)) (hfields _)

theorem selectWithin_single (depth : Nat) (cs : List Char) :
    selectWithin depth .single cs = valueWithin depth cs := by
  rw [selectWithin.eq_def]
  split <;> first | rfl | contradiction

theorem select?_entry {name : String} {fields : List (String × Shape)}
    (hname : Unescaped name) (hfield : fields.lookup name = some .single)
    (h : n < UInt64.size) :
    select? (.record fields) (compact (.object [(name, .int n)])) =
      some (.object [(name, .int n)]) := by
  have hplain : name.toList.flatMap escapeChar = name.toList := by
    rw [List.flatMap_def, List.map_congr_left hname, ← List.flatMap_def, List.flatMap_singleton']
  have hspace : skipSpace (Nat.toDigits 10 n ++ ['\x7d']) = Nat.toDigits 10 n ++ ['\x7d'] := by
    obtain ⟨d, ds, hdigits, hd⟩ := Text.exists_toDigits_eq_cons n
    rw [hdigits]
    exact skipSpace_of_solid (Text.of_isDigit (isSpace · = false) (by decide) hd)
  have hvalue : selectWithin 126 .single (Nat.toDigits 10 n ++ ['\x7d']) =
      some (.int n, ['\x7d']) := by
    rw [selectWithin_single, valueWithin_toDigits h]
  have hwhole : selectWithin maxDepth (.record fields)
      ('\x7b' :: '"' :: (name.toList ++ '"' :: ':' :: (Nat.toDigits 10 n ++ ['\x7d']))) =
      some (.object [(name, .int n)], []) := by
    rw [maxDepth, selectWithin]
    refine objectWith_entry hname ?_
    rw [hfield, hspace]
    exact hvalue
  rw [select?, whole?, compact_entry, hplain, skipSpace_of_solid (by decide), hwhole]
  rfl

end RequestRouting.Json
