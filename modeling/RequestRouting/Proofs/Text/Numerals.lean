import RequestRouting.Proofs.Text.Trimming
import RequestRouting.Text.Ascii
import RequestRouting.Text.Decimal
import RequestRouting.Text.Numeral

/-!
# Numbers and truth words in texts

What is read as a number are decimal digits, with or without a plus sign; what is read as a truth
value is one of eight words, letters in either case. Blanks around them do not count.
-/

set_option autoImplicit false

namespace RequestRouting.Text

variable {s core : String} {cs : List Char} {n : Nat} {c : Char}

/-! ## Blanks around a core -/

def Pads (s core : String) : Prop :=
  ∃ before after, AllBlank before ∧ AllBlank after ∧ s = before ++ core ++ after

theorem trimChars_split (cs : List Char) : ∃ before after, (∀ c ∈ before, isBlank c = true) ∧
    (∀ c ∈ after, isBlank c = true) ∧ cs = before ++ trimChars cs ++ after := by
  let inner := (cs.dropWhile isBlank).reverse
  refine ⟨cs.takeWhile isBlank, (inner.takeWhile isBlank).reverse, ?_, ?_, ?_⟩
  · exact fun c hc => List.mem_takeWhile_imp hc
  · exact fun c hc => List.mem_takeWhile_imp (List.mem_reverse.mp hc)
  · have hinner : trimChars cs ++ (inner.takeWhile isBlank).reverse = cs.dropWhile isBlank := by
      rw [trimChars, ← List.reverse_append, List.takeWhile_append_dropWhile, List.reverse_reverse]
    rw [List.append_assoc, hinner, List.takeWhile_append_dropWhile]

theorem pads_trim (s : String) : Pads s (trim s) := by
  obtain ⟨before, after, hbefore, hafter, hsplit⟩ := trimChars_split s.toList
  refine ⟨String.ofList before, String.ofList after, ?_, ?_, ?_⟩
  · simpa [AllBlank] using hbefore
  · simpa [AllBlank] using hafter
  · rw [← String.toList_inj]
    simpa using hsplit

theorem Pads.trim_eq (h : Pads s core) (hcore : ∀ c ∈ core.toList, isBlank c = false) :
    trim s = core := by
  obtain ⟨before, after, hbefore, hafter, rfl⟩ := h
  rw [trim_padded core hbefore hafter, trim_eq_self hcore]

/-! ## Numbers -/

theorem digitsNat_eq (cs : List Char) : digitsNat cs = Nat.ofDigitChars 10 cs 0 := by
  rw [digitsNat, Nat.ofDigitChars_eq_foldl]
  simp only [Nat.mul_comm]
  rfl

structure Digits (cs : List Char) (n : Nat) : Prop where
  ne_nil : cs ≠ []
  digits : ∀ c ∈ cs, c.isDigit = true
  value : Nat.ofDigitChars 10 cs 0 = n
  small : n < UInt64.size

structure Numeral (s : String) (n : Nat) : Prop where
  split : ∃ sign digits, s.toList = sign ++ digits ∧ (sign = [] ∨ sign = ['+']) ∧ Digits digits n

theorem readDigits_eq_some_iff : readDigits cs = some n ↔ Digits cs n := by
  rw [readDigits]
  constructor
  · intro h
    split at h
    · cases h
    · rename_i hdigits
      split at h
      · rename_i hsmall
        obtain rfl := Option.some.inj h
        simp only [Bool.or_eq_true, List.isEmpty_iff, Bool.not_eq_true', not_or,
          Bool.not_eq_false, List.all_eq_true] at hdigits
        exact ⟨hdigits.1, hdigits.2, (digitsNat_eq cs).symm, hsmall⟩
      · cases h
  · rintro ⟨hne, hdigits, rfl, hsmall⟩
    rw [if_neg (by simpa [hne] using hdigits), digitsNat_eq, if_pos hsmall]

theorem isDigit_plus : Char.isDigit '+' = false := by decide

theorem readUnsigned_eq_some_iff : readUnsigned s = some n ↔ Numeral s n := by
  rw [readUnsigned]
  constructor
  · intro h
    split at h
    · rename_i rest hs
      exact ⟨['+'], rest, hs, .inr rfl, readDigits_eq_some_iff.mp h⟩
    · exact ⟨[], s.toList, rfl, .inl rfl, readDigits_eq_some_iff.mp h⟩
  · rintro ⟨sign, digits, hs, hsign, hdigits⟩
    rcases hsign with rfl | rfl
    · split
      · rename_i rest hplus
        have hmem : '+' ∈ digits := by
          rw [← List.nil_append digits, ← hs, hplus]
          exact List.mem_cons_self
        have hdigit := hdigits.digits '+' hmem
        rw [isDigit_plus] at hdigit
        cases hdigit
      · rw [hs]
        exact readDigits_eq_some_iff.mpr hdigits
    · rw [hs]
      exact readDigits_eq_some_iff.mpr hdigits

theorem of_isDigit (p : Char → Prop) (hall : ∀ d < 10, p (Char.ofNat (48 + d)))
    (h : c.isDigit = true) : p c := by
  obtain ⟨hfirst, hlast⟩ : 48 ≤ c.toNat ∧ c.toNat ≤ 57 := by
    simpa [Char.isDigit, UInt32.le_iff_toNat_le] using h
  have hp := hall (c.toNat - 48) (by omega)
  rwa [Nat.add_sub_of_le hfirst, Char.ofNat_toNat] at hp

theorem Numeral.not_blank (h : Numeral s n) : ∀ c ∈ s.toList, isBlank c = false := by
  obtain ⟨sign, digits, hs, hsign, hdigits⟩ := h
  intro c hc
  rw [hs, List.mem_append] at hc
  rcases hc with hc | hc
  · rcases hsign with rfl | rfl
    · cases hc
    · rw [List.mem_singleton.mp hc]
      decide
  · exact of_isDigit (isBlank · = false) (by decide) (hdigits.digits c hc)

theorem readUnsigned_trim_eq_some_iff :
    readUnsigned (trim s) = some n ↔ ∃ core, Pads s core ∧ Numeral core n := by
  rw [readUnsigned_eq_some_iff]
  constructor
  · exact fun h => ⟨_, pads_trim s, h⟩
  · rintro ⟨core, hpads, hnumeral⟩
    rwa [hpads.trim_eq hnumeral.not_blank]

/-! ## The decimal text of a number -/

theorem isDigit_toDigits (n : Nat) : ∀ c ∈ Nat.toDigits 10 n, c.isDigit = true := fun _ hc =>
  Nat.isDigit_of_mem_toDigits (by decide) (by decide) hc

theorem exists_toDigits_eq_cons (n : Nat) :
    ∃ d ds, Nat.toDigits 10 n = d :: ds ∧ d.isDigit = true := by
  obtain ⟨d, ds, hdigits⟩ := List.exists_cons_of_ne_nil (Nat.toDigits_ne_nil (n := n) (b := 10))
  exact ⟨d, ds, hdigits, isDigit_toDigits n d (hdigits ▸ List.mem_cons_self)⟩

theorem digits_toDigits (h : n < UInt64.size) : Digits (Nat.toDigits 10 n) n where
  ne_nil := Nat.toDigits_ne_nil
  digits := isDigit_toDigits n
  value := Nat.ofDigitChars_ten_toDigits
  small := h

theorem toList_toString (n : Nat) : (toString n).toList = Nat.toDigits 10 n := Nat.toList_repr

theorem numeral_toString (h : n < UInt64.size) : Numeral (toString n) n :=
  ⟨[], _, toList_toString n, .inl rfl, digits_toDigits h⟩

theorem pads_self (s : String) : Pads s s := ⟨"", "", by decide, by decide, by simp⟩

theorem eq_nil_of_toDigits_eq_cons {rest : List Char} (h : Nat.toDigits 10 n = '0' :: rest) :
    rest = [] := by
  induction n using Nat.strongRecOn generalizing rest with
  | ind n ih =>
    by_cases hsmall : n < 10
    · rw [Nat.toDigits_of_lt_base hsmall, List.cons.injEq] at h
      exact h.2.symm
    · have hdigits := Nat.toDigits_of_base_le (b := 10) (by decide) (Nat.le_of_not_lt hsmall)
      rw [hdigits] at h
      cases hfront : Nat.toDigits 10 (n / 10) with
      | nil => exact absurd hfront Nat.toDigits_ne_nil
      | cons d more =>
        rw [hfront, List.cons_append, List.cons.injEq] at h
        obtain ⟨rfl, -⟩ := h
        obtain rfl := ih (n / 10) (by omega) hfront
        have hvalue := Nat.ofDigitChars_ten_toDigits (n := n / 10)
        rw [hfront] at hvalue
        have hzero : n / 10 = 0 := hvalue.symm
        omega

theorem digitValue?_ten (h : c.isDigit = true) : digitValue? 10 c = some (c.toNat - '0'.toNat) :=
  of_isDigit (fun c => digitValue? 10 c = some (c.toNat - '0'.toNat)) (by decide) h

theorem readNumeral_ten (h : Digits cs n) : readNumeral 10 cs = some n := by
  have hvalues : ∀ cs : List Char, (∀ c ∈ cs, c.isDigit = true) →
      cs.mapM (digitValue? 10) = some (cs.map fun c => c.toNat - '0'.toNat) := by
    intro cs hcs
    induction cs with
    | nil => rfl
    | cons c rest ih =>
      obtain ⟨hc, hrest⟩ := List.forall_mem_cons.mp hcs
      rw [List.mapM_cons, digitValue?_ten hc, ih hrest]
      rfl
  have hnumeral : numeral 10 (cs.map fun c => c.toNat - '0'.toNat) = n := by
    rw [numeral, List.foldl_map, ← h.value, Nat.ofDigitChars_eq_foldl]
    simp only [Nat.mul_comm]
  have hsmall : decide (n < UInt64.size) = true := decide_eq_true h.small
  rw [readNumeral, if_neg (by simpa using h.ne_nil), hvalues cs h.digits, Option.map_some, hnumeral,
    Option.filter_some, if_pos hsmall]

/-! ## Truth words -/

def truthWords : Bool → List String
  | true => ["1", "true", "yes", "on"]
  | false => ["0", "false", "no", "off"]

theorem lower_truthWord : ∀ b, ∀ word ∈ truthWords b, lower word = word := by decide

theorem toLower_of_isBlank (h : isBlank c = true) : c.toLower = c := by
  refine dif_neg fun hupper => ?_
  obtain ⟨hfirst, hlast⟩ : 65 ≤ c.toNat ∧ c.toNat ≤ 90 := by
    simpa [UInt32.le_iff_toNat_le] using hupper
  simp only [isBlank, Bool.or_eq_true, Bool.and_eq_true, decide_eq_true_eq, beq_iff_eq] at h
  omega

theorem not_blank_of_word {word : String} {b : Bool} (hword : word ∈ truthWords b)
    (h : sameName core word = true) : ∀ c ∈ core.toList, isBlank c = false := by
  have hplain : ∀ b, ∀ word ∈ truthWords b, (word.toList.any isBlank) = false := by decide
  intro c hc
  by_contra hblank
  have hmem : c.toLower ∈ word.toList := by
    rw [← lower_truthWord b word hword, ← sameName_iff.mp h, lower, String.toList_ofList]
    exact List.mem_map_of_mem hc
  rw [Bool.not_eq_false] at hblank
  rw [toLower_of_isBlank hblank] at hmem
  exact List.any_eq_false.mp (hplain b word hword) c hmem hblank

end RequestRouting.Text
