import Mathlib.Data.List.GetD
import Mathlib.Data.String.Basic
import RequestRouting.Proofs.RequestId.Digits
import RequestRouting.Proofs.Text.Trimming

/-!
# Reading identifiers

The texts that are read as identifiers are those that 26 digits spell, letters in either case and
blanks around them. They write 130 bits, two more than an identifier has: the text of an
identifier is read as that identifier, but another first digit may stand in the text of what was
read.
-/

set_option autoImplicit false

namespace RequestRouting

namespace Text

theorem small_or_eq_of_toUpper_eq {c u : Char} (h : c.toUpper = u) :
    ('a'.val ≤ c.val ∧ c.val ≤ 'z'.val) ∨ c = u := by
  by_cases hsmall : 'a'.val ≤ c.val ∧ c.val ≤ 'z'.val
  · exact .inl hsmall
  · have hsame : c.toUpper = c := dif_neg hsmall
    exact .inr (hsame.symm.trans h)

theorem utf8Len_eq_length {cs : List Char} (h : ∀ c ∈ cs, c.utf8Size = 1) :
    String.utf8Len cs = cs.length := by
  induction cs with
  | nil => rfl
  | cons c cs ih =>
    obtain ⟨hc, hcs⟩ := List.forall_mem_cons.mp h
    rw [String.utf8Len_cons, ih hcs, hc, List.length_cons]

end Text

namespace RequestId

/-! ### Digits as characters -/

theorem idxOf?_digit : ∀ n < 32, alphabet.idxOf? (digit n) = some n := by decide

theorem toUpper_digit : ∀ n < 32, (digit n).toUpper = digit n := by decide

theorem utf8Size_digit : ∀ n < 32, (digit n).utf8Size = 1 := by decide

theorem isBlank_digit : ∀ n < 32, Text.isBlank (digit n) = false := by decide

theorem digit_le_seven_iff : ∀ n < 32, digit n ≤ '7' ↔ n < 8 := by decide

theorem toUpper_toLower_digit : ∀ n < 32, (digit n).toLower.toUpper = (digit n).toUpper := by
  decide

theorem small_letter : ∀ n < 123, 97 ≤ n →
    (Char.ofNat n).utf8Size = 1 ∧ Text.isBlank (Char.ofNat n) = false ∧
      '7' < Char.ofNat n ∧ '7' < (Char.ofNat n).toUpper := by decide

theorem of_small {c : Char} (h : 'a'.val ≤ c.val ∧ c.val ≤ 'z'.val) :
    c.utf8Size = 1 ∧ Text.isBlank c = false ∧ '7' < c ∧ '7' < c.toUpper := by
  have hletter := small_letter c.toNat (Nat.lt_succ_of_le (UInt32.le_iff_toNat_le.mp h.2))
    (UInt32.le_iff_toNat_le.mp h.1)
  rwa [Char.ofNat_toNat] at hletter

section

variable {c : Char} {n : Nat} (hn : n < 32) (hc : c.toUpper = digit n)
include hn hc

theorem utf8Size_of_toUpper_eq : c.utf8Size = 1 := by
  rcases Text.small_or_eq_of_toUpper_eq hc with hsmall | rfl
  · exact (of_small hsmall).1
  · exact utf8Size_digit n hn

theorem isBlank_of_toUpper_eq : Text.isBlank c = false := by
  rcases Text.small_or_eq_of_toUpper_eq hc with hsmall | rfl
  · exact (of_small hsmall).2.1
  · exact isBlank_digit n hn

theorem le_seven_iff_of_toUpper_eq : c ≤ '7' ↔ n < 8 := by
  rcases Text.small_or_eq_of_toUpper_eq hc with hsmall | rfl
  · obtain ⟨-, -, hlarge, hcapital⟩ := of_small hsmall
    rw [hc] at hcapital
    exact iff_of_false (Char.not_le.mpr hlarge)
      ((digit_le_seven_iff n hn).not.mp (Char.not_le.mpr hcapital))
  · exact digit_le_seven_iff n hn

end

theorem digitValue?_eq_some_iff {c : Char} {n : Nat} :
    digitValue? c = some n ↔ n < 32 ∧ c.toUpper = digit n := by
  constructor
  · intro h
    obtain ⟨hlt, hc, -⟩ := List.idxOf?_eq_some_iff.mp h
    exact ⟨hlt, hc.symm.trans (List.getD_eq_getElem _ _ hlt).symm⟩
  · rintro ⟨hlt, hc⟩
    rw [digitValue?, hc, idxOf?_digit n hlt]

theorem mapM_digitValue?_eq_some_iff {cs : List Char} {ds : List Nat} :
    cs.mapM digitValue? = some ds ↔ (∀ d ∈ ds, d < 32) ∧ cs.map Char.toUpper = ds.map digit := by
  induction cs generalizing ds with
  | nil => cases ds <;> simp
  | cons c cs ih =>
    cases ds with
    | nil => simp [List.mapM_cons, Option.bind_eq_some_iff]
    | cons d ds =>
      simp only [List.mapM_cons, Option.pure_def, Option.bind_eq_bind, Option.bind_eq_some_iff,
        digitValue?_eq_some_iff, ih, List.map_cons, List.cons.injEq, List.forall_mem_cons,
        Option.some.injEq]
      grind

/-! ### Texts that digits spell -/

/-- The text is these digits, letters in either case. -/
structure Spells (s : String) (ds : List Nat) : Prop where
  count : ds.length = digitCount
  small : ∀ d ∈ ds, d < 32
  text : s.toList.map Char.toUpper = ds.map digit

variable {s before after : String} {ds : List Nat} {id : RequestId}

theorem exists_digit (h : s.toList.map Char.toUpper = ds.map digit) {c : Char}
    (hc : c ∈ s.toList) : ∃ d ∈ ds, c.toUpper = digit d := by
  have hmem : c.toUpper ∈ ds.map digit := h ▸ List.mem_map_of_mem hc
  obtain ⟨d, hd, heq⟩ := List.mem_map.mp hmem
  exact ⟨d, hd, heq.symm⟩

theorem utf8ByteSize_eq (hsmall : ∀ d ∈ ds, d < 32)
    (htext : s.toList.map Char.toUpper = ds.map digit) : s.utf8ByteSize = ds.length := by
  have hone : ∀ c ∈ s.toList, c.utf8Size = 1 := by
    intro c hc
    obtain ⟨d, hd, heq⟩ := exists_digit htext hc
    exact utf8Size_of_toUpper_eq (hsmall d hd) heq
  have hcount : s.toList.length = ds.length := by simpa using congrArg List.length htext
  rw [← String.ofList_toList (s := s), String.utf8ByteSize_ofList,
    Text.utf8Len_eq_length hone, hcount]

theorem decode_ok_iff : decode s = .ok id ↔ ∃ ds, Spells s ds ∧ ofDigits ds = id := by
  unfold decode
  constructor
  · intro h
    split at h
    · cases h
    · rename_i hsize
      split at h
      · rename_i ds hds
        obtain ⟨hsmall, htext⟩ := mapM_digitValue?_eq_some_iff.mp hds
        have hcount : ds.length = digitCount :=
          (utf8ByteSize_eq hsmall htext).symm.trans (Decidable.not_not.mp hsize)
        exact ⟨ds, ⟨hcount, hsmall, htext⟩, Except.ok.inj h⟩
      · cases h
  · rintro ⟨ds, hds, rfl⟩
    rw [if_neg (by rw [utf8ByteSize_eq hds.small hds.text, hds.count]; exact not_not.mpr rfl),
      mapM_digitValue?_eq_some_iff.mpr ⟨hds.small, hds.text⟩]

theorem read_ok_iff : read s = .ok id ↔ ∃ ds, Spells (Text.trim s) ds ∧ ofDigits ds = id := by
  rw [← decode_ok_iff, read]
  cases decode (Text.trim s) <;> simp

/-! ### Reading the text of an identifier -/

theorem Spells.trim_eq (h : Spells s ds) : Text.trim s = s := by
  refine Text.trim_eq_self fun c hc => ?_
  obtain ⟨d, hd, heq⟩ := exists_digit h.text hc
  exact isBlank_of_toUpper_eq (h.small d hd) heq

theorem Spells.congr {t : String} (h : Spells s ds) (heq : Text.upper t = Text.upper s) :
    Spells t ds :=
  ⟨h.count, h.small, (String.ofList_injective heq).trans h.text⟩

theorem digits_lt (id : RequestId) {d : Nat} (hd : d ∈ id.digits) : d < 32 :=
  lt_of_mem_lowest (digits_eq_lowest id ▸ hd)

theorem upper_lower_text (id : RequestId) :
    Text.upper (Text.lower id.text) = Text.upper id.text := by
  simp only [Text.upper, Text.lower, text, String.toList_ofList, List.map_map]
  refine congrArg String.ofList (List.map_congr_left fun d hd => ?_)
  exact toUpper_toLower_digit d (id.digits_lt hd)

theorem spells_text (id : RequestId) : Spells id.text id.digits := by
  refine ⟨by rw [digits_eq_lowest, length_lowest], fun d hd => id.digits_lt hd, ?_⟩
  rw [text, String.toList_ofList, List.map_map]
  exact List.map_congr_left fun d hd => toUpper_digit d (id.digits_lt hd)

theorem valueOf_digits (id : RequestId) : valueOf id.digits = id.bits.toNat := by
  have hlt : id.bits.toNat < 32 ^ digitCount := Nat.lt_of_lt_of_le id.bits.isLt (by decide)
  rw [digits_eq_lowest, valueOf_lowest, Nat.mod_eq_of_lt hlt]

theorem ofDigits_digits (id : RequestId) : ofDigits id.digits = id := by
  rw [ofDigits_eq_valueOf, valueOf_digits, BitVec.ofNat_toNat, BitVec.setWidth_eq]

theorem read_padded {spelling : String} (hbefore : Text.AllBlank before)
    (hafter : Text.AllBlank after) (h : Text.upper spelling = Text.upper id.text) :
    read (before ++ spelling ++ after) = .ok id := by
  have hspells : Spells spelling id.digits := (spells_text id).congr h
  refine read_ok_iff.mpr ⟨id.digits, ?_, ofDigits_digits id⟩
  rw [Text.trim_padded spelling hbefore hafter, hspells.trim_eq]
  exact hspells

/-! ### The text of what was read -/

theorem Spells.head_le_seven_iff {d : Nat} {rest : List Nat} (h : Spells s (d :: rest)) :
    (∀ c ∈ s.toList.head?, c ≤ '7') ↔ d < 8 := by
  have htext := h.text
  cases hchars : s.toList with
  | nil => simp [hchars] at htext
  | cons c cs =>
    rw [hchars, List.map_cons, List.map_cons, List.cons.injEq] at htext
    rw [← le_seven_iff_of_toUpper_eq (h.small d List.mem_cons_self) htext.1]
    simp

/-- Of the first digit only what the lowest 128 bits hold is kept. -/
theorem digits_ofDigits {d : Nat} {rest : List Nat} (hcount : (d :: rest).length = digitCount)
    (hsmall : ∀ e ∈ d :: rest, e < 32) : (ofDigits (d :: rest)).digits = d % 8 :: rest := by
  have hrest : rest.length = 25 := Nat.succ.inj hcount
  have hsmall' : ∀ e ∈ d % 8 :: rest, e < 32 :=
    List.forall_mem_cons.mpr ⟨by omega, fun e he => hsmall e (List.mem_cons_of_mem _ he)⟩
  have hlow : valueOf rest < 32 ^ 25 := hrest ▸ valueOf_lt fun e he =>
    hsmall e (List.mem_cons_of_mem _ he)
  have hkept : valueOf (d :: rest) % 2 ^ 128 = valueOf (d % 8 :: rest) := by
    rw [valueOf_cons, valueOf_cons, hrest]
    omega
  have hlength : digitCount = (d % 8 :: rest).length := hcount.symm
  rw [ofDigits_eq_valueOf, digits_eq_lowest, BitVec.toNat_ofNat, hkept, hlength,
    lowest_valueOf hsmall']

theorem kept_eq_iff {d : Nat} {rest : List Nat} (hd : d < 32) :
    String.ofList ((d % 8 :: rest).map digit) = String.ofList ((d :: rest).map digit) ↔
      d < 8 := by
  have hkept : ∀ m < 32, digit (m % 8) = digit m ↔ m < 8 := by decide
  rw [String.ofList_inj, List.map_cons, List.map_cons, List.cons.injEq, hkept d hd]
  exact and_iff_left rfl

end RequestId

end RequestRouting
