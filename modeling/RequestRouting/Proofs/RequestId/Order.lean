import RequestRouting.Proofs.RequestId.Reading
import RequestRouting.Text.Utf8

/-!
# The order of identifiers and of their texts

The digits of base 32 are in the order of their bytes, and all texts of identifiers have as many
digits. Texts come in the order of the identifiers, and so in the order of time.
-/

set_option autoImplicit false

namespace RequestRouting.RequestId

def digitByte (n : Nat) : UInt8 := (digit n).val.toUInt8

theorem digitByte_lt_iff : ∀ m < 32, ∀ n < 32, digitByte m < digitByte n ↔ m < n := by
  decide +kernel

theorem digitByte_eq_iff {m n : Nat} (hm : m < 32) (hn : n < 32) :
    digitByte m = digitByte n ↔ m = n := by
  constructor
  · intro h
    have hmn := (digitByte_lt_iff m hm n hn).not.mp (h ▸ UInt8.lt_irrefl _)
    have hnm := (digitByte_lt_iff n hn m hm).not.mp (h ▸ UInt8.lt_irrefl _)
    omega
  · exact congrArg digitByte

theorem map_digitByte_lt_iff {ds es : List Nat} (hds : ∀ d ∈ ds, d < 32) (hes : ∀ e ∈ es, e < 32) :
    ds.map digitByte < es.map digitByte ↔ ds < es := by
  induction ds generalizing es with
  | nil => cases es <;> simp
  | cons d ds ih =>
    cases es with
    | nil => simp
    | cons e es =>
      obtain ⟨hd, hds⟩ := List.forall_mem_cons.mp hds
      obtain ⟨he, hes⟩ := List.forall_mem_cons.mp hes
      rw [List.map_cons, List.map_cons, List.cons_lt_cons_iff, List.cons_lt_cons_iff,
        digitByte_lt_iff d hd e he, digitByte_eq_iff hd he, ih hds hes]

theorem utf8Bytes_text (id : RequestId) : Text.utf8Bytes id.text = id.digits.map digitByte := by
  rw [Text.utf8Bytes, text, String.toList_ofList, List.flatMap_map, List.map_eq_flatMap]
  exact List.flatMap_congr fun d hd =>
    String.utf8EncodeChar_eq_singleton (utf8Size_digit d ((spells_text id).small d hd))

theorem utf8Bytes_text_lt_iff (a b : RequestId) :
    Text.utf8Bytes a.text < Text.utf8Bytes b.text ↔ a.bits.toNat < b.bits.toNat := by
  have ha := spells_text a
  have hb := spells_text b
  rw [utf8Bytes_text, utf8Bytes_text, map_digitByte_lt_iff ha.small hb.small,
    lt_iff_valueOf_lt (ha.count.trans hb.count.symm) ha.small hb.small, valueOf_digits,
    valueOf_digits]

/-- Whether the text of the first comes no later in the order of bytes. -/
def textLe (a b : RequestId) : Bool := decide (Text.utf8Bytes a.text ≤ Text.utf8Bytes b.text)

theorem textLe_iff {a b : RequestId} : textLe a b = true ↔ a.bits.toNat ≤ b.bits.toNat := by
  rw [textLe, decide_eq_true_eq, ← List.not_lt, utf8Bytes_text_lt_iff, Nat.not_lt]

theorem pairwise_timestamp_mergeSort (ids : List RequestId) :
    (ids.mergeSort textLe).Pairwise fun a b => a.timestamp ≤ b.timestamp := by
  have hsorted : (ids.mergeSort textLe).Pairwise fun a b => textLe a b = true := by
    apply List.pairwise_mergeSort
    · intro a b c hab hbc
      exact textLe_iff.mpr (Nat.le_trans (textLe_iff.mp hab) (textLe_iff.mp hbc))
    · intro a b
      rw [Bool.or_eq_true, textLe_iff, textLe_iff]
      exact Nat.le_total _ _
  exact hsorted.imp fun hab => Nat.div_le_div_right (textLe_iff.mp hab)

/-- The text of an identifier stands for it, in capitals and in small letters, with and without
blanks around it; the order of the bytes of texts is that of identifiers, and puts them in the
order in which they were made. -/
theorem text_faithful (a b : RequestId) (ids : List RequestId) {before after : String}
    (hbefore : Text.AllBlank before) (hafter : Text.AllBlank after) :
    (∀ spelling ∈ [a.text, Text.lower a.text],
      read (before ++ spelling ++ after) = .ok a ∧
        ofJson (.string (before ++ spelling ++ after)) = .ok a) ∧
    (compare a b = .lt ↔ Text.utf8Bytes a.text < Text.utf8Bytes b.text) ∧
    (ids.mergeSort textLe).Pairwise fun x y => x.timestamp ≤ y.timestamp := by
  refine ⟨?_, ?_, pairwise_timestamp_mergeSort ids⟩
  · intro spelling hspelling
    have hupper : Text.upper spelling = Text.upper a.text := by
      rcases List.mem_pair.mp hspelling with rfl | rfl
      · rfl
      · exact upper_lower_text a
    have hread := read_padded hbefore hafter hupper
    exact ⟨hread, by rw [ofJson, hread]⟩
  · rw [utf8Bytes_text_lt_iff]
    exact Nat.compare_eq_lt

theorem text_faithful_of_padded :
    let a : RequestId := ⟨0x01563e3ab5d3d6764c61efb99302bd5b⟩
    Text.AllBlank "\t\u3000" ∧ Text.AllBlank "\r\n" ∧
      read ("\t\u3000" ++ "01arz3ndektsv4rrffq69g5fav" ++ "\r\n") = .ok a := by
  intro a
  have hbefore : Text.AllBlank "\t\u3000" := by decide
  have hafter : Text.AllBlank "\r\n" := by decide
  have hlower : Text.lower a.text = "01arz3ndektsv4rrffq69g5fav" := by decide +kernel
  have hread := (text_faithful a a [] hbefore hafter).1 (Text.lower a.text) (by simp)
  rw [hlower] at hread
  exact ⟨hbefore, hafter, hread.1⟩

end RequestRouting.RequestId
