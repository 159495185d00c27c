import RequestRouting.Proofs.Dispatcher.Identification
import RequestRouting.Proofs.RequestId.Reading

/-!
# Adopted identifiers and the texts of callers

An identifier that is adopted from a header is the caller's, and so is the text that is echoed, if
the first of the 26 digits is one of the first eight. The texts with another first digit are
adopted as well, each as the identifier of another text.
-/

set_option autoImplicit false

namespace RequestRouting.RequestIdHeader

open RequestId

/-- How an identifier stands to the header that it was read from. -/
structure Adopted (s : String) (id : RequestId) : Prop where
  /-- Digit by digit the caller's, but of the first digit only the three lowest bits are kept. -/
  spelled : ∃ first rest, Spells (Text.trim s) (first :: rest) ∧
    id.text = String.ofList ((first % 8 :: rest).map digit)
  named : id.text = Text.upper (Text.trim s) ↔ ∀ c ∈ (Text.trim s).toList.head?, c ≤ '7'
  adopted : ∀ e : Execution, e.context.header? headerName = some s →
    (adopt e).context.requestId = id
  /-- The response bears the text, unless the handlers behind panic or change the identifier. -/
  echoed : ∀ (advance : Step) (e : Execution), e.context.header? headerName = some s →
    (∀ payload, (advance (adopt e)).1 ≠ .panicked payload) →
    (advance (adopt e)).2.context.requestId = (adopt e).context.requestId →
    (run advance e).2.context.response.idHeaders = [(headerName, id.text)]

theorem adopted_of_read {s : String} {id : RequestId} (hread : read s = .ok id) : Adopted s id := by
  obtain ⟨ds, hspells, rfl⟩ := read_ok_iff.mp hread
  obtain ⟨first, rest, rfl⟩ : ∃ first rest, ds = first :: rest :=
    List.exists_cons_of_ne_nil (by rintro rfl; cases hspells.count)
  have hfirst : first < 32 := hspells.small first List.mem_cons_self
  have htext : (ofDigits (first :: rest)).text =
      String.ofList ((first % 8 :: rest).map digit) := by
    rw [text, digits_ofDigits hspells.count hspells.small]
  have hupper : Text.upper (Text.trim s) = String.ofList ((first :: rest).map digit) := by
    rw [Text.upper, hspells.text]
  have hadopted : ∀ e : Execution, e.context.header? headerName = some s →
      (adopt e).context.requestId = ofDigits (first :: rest) := by
    intro e hheader
    rw [adopt_requestId, hheader, readOr, Option.map_some, hread]
  refine ⟨⟨first, rest, hspells, htext⟩, ?_, hadopted, ?_⟩
  · rw [htext, hupper, kept_eq_iff hfirst, hspells.head_le_seven_iff]
  · intro advance e hheader hreturned hkept
    rw [run_idHeaders_of_returned hreturned, hkept, hadopted e hheader]

theorem adopted_of_read_padded :
    let s := "  01arz3ndektsv4rrffq69g5fav\t"
    let id : RequestId := ⟨0x01563e3ab5d3d6764c61efb99302bd5b⟩
    read s = .ok id ∧ Adopted s id ∧ id.text = "01ARZ3NDEKTSV4RRFFQ69G5FAV" := by
  intro s id
  have hread : read s = .ok id := by decide +kernel
  exact ⟨hread, adopted_of_read hread, by decide +kernel⟩

/-- Two texts of callers that are adopted as one identifier. -/
theorem other_first_digit_adopted :
    let id : RequestId := ⟨0x01563e3ab5d3d6764c61efb99302bd5b⟩
    read "81ARZ3NDEKTSV4RRFFQ69G5FAV" = .ok id ∧ read "01ARZ3NDEKTSV4RRFFQ69G5FAV" = .ok id ∧
      id.text ≠ Text.upper (Text.trim "81ARZ3NDEKTSV4RRFFQ69G5FAV") :=
  ⟨rfl, rfl, by decide +kernel⟩

end RequestRouting.RequestIdHeader
