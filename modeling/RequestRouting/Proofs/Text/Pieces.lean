import RequestRouting.Text.Split

/-!
# Cutting and joining are inverse

No piece holds the character that a text was cut at, and cutting a joined text gives back pieces
that do not hold it.
-/

set_option autoImplicit false

namespace RequestRouting.Text

theorem not_mem_of_mem_splitOn (sep : Char) (cs piece : List Char)
    (h : piece ∈ cs.splitOn sep) : sep ∉ piece := by
  induction cs generalizing piece with
  | nil =>
    rw [List.splitOn_nil, List.mem_singleton] at h
    rw [h]
    exact List.not_mem_nil
  | cons c cs ih =>
    rw [List.splitOn_cons_eq_if_modifyHead] at h
    by_cases hc : c = sep
    · have hmem : piece = [] ∨ piece ∈ cs.splitOn sep := by simpa [hc] using h
      cases hmem with
      | inl hnil => simp [hnil]
      | inr hrest => exact ih piece hrest
    · rw [if_neg (by simpa using hc)] at h
      cases hs : cs.splitOn sep with
      | nil => exact absurd hs (List.splitOn_ne_nil sep cs)
      | cons first others =>
        have hmem : piece = c :: first ∨ piece ∈ others := by simpa [hs] using h
        cases hmem with
        | inl hfirst =>
          have hf : sep ∉ first := ih first (by simp [hs])
          rw [hfirst, List.mem_cons, not_or]
          exact ⟨Ne.symm hc, hf⟩
        | inr hothers => exact ih piece (by simp [hs, hothers])

theorem not_mem_of_mem_pieces {sep : Char} {s piece : String} (h : piece ∈ pieces sep s) :
    sep ∉ piece.toList := by
  obtain ⟨cs, hcs, rfl⟩ := List.mem_map.1 h
  rw [String.toList_ofList]
  exact not_mem_of_mem_splitOn sep s.toList cs hcs

theorem toList_joinWith (sep : String) (texts : List String) :
    (joinWith sep texts).toList = sep.toList.intercalate (texts.map String.toList) := by
  induction texts with
  | nil => rfl
  | cons s rest ih =>
    cases rest with
    | nil => simp
    | cons t rest =>
      rw [joinWith_cons_cons, String.toList_append, String.toList_append, ih]
      simp [List.intercalate_cons_cons]

theorem pieces_joinWith {sep : Char} {texts : List String} (hne : texts ≠ [])
    (hsep : ∀ s ∈ texts, sep ∉ s.toList) :
    pieces sep (joinWith (String.singleton sep) texts) = texts := by
  have hmem : ∀ cs ∈ texts.map String.toList, sep ∉ cs := by
    intro cs hcs
    obtain ⟨s, hs, rfl⟩ := List.mem_map.1 hcs
    exact hsep s hs
  have hcut := List.splitOn_intercalate sep hmem (by simpa using hne)
  rw [pieces, toList_joinWith, String.toList_singleton, hcut, List.map_map]
  simp

theorem joinWith_ne_empty {sep : String} {texts : List String} (hne : texts ≠ [])
    (hall : ∀ s ∈ texts, s ≠ "") : joinWith sep texts ≠ "" := by
  cases texts with
  | nil => exact absurd rfl hne
  | cons s rest =>
    have hs : s ≠ "" := hall s List.mem_cons_self
    cases rest with
    | nil => simpa using hs
    | cons t rest =>
      rw [joinWith_cons_cons]
      simp [hs]

end RequestRouting.Text
