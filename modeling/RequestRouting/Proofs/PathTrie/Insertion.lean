import RequestRouting.Proofs.PathTrie.Representation

/-!
# Runs of insertions

An insertion either is refused and changes nothing, or adds one registration. After any run of
insertions the trie stands for exactly those that were accepted.
-/

set_option autoImplicit false

namespace RequestRouting.PathTrie

variable {α : Type}

def stored? (t : PathTrie α) (parts : List PatternPart) : Option (Terminal α) :=
  (t.root.descend? parts).bind (·.terminal)

def add (t : PathTrie α) (r : Registration α) : PathTrie α :=
  ⟨t.root.graft (ParamSlot.ofParts 0 r.parts) r.terminal r.parts t.nodeCount,
    t.nodeCount + t.root.missing r.parts,
    if (t.stored? r.parts).isSome then t.size else t.size + 1⟩

theorem insert_of_free {t : PathTrie α} (r : Registration α)
    (hfree : t.root.clash? r.parts = none) :
    t.insert r.pattern r.value = (.ok ((t.stored? r.parts).map (·.value)), t.add r) := by
  simp only [insert, r.parsed, hfree]
  rfl

theorem insert_of_clash {t : PathTrie α} (r : Registration α) {part : PatternPart}
    {existing : String} (hclash : t.root.clash? r.parts = some (part, existing)) :
    t.insert r.pattern r.value =
      (.error ⟨r.pattern, .conflictingCatchAll part.raw existing⟩, t) := by
  simp only [insert, r.parsed, hclash]

theorem insert_cases (t : PathTrie α) (pattern : String) (value : α) :
    (∃ e, t.insert pattern value = (.error e, t) ∧ t.registration? pattern value = none) ∨
    ∃ r : Registration α, r.pattern = pattern ∧ r.value = value ∧
      t.root.clash? r.parts = none ∧ t.registration? pattern value = some r ∧
      t.insert pattern value = (.ok ((t.stored? r.parts).map (·.value)), t.add r) := by
  cases hp : Pattern.parse pattern with
  | error e =>
    refine .inl ⟨e, by simp [insert, hp], ?_⟩
    unfold registration?
    split
    · rename_i parts _ h _
      rw [hp] at h
      cases h
    · rfl
  | ok parts =>
    cases hc : t.root.clash? parts with
    | some clash =>
      have hinsert := insert_of_clash ⟨pattern, value, parts, hp⟩ hc
      refine .inl ⟨_, hinsert, ?_⟩
      unfold registration?
      rw [hinsert]
      split
      · rename_i h
        cases h
      · rfl
    | none =>
      have hinsert := insert_of_free ⟨pattern, value, parts, hp⟩ hc
      refine .inr ⟨⟨pattern, value, parts, hp⟩, rfl, rfl, hc, ?_, hinsert⟩
      unfold registration?
      rw [hinsert]
      split
      · rename_i parts' _ h _
        rw [hp] at h
        cases h
        rfl
      · rename_i hno
        exact absurd rfl (hno parts _ hp)

theorem empty_represents : (empty : PathTrie α).root.Represents [] [] :=
  PathNode.represents_of_new rfl rfl (by simp [History.introduced])

theorem represents_add {log : History α} {t : PathTrie α} (h : t.root.Represents log [])
    (r : Registration α) : (t.add r).root.Represents (log ++ [r]) [] :=
  h.graft (by simp [Registration.raws]) r.wellFormed t.nodeCount

theorem represents_insert {log : History α} {t : PathTrie α} (h : t.root.Represents log [])
    (pattern : String) (value : α) : (t.insert pattern value).2.root.Represents
      (log ++ (t.registration? pattern value).toList) [] := by
  rcases insert_cases t pattern value with ⟨e, hinsert, hnone⟩ | ⟨r, _, _, _, hsome, hinsert⟩
  · rw [hinsert, hnone, Option.toList_none, List.append_nil]
    exact h
  · rw [hinsert, hsome]
    exact represents_add h r

theorem represents_insertAll {log : History α} {t : PathTrie α} (h : t.root.Represents log [])
    (calls : List (String × α)) :
    (t.insertAll calls).root.Represents (log ++ t.accepted calls) [] := by
  induction calls generalizing log t with
  | nil => simpa [insertAll, accepted] using h
  | cons call rest ih =>
    obtain ⟨pattern, value⟩ := call
    have hrest := ih (represents_insert h pattern value)
    rw [insertAll, accepted, ← List.append_assoc]
    exact hrest

theorem represents_run (calls : List (String × α)) :
    ((empty : PathTrie α).insertAll calls).root.Represents (empty.accepted calls) [] :=
  represents_insertAll empty_represents calls

end RequestRouting.PathTrie
