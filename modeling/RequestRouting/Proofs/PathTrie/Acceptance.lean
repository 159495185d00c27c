import RequestRouting.Proofs.PathTrie.Refusal

/-!
# Patterns that are accepted together

Two patterns are rivals if they differ only in the text of the catch-all at their end. A pattern is
accepted if it is read and no rival of it is registered, and a sequence of patterns if all are read
and no two are rivals.
-/

set_option autoImplicit false

namespace RequestRouting

namespace Pattern

/-- The parts are the same but for the texts of the catch-alls that they end with. -/
def Rivals (raws others : List String) : Prop :=
  ∃ lead a b, raws = lead ++ [a] ∧ others = lead ++ [b] ∧ IsCatchAll a ∧ IsCatchAll b ∧ a ≠ b

theorem Rivals.symm {raws others : List String} (h : Rivals raws others) : Rivals others raws := by
  obtain ⟨lead, a, b, hraws, hothers, ha, hb, hne⟩ := h
  exact ⟨lead, b, a, hothers, hraws, hb, ha, hne.symm⟩

theorem not_rivals_self (raws : List String) : ¬ Rivals raws raws := by
  rintro ⟨lead, a, b, hraws, hothers, -, -, hne⟩
  rw [hraws] at hothers
  exact hne (List.singleton_inj.1 (List.append_inj' hothers rfl).2)

end Pattern

open Pattern (Rivals)

theorem Registration.matches_iff {α : Type} (r : Registration α) {path : String} :
    Pattern.Matches r.pattern path ↔ r.covers (pathParts path) = true := by
  constructor
  · rintro ⟨parts, hparse, hcovers⟩
    rw [r.parsed] at hparse
    cases hparse
    exact hcovers
  · intro hcovers
    exact ⟨r.parts, r.parsed, hcovers⟩

namespace PathTrie

variable {α : Type} {log : History α} {t : PathTrie α} {pattern : String}

theorem conflicts_iff_rivals {parts : List PatternPart}
    (hparse : Pattern.parse pattern = .ok parts) :
    (∃ last existing, log.Conflicts parts last existing) ↔
      ∃ r ∈ log, Rivals r.raws (pathParts pattern) := by
  have hraws := (Pattern.parse_spec hparse).2.1
  have hwell := (Pattern.parse_spec hparse).2.2.1
  constructor
  · rintro ⟨last, existing, lead, rfl, hlast, hne, r, hr, p, hrparts, hp, rfl⟩
    have hpread := r.wellFormed.read p (by simp [hrparts])
    have hlastread := hwell.read last (by simp)
    refine ⟨r, hr, lead.map (·.raw), p.raw, last.raw, ?_, ?_, Pattern.isCatchAll_raw hpread hp,
      Pattern.isCatchAll_raw hlastread hlast, hne⟩
    · simp [Registration.raws, hrparts]
    · simp [← hraws]
  · rintro ⟨r, hr, lead, a, b, hrraws, hothers, ha, hb, hne⟩
    let s : Registration Unit := ⟨pattern, (), parts, hparse⟩
    have hsraws : s.raws = lead ++ [b] := s.raws_eq.trans hothers
    obtain ⟨front, p, hrparts, hfront, rfl, hp⟩ := Registration.last_part hrraws ha
    obtain ⟨front', last, hparts, hfront', rfl, hlast⟩ := Registration.last_part hsraws hb
    have hparts : parts = front' ++ [last] := hparts
    have hsame : front' = front :=
      (hparts ▸ hwell).append_left.eq_of_raws (hrparts ▸ r.wellFormed).append_left
        (hfront'.trans hfront.symm)
    subst hsame
    exact ⟨last, p.raw, front', hparts, hlast, hne, r, hr, p, hrparts, hp, rfl⟩

theorem Embodies.insert_ok_iff (h : t.Embodies log) (pattern : String) (value : α) :
    (∃ previous, (t.insert pattern value).1 = .ok previous) ↔
      (∃ parts, Pattern.parse pattern = .ok parts) ∧
        ∀ r ∈ log, ¬ Rivals r.raws (pathParts pattern) := by
  rcases h.insert_courses pattern value with ⟨e, hparse, -, hinsert⟩ |
    ⟨parts, last, existing, hparse, honly, hinsert⟩ | ⟨parts, previous, hparse, hfree, hinsert⟩
  · simp [hparse, hinsert]
  · have hconflict := (honly last existing).2 ⟨rfl, rfl⟩
    obtain ⟨r, hr, hrivals⟩ := (conflicts_iff_rivals hparse).1 ⟨last, existing, hconflict⟩
    refine iff_of_false (by simp [hinsert]) ?_
    rintro ⟨-, hnone⟩
    exact hnone r hr hrivals
  · refine iff_of_true ⟨previous, hinsert⟩ ⟨⟨parts, hparse⟩, ?_⟩
    intro r hr hrivals
    obtain ⟨last, existing, hconflict⟩ := (conflicts_iff_rivals hparse).2 ⟨r, hr, hrivals⟩
    exact hfree last existing hconflict

def Accepts (t : PathTrie α) : List (String × α) → Prop
  | [] => True
  | (pattern, value) :: rest =>
    (∃ previous, (t.insert pattern value).1 = .ok previous) ∧
      (t.insert pattern value).2.Accepts rest

theorem Embodies.accepts_iff (h : t.Embodies log) (calls : List (String × α)) :
    t.Accepts calls ↔ (∀ c ∈ calls, ∃ parts, Pattern.parse c.1 = .ok parts) ∧
      (∀ c ∈ calls, ∀ r ∈ log, ¬ Rivals r.raws (pathParts c.1)) ∧
      calls.Pairwise fun c d => ¬ Rivals (pathParts c.1) (pathParts d.1) := by
  induction calls generalizing log t with
  | nil => simp [Accepts]
  | cons call rest ih =>
    obtain ⟨pattern, value⟩ := call
    simp only [Accepts, List.forall_mem_cons, List.pairwise_cons]
    rw [h.insert_ok_iff]
    rcases insert_cases t pattern value with ⟨e, hinsert, -⟩ | ⟨r, rfl, rfl, hclash, -, hinsert⟩
    · have hrefused : ¬ ∃ previous, (t.insert pattern value).1 = .ok previous := by simp [hinsert]
      rw [h.insert_ok_iff] at hrefused
      tauto
    · rw [hinsert, ih (h.add hclash), ← r.raws_eq]
      simp only [List.mem_append, List.mem_singleton]
      constructor
      · rintro ⟨⟨hparse, hfree⟩, hparses, hfrees, hpairs⟩
        exact ⟨⟨hparse, hparses⟩, ⟨hfree, fun c hc s hs => hfrees c hc s (.inl hs)⟩,
          fun c hc => hfrees c hc r (.inr rfl), hpairs⟩
      · rintro ⟨⟨hparse, hparses⟩, ⟨hfree, hfrees⟩, hfirst, hpairs⟩
        refine ⟨⟨hparse, hfree⟩, hparses, ?_, hpairs⟩
        rintro c hc s (hs | rfl)
        · exact hfrees c hc s hs
        · exact hfirst c hc

theorem accepted_of_accepts {calls : List (String × α)} (h : t.Accepts calls) :
    (t.accepted calls).map (fun r => (r.pattern, r.value)) = calls := by
  induction calls generalizing t with
  | nil => rfl
  | cons call rest ih =>
    obtain ⟨pattern, value⟩ := call
    obtain ⟨⟨previous, hfirst⟩, hrest⟩ := h
    rcases insert_cases t pattern value with ⟨e, hinsert, -⟩ | ⟨r, rfl, rfl, -, hsome, -⟩
    · rw [hinsert] at hfirst
      cases hfirst
    · rw [accepted, hsome, List.map_append, ih hrest]
      rfl

end PathTrie

end RequestRouting
