import Mathlib.Data.List.Nodup
import RequestRouting.Pattern
import RequestRouting.Proofs.Text.Pieces

/-!
# What reading a pattern accepts

The parts of an accepted pattern are its non-empty pieces, each read from its own text; a catch-all
stands in the last place only, and no name is bound twice. `covers` says which paths such parts
stand for.
-/

set_option autoImplicit false

namespace RequestRouting

theorem ne_empty_of_mem_pathParts {path part : String} (h : part ∈ pathParts path) : part ≠ "" := by
  have hf := (List.mem_filter.1 h).2
  simpa using hf

theorem slash_not_mem_of_mem_pathParts {path part : String} (h : part ∈ pathParts path) :
    '/' ∉ part.toList :=
  Text.not_mem_of_mem_pieces (List.mem_filter.1 h).1

namespace Pattern

/-- Whether the parts of a path are as the parts of a pattern want them: a literal is equal to its
part, a parameter takes any one part, and a catch-all takes one or more, up to the end. -/
def covers : List PatternPart → List String → Bool
  | [], [] => true
  | p :: rest, x :: path =>
    match p.segment with
    | .literal text => text == x && covers rest path
    | .param _ => covers rest path
    | .catchAll _ => rest.isEmpty
  | _, _ => false

/-- Whether the pattern is read, and stands for the path. -/
def Matches (pattern path : String) : Prop :=
  ∃ parts, parse pattern = .ok parts ∧ covers parts (pathParts path) = true

def names (parts : List PatternPart) : List String := parts.filterMap (·.segment.paramName)

/-- Every part was read from its own text, and only the last may be a catch-all. -/
structure WellFormed (parts : List PatternPart) : Prop where
  read : ∀ p ∈ parts, readSegment p.raw = .ok p.segment
  last : parts.Pairwise fun p _ => p.segment.isCatchAll = false

theorem WellFormed.nil : WellFormed [] :=
  ⟨fun _ h => absurd h List.not_mem_nil, .nil⟩

theorem WellFormed.drop {parts : List PatternPart} (h : WellFormed parts) (k : Nat) :
    WellFormed (parts.drop k) :=
  ⟨fun p hp => h.read p (List.mem_of_mem_drop hp), h.last.drop⟩

theorem WellFormed.append_left {lead rest : List PatternPart} (h : WellFormed (lead ++ rest)) :
    WellFormed lead :=
  ⟨fun p hp => h.read p (List.mem_append_left _ hp), (List.pairwise_append.1 h.last).1⟩

theorem WellFormed.tail {p : PatternPart} {rest : List PatternPart} (h : WellFormed (p :: rest)) :
    WellFormed rest := h.drop 1

theorem WellFormed.eq_nil_of_catchAll {p : PatternPart} {rest : List PatternPart}
    (h : WellFormed (p :: rest)) (hp : p.segment.isCatchAll = true) : rest = [] := by
  cases rest with
  | nil => rfl
  | cons q rest =>
    have hnot := (List.pairwise_cons.1 h.last).1 q List.mem_cons_self
    rw [hp] at hnot
    cases hnot

theorem literal_eq_raw {raw text : String} (h : readSegment raw = .ok (.literal text)) :
    text = raw := by
  unfold readSegment at h
  split at h
  · split at h
    · cases hn : readName raw (List.dropLast _) <;> rw [hn] at h <;> cases h
    · cases h
  · split at h
    · cases h
    · split at h
      · rename_i name _
        cases hn : readName raw name <;> rw [hn] at h <;> cases h
      · cases h
      · rename_i name _ _
        cases hn : readName raw name <;> rw [hn] at h <;> cases h
      · cases h
        rfl

theorem WellFormed.cons {p : PatternPart} {rest : List PatternPart}
    (hp : readSegment p.raw = .ok p.segment) (hlast : p.segment.isCatchAll = true → rest = [])
    (h : WellFormed rest) : WellFormed (p :: rest) := by
  refine ⟨?_, List.pairwise_cons.2 ⟨?_, h.last⟩⟩
  · intro q hq
    rcases List.mem_cons.1 hq with rfl | hq
    · exact hp
    · exact h.read q hq
  · intro q hq
    cases hc : p.segment.isCatchAll with
    | false => rfl
    | true =>
      rw [hlast hc] at hq
      exact absurd hq List.not_mem_nil

theorem readParts_cons {seen raws : List String} {raw : String} {parts : List PatternPart}
    (h : readParts seen (raw :: raws) = .ok parts) : ∃ segment rest,
      parts = ⟨raw, segment⟩ :: rest ∧ readSegment raw = .ok segment ∧
      (segment.isCatchAll = true → raws = []) ∧
      (∀ name, segment.paramName = some name → name ∉ seen) ∧
      readParts (segment.paramName.toList ++ seen) raws = .ok rest := by
  simp only [readParts] at h
  cases hs : readSegment raw with
  | error fault => simp [hs] at h
  | ok segment =>
    simp only [hs] at h
    split at h
    · cases h
    · rename_i hlast
      have hraws : segment.isCatchAll = true → raws = [] := by
        intro hc
        cases raws with
        | nil => rfl
        | cons x rest => exact absurd (by simp [hc]) hlast
      cases hn : segment.paramName with
      | none =>
        simp only [hn] at h
        cases hr : readParts seen raws with
        | error fault => simp [hr, Except.map] at h
        | ok rest =>
          simp only [hr, Except.map, Except.ok.injEq] at h
          exact ⟨segment, rest, h.symm, rfl, hraws, by simp [hn], by simp [hn, hr]⟩
      | some name =>
        simp only [hn] at h
        split at h
        · cases h
        · rename_i hnew
          cases hr : readParts (name :: seen) raws with
          | error fault => simp [hr, Except.map] at h
          | ok rest =>
            simp only [hr, Except.map, Except.ok.injEq] at h
            exact ⟨segment, rest, h.symm, rfl, hraws, by simpa [hn] using hnew, by simp [hn, hr]⟩

theorem readParts_spec {seen raws : List String} {parts : List PatternPart}
    (h : readParts seen raws = .ok parts) :
    parts.map (·.raw) = raws ∧ WellFormed parts ∧ (names parts).Nodup ∧
      ∀ name ∈ names parts, name ∉ seen := by
  induction raws generalizing seen parts with
  | nil =>
    cases h
    exact ⟨rfl, .nil, .nil, fun _ h => absurd h List.not_mem_nil⟩
  | cons raw raws ih =>
    obtain ⟨segment, rest, rfl, hread, hlast, hnew, hrest⟩ := readParts_cons h
    obtain ⟨hraws, hwell, hnodup, hseen⟩ := ih hrest
    have hend : segment.isCatchAll = true → rest = [] := by
      intro hc
      rw [hlast hc] at hraws
      exact List.map_eq_nil_iff.1 hraws
    refine ⟨by rw [List.map_cons, hraws], .cons hread hend hwell, ?_, ?_⟩
    · cases hn : segment.paramName with
      | none => simpa [names, hn] using hnodup
      | some name =>
        have hfresh : name ∉ names rest := fun hmem => hseen name hmem (by simp [hn])
        simpa [names, hn] using ⟨by simpa [names] using hfresh, hnodup⟩
    · intro name hmem
      cases hn : segment.paramName with
      | none => exact fun hs => hseen name (by simpa [names, hn] using hmem) (by simp [hs])
      | some first =>
        have hcase : name = first ∨ name ∈ names rest := by simpa [names, hn] using hmem
        rcases hcase with rfl | hcase
        · exact hnew name hn
        · exact fun hs => hseen name hcase (by simp [hs])

/-- An accepted pattern starts with a slash, and its parts are its non-empty pieces, well-formed
and with distinct names. -/
theorem parse_spec {pattern : String} {parts : List PatternPart} (h : parse pattern = .ok parts) :
    pattern.toList.head? = some '/' ∧ parts.map (·.raw) = pathParts pattern ∧ WellFormed parts ∧
      (names parts).Nodup := by
  unfold parse at h
  split at h
  · rename_i hslash
    cases hr : readParts [] (pathParts pattern) with
    | error fault => simp [hr, Except.mapError] at h
    | ok rest =>
      simp only [hr, Except.mapError, Except.ok.injEq] at h
      subst h
      obtain ⟨hraws, hwell, hnodup, _⟩ := readParts_spec hr
      exact ⟨hslash, hraws, hwell, hnodup⟩
  · cases h

end Pattern

end RequestRouting
