import RequestRouting.Proofs.PathTrie.SegmentTree
import RequestRouting.Proofs.PathTrie.Locality

/-!
# What a trie refuses

A pattern is refused if it cannot be read, or if it ends with a catch-all where one with another
text is registered. A refusal leaves the trie as it is, and all else is accepted.
-/

set_option autoImplicit false

namespace RequestRouting

/-- The fault lies in what else is registered, not in how the pattern is written. -/
def PatternFault.IsConflict : PatternFault → Prop
  | .conflictingCatchAll _ _ => True
  | _ => False

namespace Pattern

variable {raw : String} {fault : PatternFault}

theorem readName_fault {name : List Char} (h : readName raw name = .error fault) :
    ¬ fault.IsConflict := by
  unfold readName at h
  split at h
  · cases h
    exact id
  · split at h
    · cases h
    · cases h
      exact id

theorem map_readName_fault {name : List Char} {f : String → Segment}
    (h : (readName raw name).map f = .error fault) : ¬ fault.IsConflict := by
  cases hname : readName raw name with
  | error other =>
    rw [hname] at h
    cases h
    exact readName_fault hname
  | ok text =>
    rw [hname] at h
    cases h

theorem readSegment_fault (h : readSegment raw = .error fault) : ¬ fault.IsConflict := by
  unfold readSegment at h
  split at h
  · split at h
    · exact map_readName_fault h
    · cases h
      exact id
  · split at h
    · cases h
      exact id
    · split at h
      · exact map_readName_fault h
      · cases h
      · exact map_readName_fault h
      · cases h

theorem readParts_fault {seen raws : List String} (h : readParts seen raws = .error fault) :
    ¬ fault.IsConflict := by
  induction raws generalizing seen with
  | nil => cases h
  | cons raw raws ih =>
    have hrest : ∀ {seen : List String} {p : PatternPart},
        (readParts seen raws).map (p :: ·) = .error fault → ¬ fault.IsConflict := by
      intro seen p hmap
      cases hparts : readParts seen raws with
      | error other =>
        rw [hparts] at hmap
        cases hmap
        exact ih hparts
      | ok parts =>
        rw [hparts] at hmap
        cases hmap
    rw [readParts] at h
    split at h
    · rename_i other hread
      cases h
      exact readSegment_fault hread
    · split at h
      · cases h
        exact id
      · split at h
        · exact hrest h
        · split at h
          · cases h
            exact id
          · exact hrest h

theorem parse_fault {pattern : String} {e : PatternError} (h : parse pattern = .error e) :
    ¬ e.fault.IsConflict := by
  unfold parse at h
  split at h
  · cases hparts : readParts [] (pathParts pattern) with
    | error fault =>
      rw [hparts] at h
      cases h
      exact readParts_fault hparts
    | ok parts =>
      rw [hparts] at h
      cases h
  · cases h
    exact id

end Pattern

/-- The parts end with the catch-all `last`, and a registration has the same parts but for a
catch-all with the text `existing` in that place. -/
def History.Conflicts {α : Type} (log : History α) (parts : List PatternPart)
    (last : PatternPart) (existing : String) : Prop :=
  ∃ lead, parts = lead ++ [last] ∧ last.segment.isCatchAll = true ∧ existing ≠ last.raw ∧
    ∃ r ∈ log, ∃ p, r.parts = lead ++ [p] ∧ p.segment.isCatchAll = true ∧ p.raw = existing

namespace PathNode

variable {α : Type} {log : History α} {path : List String} {n : PathNode α}
  {parts : List PatternPart} {last : PatternPart} {existing : String}

theorem Represents.of_clash? (h : Represents log path n) (hwell : Pattern.WellFormed parts)
    (hclash : n.clash? parts = some (last, existing)) :
    ∃ lead, parts = lead ++ [last] ∧ last.segment.isCatchAll = true ∧ existing ≠ last.raw ∧
      Pattern.IsCatchAll existing ∧ ∃ r ∈ log, r.raws = path ++ lead.map (·.raw) ++ [existing] := by
  induction parts generalizing path n with
  | nil => cases hclash
  | cons p rest ih =>
    rw [clash?] at hclash
    cases hchild : n.child? p.raw with
    | some c =>
      rw [hchild] at hclash
      have hraw : c.segment = p.raw := by simpa using List.find?_some hchild
      obtain ⟨lead, hparts, hlast, hne, hcatchAll, r, hr, hraws⟩ :=
        ih (h.child (List.mem_of_find?_eq_some hchild)) hwell.tail hclash
      refine ⟨p :: lead, by rw [hparts, List.cons_append], hlast, hne, hcatchAll, r, hr, ?_⟩
      rw [hraws, hraw]
      simp
    | none =>
      simp only [hchild] at hclash
      split at hclash
      · rename_i hlast
        rw [Option.map_eq_some_iff] at hclash
        obtain ⟨c, hfound, hpair⟩ := hclash
        obtain ⟨rfl, rfl⟩ := Prod.mk.inj hpair
        have hc : c ∈ n.children := List.mem_of_find?_eq_some hfound
        have hkind : c.kind = .catchAll := by simpa using List.find?_some hfound
        have hcatchAll := h.isCatchAll hc hkind
        obtain ⟨r, hr, hlead⟩ := h.introduced_by hc
        refine ⟨[], by rw [hwell.eq_nil_of_catchAll hlast]; rfl, hlast, ?_, hcatchAll, r, hr, ?_⟩
        · intro heq
          have hsome := child?_isSome_iff.2 ⟨c, hc, heq⟩
          rw [hchild] at hsome
          cases hsome
        · simpa using Registration.raws_eq_of_catchAll hcatchAll.choose_spec hlead
      · cases hclash

theorem conflicts_of_clash? {root : PathNode α} (h : root.Represents log [])
    (hwell : Pattern.WellFormed parts) (hclash : root.clash? parts = some (last, existing)) :
    log.Conflicts parts last existing := by
  obtain ⟨lead, hparts, hlast, hne, hcatchAll, r, hr, hraws⟩ := h.of_clash? hwell hclash
  rw [List.nil_append] at hraws
  obtain ⟨lead', p, hrparts, hlead, hraw, hp⟩ := Registration.last_part hraws hcatchAll
  have hsame : lead' = lead :=
    (hrparts ▸ r.wellFormed).append_left.eq_of_raws (hparts ▸ hwell).append_left hlead
  exact ⟨lead, hparts, hlast, hne, r, hr, p, hsame ▸ hrparts, hp, hraw⟩

end PathNode

namespace PathTrie

variable {α : Type} {log : History α} {t : PathTrie α} {pattern : String}
  {parts : List PatternPart}

theorem Embodies.clash?_eq_some_iff (h : t.Embodies log) (hwell : Pattern.WellFormed parts)
    {last : PatternPart} {existing : String} :
    t.root.clash? parts = some (last, existing) ↔ log.Conflicts parts last existing := by
  refine ⟨PathNode.conflicts_of_clash? h.represents hwell, ?_⟩
  rintro ⟨lead, rfl, hlast, hne, r, hr, p, hrparts, hp, rfl⟩
  have hraws : r.raws = lead.map (·.raw) ++ [p.raw] := by simp [Registration.raws, hrparts]
  have hcatchAll : Pattern.IsCatchAll p.raw :=
    Pattern.isCatchAll_raw (r.wellFormed.read p (by simp [hrparts])) hp
  cases hclash : t.root.clash? (lead ++ [last]) with
  | none =>
    have hread := hwell.read last (by simp)
    exact absurd (h.represents.eq_of_clash?_eq_none h.single hclash hlast hread hr
      (by simpa using hraws) hcatchAll) hne
  | some found =>
    obtain ⟨other, x⟩ := found
    obtain ⟨lead', hparts, -, -, s, hs, q, hsparts, hq, rfl⟩ :=
      PathNode.conflicts_of_clash? h.represents hwell hclash
    obtain ⟨rfl, hsame⟩ := List.append_inj' hparts rfl
    rw [List.singleton_inj] at hsame
    have hsraws : s.raws = lead.map (·.raw) ++ [q.raw] := by simp [Registration.raws, hsparts]
    have hqread := Pattern.isCatchAll_raw (s.wellFormed.read q (by simp [hsparts])) hq
    rw [hsame, h.single s hs r hr _ _ _ hsraws hraws hqread hcatchAll]

/-- The three courses of an insertion: its pattern is not read, or a conflict is met, which is the
only one, or there is none and it is accepted. -/
theorem Embodies.insert_courses (h : t.Embodies log) (pattern : String) (value : α) :
    (∃ e, Pattern.parse pattern = .error e ∧ ¬ e.fault.IsConflict ∧
      t.insert pattern value = (.error e, t)) ∨
    (∃ parts last existing, Pattern.parse pattern = .ok parts ∧
      (∀ last' existing', log.Conflicts parts last' existing' ↔
        last' = last ∧ existing' = existing) ∧
      t.insert pattern value =
        (.error ⟨pattern, .conflictingCatchAll last.raw existing⟩, t)) ∨
    ∃ parts previous, Pattern.parse pattern = .ok parts ∧
      (∀ last existing, ¬ log.Conflicts parts last existing) ∧
      (t.insert pattern value).1 = .ok previous := by
  cases hparse : Pattern.parse pattern with
  | error e => exact .inl ⟨e, rfl, Pattern.parse_fault hparse, by simp [PathTrie.insert, hparse]⟩
  | ok parts =>
    have hconflicts : ∀ last existing, log.Conflicts parts last existing ↔
        t.root.clash? parts = some (last, existing) :=
      fun _ _ => (h.clash?_eq_some_iff (Pattern.parse_spec hparse).2.2.1).symm
    cases hclash : t.root.clash? parts with
    | some found =>
      refine .inr (.inl ⟨parts, found.1, found.2, rfl, ?_,
        by simp [PathTrie.insert, hparse, hclash]⟩)
      intro last existing
      rw [hconflicts, hclash, Option.some.injEq, Prod.ext_iff]
      exact and_congr eq_comm eq_comm
    | none =>
      refine .inr (.inr ⟨parts, _, rfl, ?_, by simp only [PathTrie.insert, hparse, hclash]; rfl⟩)
      intro last existing
      rw [hconflicts, hclash]
      exact (Option.some_ne_none _).symm

/-- After any run, an insertion meets a conflict exactly if its pattern is read and ends with a
catch-all where another is registered behind the same parts, and names this one; it fails otherwise
exactly as reading fails. In these cases nothing is changed, and in all others it is accepted. -/
theorem insert_refuses (calls : List (String × α)) (pattern : String) (value : α) :
    let t := (empty : PathTrie α).insertAll calls
    let log := (empty : PathTrie α).accepted calls
    (∀ owner segment existing,
      (t.insert pattern value).1 = .error ⟨owner, .conflictingCatchAll segment existing⟩ ↔
        owner = pattern ∧ ∃ parts last, Pattern.parse pattern = .ok parts ∧
          last.raw = segment ∧ log.Conflicts parts last existing) ∧
    (∀ e, (t.insert pattern value).1 = .error e ∧ ¬ e.fault.IsConflict ↔
      Pattern.parse pattern = .error e) ∧
    (∀ e, (t.insert pattern value).1 = .error e → (t.insert pattern value).2 = t) ∧
    ((∃ previous, (t.insert pattern value).1 = .ok previous) ↔
      ∃ parts, Pattern.parse pattern = .ok parts ∧
        ∀ last existing, ¬ log.Conflicts parts last existing) := by
  intro t log
  have h : t.Embodies log := empty_embodies.insertAll calls
  rcases h.insert_courses pattern value with ⟨e, hparse, hfault, hinsert⟩ |
    ⟨parts, last, existing, hparse, honly, hinsert⟩ | ⟨parts, previous, hparse, hfree, hinsert⟩
  · simp only [hparse, hinsert]
    refine ⟨?_, ?_, fun _ _ => trivial, by simp⟩
    · intro owner segment existing
      refine iff_of_false ?_ (by simp)
      rintro ⟨⟩
      exact hfault trivial
    · intro other
      rw [Except.error.injEq, Except.error.injEq]
      exact ⟨And.left, fun hsame => ⟨hsame, hsame ▸ hfault⟩⟩
  · simp only [hparse, hinsert]
    refine ⟨?_, ?_, fun _ _ => trivial, ?_⟩
    · intro owner segment other
      simp [honly, eq_comm]
    · intro e
      refine iff_of_false ?_ (by simp)
      rintro ⟨⟨⟩, hfault⟩
      exact hfault trivial
    · simp [honly]
  · simp only [hparse, hinsert]
    refine ⟨?_, by simp, by simp, by simpa using hfree⟩
    simp [hfree]

example : (((empty : PathTrie Nat).insertAll [("/files/*path", 1), ("/files/:id", 2)]).insert
    "//files/*rest" 3).1 =
      .error ⟨"//files/*rest", .conflictingCatchAll "*rest" "*path"⟩ := by
  rfl

end PathTrie

end RequestRouting
