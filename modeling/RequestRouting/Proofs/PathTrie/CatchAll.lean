import RequestRouting.Proofs.PathTrie.Search
import RequestRouting.Proofs.PathTrie.Terminals

/-!
# Catch-alls in a trie

A catch-all ends every pattern that it stands in, and two that are written differently never stand
at one place: an insertion that would bring the second is refused.
-/

set_option autoImplicit false

namespace RequestRouting

def Pattern.IsCatchAll (raw : String) : Prop := ∃ name, readSegment raw = .ok (.catchAll name)

theorem Pattern.isCatchAll_raw {p : PatternPart} (hread : readSegment p.raw = .ok p.segment)
    (hp : p.segment.isCatchAll = true) : IsCatchAll p.raw := by
  cases hsegment : p.segment with
  | literal text =>
    rw [hsegment] at hp
    cases hp
  | param name =>
    rw [hsegment] at hp
    cases hp
  | catchAll name => exact ⟨name, hsegment ▸ hread⟩

/-- Behind the same parts no two registrations end with different catch-alls. -/
def History.SingleCatchAll {α : Type} (log : History α) : Prop :=
  ∀ r ∈ log, ∀ s ∈ log, ∀ path a b, r.raws = path ++ [a] → s.raws = path ++ [b] →
    Pattern.IsCatchAll a → Pattern.IsCatchAll b → a = b

namespace Registration

variable {α : Type}

theorem last_part {r : Registration α} {path : List String} {a : String}
    (h : r.raws = path ++ [a]) (ha : Pattern.IsCatchAll a) :
    ∃ lead p, r.parts = lead ++ [p] ∧ lead.map (·.raw) = path ∧ p.raw = a ∧
      p.segment.isCatchAll = true := by
  obtain ⟨lead, last, hparts, hlead, hlast⟩ := List.map_eq_append_iff.1 h
  obtain ⟨p, rfl, hraw⟩ := List.map_eq_singleton_iff.1 hlast
  have hread := r.wellFormed.read p (by rw [hparts]; simp)
  obtain ⟨name, hname⟩ := ha
  rw [hraw, hname] at hread
  exact ⟨lead, p, hparts, hlead, hraw, by rw [← Except.ok.inj hread]; rfl⟩

end Registration

namespace PathNode

variable {α : Type} {log : History α} {path : List String} {n c : PathNode α}

theorem Represents.isCatchAll (h : Represents log path n) (hc : c ∈ n.children)
    (hkind : c.kind = .catchAll) : Pattern.IsCatchAll c.segment := by
  obtain ⟨segment, hread, hsegment⟩ := h.here.spreads.kinds c hc
  rw [hkind] at hsegment
  cases segment with
  | literal text => cases hsegment
  | param name => cases hsegment
  | catchAll name => exact ⟨name, hread⟩

theorem Represents.kind_eq_catchAll (h : Represents log path n) (hc : c ∈ n.children)
    (hcatchAll : Pattern.IsCatchAll c.segment) : c.kind = .catchAll := by
  obtain ⟨segment, hread, hsegment⟩ := h.here.spreads.kinds c hc
  obtain ⟨name, hname⟩ := hcatchAll
  rw [hname] at hread
  rw [hsegment, ← Except.ok.inj hread]
  rfl

theorem Represents.introduced_by (h : Represents log path n) (hc : c ∈ n.children) :
    ∃ r ∈ log, path ++ [c.segment] <+: r.raws :=
  History.introduced_lt_iff.1 (h.here.spreads.introduced_lt hc)

theorem Represents.terminal_isSome_iff (h : Represents log path n) :
    n.terminal.isSome = true ↔ ∃ r ∈ log, r.raws = path := by
  rw [h.here.terminal, Option.isSome_map, History.latest?_isSome_iff]

theorem Represents.catchAll_ends (h : Represents log path n) (hc : c ∈ n.children)
    (hkind : c.kind = .catchAll) : c.terminal.isSome = true ∧ c.children = [] := by
  obtain ⟨name, hread⟩ := h.isCatchAll hc hkind
  obtain ⟨r, hr, hlead⟩ := h.introduced_by hc
  refine ⟨(h.child hc).terminal_isSome_iff.2
    ⟨r, hr, Registration.raws_eq_of_catchAll hread hlead⟩, ?_⟩
  rw [List.eq_nil_iff_forall_not_mem]
  intro d hd
  obtain ⟨s, _, hnext⟩ := (h.child hc).introduced_by hd
  have hlead' : path ++ [c.segment] <+: s.raws := (List.prefix_append _ _).trans hnext
  have hlen := hnext.length_le
  rw [Registration.raws_eq_of_catchAll hread hlead', List.length_append,
    List.length_singleton] at hlen
  omega

theorem Represents.childless_terminal (h : Represents log path n) (hc : c ∈ n.children)
    (hnil : c.children = []) : c.terminal.isSome = true := by
  obtain ⟨r, hr, hlead⟩ := h.introduced_by hc
  rcases eq_or_next_of_leading hlead with hraws | ⟨raw, hnext⟩
  · exact (h.child hc).terminal_isSome_iff.2 ⟨r, hr, hraws⟩
  · obtain ⟨d, hd, _⟩ := ((h.child hc).here.spreads.heads raw).2
      (History.introduced_lt_iff.2 ⟨r, hr, hnext⟩)
    rw [hnil] at hd
    exact absurd hd List.not_mem_nil

theorem Represents.single_catchAll (h : Represents log path n) (hsingle : log.SingleCatchAll) :
    (n.children.filter (·.kind == .catchAll)).length ≤ 1 := by
  have hsame : ∀ c ∈ n.children, ∀ d ∈ n.children, c.kind = .catchAll → d.kind = .catchAll →
      c.segment = d.segment := by
    intro c hc d hd hkindc hkindd
    have hcatchc := h.isCatchAll hc hkindc
    have hcatchd := h.isCatchAll hd hkindd
    obtain ⟨r, hr, hleadc⟩ := h.introduced_by hc
    obtain ⟨s, hs, hleadd⟩ := h.introduced_by hd
    exact hsingle r hr s hs path c.segment d.segment
      (Registration.raws_eq_of_catchAll hcatchc.choose_spec hleadc)
      (Registration.raws_eq_of_catchAll hcatchd.choose_spec hleadd) hcatchc hcatchd
  have hnodup := (List.pairwise_map.1 h.here.spreads.segments_nodup).filter
    (fun c => c.kind == .catchAll)
  cases hfilter : n.children.filter (·.kind == .catchAll) with
  | nil => simp
  | cons c rest =>
    cases rest with
    | nil => simp
    | cons d rest =>
      rw [hfilter] at hnodup
      have hc : c ∈ n.children.filter (·.kind == .catchAll) := by simp [hfilter]
      have hd : d ∈ n.children.filter (·.kind == .catchAll) := by simp [hfilter]
      rw [List.mem_filter, beq_iff_eq] at hc hd
      exact absurd (hsame c hc.1 d hd.1 hc.2 hd.2)
        ((List.pairwise_cons.1 hnodup).1 d List.mem_cons_self)

/-- If no catch-all stands in the way of parts that end with one, every registration that differs
from them in a catch-all at the end only has the same one. -/
theorem Represents.eq_of_clash?_eq_none (h : Represents log path n) (hsingle : log.SingleCatchAll)
    {lead : List PatternPart} {p : PatternPart} (hclash : n.clash? (lead ++ [p]) = none)
    (hp : p.segment.isCatchAll = true) (hread : Pattern.readSegment p.raw = .ok p.segment)
    {s : Registration α} (hs : s ∈ log) {x : String}
    (hraws : s.raws = path ++ lead.map (·.raw) ++ [x]) (hx : Pattern.IsCatchAll x) :
    x = p.raw := by
  induction lead generalizing path n with
  | nil =>
    have hplace : s.raws = path ++ [x] := by simpa using hraws
    obtain ⟨c, hc, rfl⟩ := (h.here.spreads.heads x).2
      (History.introduced_lt_iff.2 ⟨s, hs, hplace ▸ List.prefix_rfl⟩)
    have hkind := h.kind_eq_catchAll hc hx
    rw [List.nil_append, clash?] at hclash
    cases hchild : n.child? p.raw with
    | some d =>
      have hd : d ∈ n.children := List.mem_of_find?_eq_some hchild
      have hraw : d.segment = p.raw := by simpa using List.find?_some hchild
      have hpcatch := Pattern.isCatchAll_raw hread hp
      obtain ⟨r, hr, hlead⟩ := h.introduced_by hd
      rw [hraw] at hlead
      exact hsingle s hs r hr path _ _ hplace
        (Registration.raws_eq_of_catchAll hpcatch.choose_spec hlead) hx hpcatch
    | none =>
      simp only [hchild, hp, if_true, Option.map_eq_none_iff, catchAllChild?,
        List.find?_eq_none] at hclash
      exact absurd hkind (by simpa using hclash c hc)
  | cons q lead ih =>
    have hlead : path ++ [q.raw] <+: s.raws := ⟨lead.map (·.raw) ++ [x], by simp [hraws]⟩
    obtain ⟨c, hc, hraw⟩ := (h.here.spreads.heads q.raw).2
      (History.introduced_lt_iff.2 ⟨s, hs, hlead⟩)
    have hchild : n.child? q.raw = some c := hraw ▸ h.here.spreads.child?_eq_some hc
    rw [List.cons_append, clash?, hchild] at hclash
    refine ih (h.child hc) hclash ?_
    rw [hraws, hraw]
    simp

end PathNode

theorem History.SingleCatchAll.add {α : Type} {log : History α} (hsingle : log.SingleCatchAll)
    {root : PathNode α} (h : root.Represents log []) {r : Registration α}
    (hclash : root.clash? r.parts = none) : History.SingleCatchAll (log ++ [r]) := by
  have hnew : ∀ s ∈ log, ∀ path a b, r.raws = path ++ [a] → s.raws = path ++ [b] →
      Pattern.IsCatchAll a → Pattern.IsCatchAll b → b = a := by
    intro s hs path a b ha hb hcatcha hcatchb
    obtain ⟨lead, p, hparts, rfl, rfl, hp⟩ := Registration.last_part ha hcatcha
    have hread := r.wellFormed.read p (by rw [hparts]; simp)
    rw [hparts] at hclash
    exact h.eq_of_clash?_eq_none hsingle hclash hp hread hs (by simpa using hb) hcatchb
  intro s hs s' hs' path a b ha hb hcatcha hcatchb
  simp only [List.mem_append, List.mem_singleton] at hs hs'
  rcases hs with hs | rfl <;> rcases hs' with hs' | rfl
  · exact hsingle s hs s' hs' path a b ha hb hcatcha hcatchb
  · exact hnew s hs path b a hb ha hcatchb hcatcha
  · exact (hnew s' hs' path a b ha hb hcatcha hcatchb).symm
  · rw [ha] at hb
    simpa using hb

end RequestRouting
