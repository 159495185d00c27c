import RequestRouting.Proofs.PathTrie.Insertion

/-!
# The match that a search returns

A path is matched if some registration covers it. Of several, the one is found whose parts precede
all others: at the first part in which two of them differ, the earlier introduced wins. What is
returned belongs to the latest registration of these parts.
-/

set_option autoImplicit false

namespace RequestRouting

namespace Registration

variable {α : Type}

def covers (r : Registration α) (parts : List String) : Bool := Pattern.covers r.parts parts

def params (r : Registration α) (path : List String) : Params :=
  ⟨(ParamSlot.ofParts 0 r.parts).map fun s => (s.name, s.value path)⟩

theorem drop_of_leading {r : Registration α} {path : List String} {raw : String}
    (h : path ++ [raw] <+: r.raws) : ∃ p ∈ r.parts, p.raw = raw ∧
      r.parts.drop path.length = p :: r.parts.drop (path.length + 1) := by
  obtain ⟨tail, htail⟩ := h
  have hlt : path.length < r.parts.length := by
    rw [← r.length_raws, ← htail]
    simp
  refine ⟨r.parts[path.length], List.getElem_mem hlt, ?_, List.drop_eq_getElem_cons hlt⟩
  have hget : r.raws[path.length]? = some raw := by
    rw [← htail]
    simp
  rw [raws, List.getElem?_map, List.getElem?_eq_getElem hlt] at hget
  simpa using hget

theorem first_of_leading {r : Registration α} {path : List String} {raw : String}
    {segment : Segment} (hread : Pattern.readSegment raw = .ok segment)
    (h : path ++ [raw] <+: r.raws) : ∃ p, p.segment = segment ∧ p.raw = raw ∧
      r.parts.drop path.length = p :: r.parts.drop (path ++ [raw]).length := by
  obtain ⟨p, hp, hraw, hdrop⟩ := drop_of_leading h
  have hsame := r.wellFormed.read p hp
  rw [hraw, hread] at hsame
  rw [List.length_append, List.length_singleton]
  exact ⟨p, (Except.ok.inj hsame).symm, hraw, hdrop⟩

theorem raws_eq_of_catchAll {r : Registration α} {path : List String} {raw : String}
    {name : Option String} (hread : Pattern.readSegment raw = .ok (.catchAll name))
    (h : path ++ [raw] <+: r.raws) : r.raws = path ++ [raw] := by
  obtain ⟨p, hsegment, _, hdrop⟩ := first_of_leading hread h
  have hlast : p.segment.isCatchAll = true := by
    rw [hsegment]
    rfl
  have hnil := (hdrop ▸ r.wellFormed.drop path.length).eq_nil_of_catchAll hlast
  rw [List.drop_eq_nil_iff, ← r.length_raws] at hnil
  exact (h.eq_of_length (Nat.le_antisymm h.length_le hnil)).symm

theorem leading_of_drop {r : Registration α} {path : List String} {p : PatternPart}
    {rest : List PatternPart} (h : path <+: r.raws) (hdrop : r.parts.drop path.length = p :: rest) :
    path ++ [p.raw] <+: r.raws := by
  obtain ⟨tail, htail⟩ := h
  have hraws : r.raws.drop path.length = p.raw :: rest.map (·.raw) := by
    rw [raws, ← List.map_drop, hdrop, List.map_cons]
  rw [← htail, List.drop_left] at hraws
  exact ⟨rest.map (·.raw), by rw [← htail, hraws, List.append_assoc, List.singleton_append]⟩

end Registration

namespace PathNode

variable {α : Type} {log : History α} {path : List String} {n : PathNode α}

/-- A registration below the node whose parts from there on cover those of a path. -/
structure Candidate (log : History α) (path parts : List String) (r : Registration α) : Prop where
  mem : r ∈ log
  leads : path <+: r.raws
  covers : Pattern.covers (r.parts.drop path.length) parts = true

structure Holds (log : History α) (path : List String) (n m : PathNode α) (r : Registration α) :
    Prop where
  latest : log.latest? r.raws = some r
  terminal : m.terminal = some r.terminal
  slots : m.slots = ParamSlot.ofParts 0 r.parts
  place : n.descend? (r.parts.drop path.length) = some m

/-- What it means that a walk from the node has the given result, among the candidates that
`through` admits. -/
def Finds (log : History α) (path parts : List String) (through : Registration α → Prop)
    (n : PathNode α) : Option (PathNode α) → Prop
  | none => ∀ r, through r → ¬ Candidate log path parts r
  | some m => ∃ r, through r ∧ Candidate log path parts r ∧ Holds log path n m r ∧
      ∀ s, through s → Candidate log path parts s → s.raws ≠ r.raws → log.Precedes r.raws s.raws

def walkChild (part : String) (rest : List String) (c : PathNode α) : Option (PathNode α) :=
  match c.kind with
  | .catchAll => if c.terminal.isSome then some c else none
  | .param => walk rest c
  | .literal => if c.segment == part then walk rest c else none
  | .root => none

theorem walk_cons (part : String) (rest : List String) (n : PathNode α) :
    n.walk (part :: rest) = n.children.findSome? (walkChild part rest) := by
  rw [walk]
  rfl

theorem Spreads.child?_eq_some (h : Spreads log path n.children) {c : PathNode α}
    (hc : c ∈ n.children) : n.child? c.segment = some c :=
  find?_eq_some_of_nodup PathNode.segment h.segments_nodup hc

theorem Candidate.raws_eq_of_nil {r : Registration α} (h : Candidate log path [] r) :
    r.raws = path := by
  have hdrop : r.parts.drop path.length = [] := by
    have hcovers := h.covers
    cases hd : r.parts.drop path.length with
    | nil => rfl
    | cons p rest =>
      rw [hd] at hcovers
      simp [Pattern.covers] at hcovers
  have hlen := h.leads.length_le
  rw [List.drop_eq_nil_iff, ← r.length_raws] at hdrop
  exact (h.leads.eq_of_length (by omega)).symm

theorem walk_nil_finds (h : Represents log path n) :
    Finds log path [] (fun _ => True) n (n.walk []) := by
  have hterminal := h.here.terminal
  cases hlatest : log.latest? path with
  | none =>
    rw [hlatest, Option.map_none] at hterminal
    have hwalk : n.walk [] = none := by simp [walk, hterminal]
    rw [hwalk]
    intro r _ hr
    have hsome : (log.latest? path).isSome = true :=
      History.latest?_isSome_iff.2 ⟨r, hr.mem, hr.raws_eq_of_nil⟩
    rw [hlatest] at hsome
    cases hsome
  | some r =>
    rw [hlatest, Option.map_some] at hterminal
    have hwalk : n.walk [] = some n := by simp [walk, hterminal]
    obtain ⟨hmem, hraws⟩ := History.latest?_eq_some hlatest
    have hlength : r.parts.length = path.length := by rw [← r.length_raws, hraws]
    have hdrop : r.parts.drop path.length = [] := List.drop_eq_nil_of_le (Nat.le_of_eq hlength)
    rw [hwalk]
    refine ⟨r, trivial, ⟨hmem, hraws ▸ List.prefix_rfl, by rw [hdrop]; rfl⟩,
      ⟨hraws ▸ hlatest, hterminal, h.here.slots r hlatest, by rw [hdrop]; rfl⟩, ?_⟩
    intro s _ hs hne
    exact absurd (hs.raws_eq_of_nil.trans hraws.symm) hne

theorem Candidate.through_child (h : Represents log path n) {part : String} {rest : List String}
    {r : Registration α} (hr : Candidate log path (part :: rest) r) :
    ∃ c ∈ n.children, path ++ [c.segment] <+: r.raws := by
  cases hdrop : r.parts.drop path.length with
  | nil =>
    have hcovers := hr.covers
    rw [hdrop] at hcovers
    cases hcovers
  | cons p tail =>
    have hlead := Registration.leading_of_drop hr.leads hdrop
    have hlt := History.introduced_lt_iff.2 ⟨r, hr.mem, hlead⟩
    obtain ⟨c, hc, hraw⟩ := (h.here.spreads.heads p.raw).2 hlt
    exact ⟨c, hc, hraw ▸ hlead⟩

theorem Finds.of_child {c : PathNode α} {part : String} {rest : List String}
    (h : Represents log path n) (hc : c ∈ n.children) {found : Option (PathNode α)}
    (hcovers : ∀ r : Registration α, path ++ [c.segment] <+: r.raws →
      Pattern.covers (r.parts.drop path.length) (part :: rest) =
        Pattern.covers (r.parts.drop (path ++ [c.segment]).length) rest)
    (hfound : Finds log (path ++ [c.segment]) rest (fun _ => True) c found) :
    Finds log path (part :: rest) (fun r => path ++ [c.segment] <+: r.raws) n found := by
  have hup : ∀ r, path ++ [c.segment] <+: r.raws → Candidate log path (part :: rest) r →
      Candidate log (path ++ [c.segment]) rest r :=
    fun r hlead hr => ⟨hr.mem, hlead, (hcovers r hlead) ▸ hr.covers⟩
  cases found with
  | none => exact fun r hlead hr => hfound r trivial (hup r hlead hr)
  | some m =>
    obtain ⟨r, _, hr, hm, hleast⟩ := hfound
    refine ⟨r, hr.leads, ⟨hr.mem, (List.prefix_append _ _).trans hr.leads, ?_⟩,
      ⟨hm.latest, hm.terminal, hm.slots, ?_⟩, fun s hlead hs => hleast s trivial (hup s hlead hs)⟩
    · rw [hcovers r hr.leads]
      exact hr.covers
    · obtain ⟨p, _, hraw, hdrop⟩ := Registration.drop_of_leading hr.leads
      have hplace := hm.place
      rw [List.length_append, List.length_singleton] at hplace
      rw [hdrop, descend?, hraw, h.here.spreads.child?_eq_some hc, Option.bind_some]
      exact hplace

theorem catchAll_finds {part : String} {rest : List String} {c : PathNode α} {name : Option String}
    (h : Represents log path n) (hc : c ∈ n.children)
    (hread : Pattern.readSegment c.segment = .ok (.catchAll name)) (hkind : c.kind = .catchAll) :
    Finds log path (part :: rest) (fun r => path ++ [c.segment] <+: r.raws) n
      (c.walkChild part rest) := by
  obtain ⟨s, hs, hfirst⟩ := History.introduced_lt_iff.1 (h.here.spreads.introduced_lt hc)
  have hsome := History.latest?_isSome_iff.2
    ⟨s, hs, Registration.raws_eq_of_catchAll hread hfirst⟩
  obtain ⟨r, hr⟩ := Option.isSome_iff_exists.1 hsome
  obtain ⟨hmem, hraws⟩ := History.latest?_eq_some hr
  have hlead : path ++ [c.segment] <+: r.raws := hraws ▸ List.prefix_rfl
  have hterminal := (h.child hc).here.terminal
  rw [hr, Option.map_some] at hterminal
  have hwalk : c.walkChild part rest = some c := by
    simp [walkChild, hkind, hterminal]
  obtain ⟨p, hsegment, hraw, hdrop⟩ := Registration.first_of_leading hread hlead
  have hlength : r.parts.length = (path ++ [c.segment]).length := by rw [← r.length_raws, hraws]
  have hnil : r.parts.drop (path ++ [c.segment]).length = [] :=
    List.drop_eq_nil_of_le (Nat.le_of_eq hlength)
  rw [hwalk]
  refine ⟨r, hlead, ⟨hmem, (List.prefix_append _ _).trans hlead, ?_⟩,
    ⟨hraws ▸ hr, hterminal, (h.child hc).here.slots r hr, ?_⟩, ?_⟩
  · rw [hdrop, Pattern.covers, hsegment, hnil]
    rfl
  · rw [hdrop, descend?, hraw, h.here.spreads.child?_eq_some hc, Option.bind_some, hnil]
    rfl
  · intro s hlead' _ hne
    exact absurd ((Registration.raws_eq_of_catchAll hread hlead').trans hraws.symm) hne

theorem walkChild_finds {part : String} {rest : List String} {c : PathNode α}
    (h : Represents log path n) (hc : c ∈ n.children)
    (ih : Finds log (path ++ [c.segment]) rest (fun _ => True) c (c.walk rest)) :
    Finds log path (part :: rest) (fun r => path ++ [c.segment] <+: r.raws) n
      (c.walkChild part rest) := by
  obtain ⟨segment, hread, hkind⟩ := h.here.spreads.kinds c hc
  cases segment with
  | literal text =>
    have htext := Pattern.literal_eq_raw hread
    by_cases hpart : c.segment = part
    · have hwalk : c.walkChild part rest = c.walk rest := by
        simp [walkChild, hkind, NodeKind.ofSegment, hpart]
      rw [hwalk]
      refine Finds.of_child h hc ?_ ih
      intro r hlead
      obtain ⟨p, hsegment, _, hdrop⟩ := Registration.first_of_leading hread hlead
      rw [hdrop, Pattern.covers, hsegment]
      simp [htext, hpart]
    · have hwalk : c.walkChild part rest = none := by
        simp [walkChild, hkind, NodeKind.ofSegment, hpart]
      rw [hwalk]
      intro r hlead hr
      obtain ⟨p, hsegment, _, hdrop⟩ := Registration.first_of_leading hread hlead
      have hcovers := hr.covers
      rw [hdrop, Pattern.covers, hsegment] at hcovers
      simp [htext, hpart] at hcovers
  | param name =>
    have hwalk : c.walkChild part rest = c.walk rest := by
      simp [walkChild, hkind, NodeKind.ofSegment]
    rw [hwalk]
    refine Finds.of_child h hc ?_ ih
    intro r hlead
    obtain ⟨p, hsegment, _, hdrop⟩ := Registration.first_of_leading hread hlead
    rw [hdrop, Pattern.covers, hsegment]
  | catchAll name => exact catchAll_finds h hc hread hkind

/-- The walk from a node finds the least of the candidates, and none only if there is none. -/
theorem walk_finds (h : Represents log path n) (parts : List String) :
    Finds log path parts (fun _ => True) n (n.walk parts) := by
  induction parts generalizing path n with
  | nil => exact walk_nil_finds h
  | cons part rest ih =>
    have hchild : ∀ c ∈ n.children, Finds log path (part :: rest)
        (fun r => path ++ [c.segment] <+: r.raws) n (c.walkChild part rest) :=
      fun c hc => walkChild_finds h hc (ih (h.child hc))
    rw [walk_cons]
    cases hfound : n.children.findSome? (walkChild part rest) with
    | none =>
      intro r _ hr
      obtain ⟨c, hc, hlead⟩ := hr.through_child h
      have hnone := hchild c hc
      rw [List.findSome?_eq_none_iff.1 hfound c hc] at hnone
      exact hnone r hlead hr
    | some m =>
      obtain ⟨before, c, after, hsplit, hhit, hmiss⟩ := List.findSome?_eq_some_iff.1 hfound
      have hc : c ∈ n.children := by
        rw [hsplit]
        simp
      have hm := hchild c hc
      rw [hhit] at hm
      obtain ⟨r, hlead, hr, hholds, hleast⟩ := hm
      refine ⟨r, trivial, hr, hholds, ?_⟩
      intro s _ hs hne
      obtain ⟨d, hd, hlead'⟩ := hs.through_child h
      rw [hsplit, List.mem_append, List.mem_cons] at hd
      rcases hd with hd | rfl | hd
      · have hnone := hchild d (by rw [hsplit]; simp [hd])
        rw [hmiss d hd] at hnone
        exact absurd hs (hnone s hlead')
      · exact hleast s hlead' hs hne
      · have horder := (List.pairwise_append.1 (hsplit ▸ h.here.spreads.order)).2.1
        have hlt := (List.pairwise_cons.1 horder).1 d hd
        refine ⟨path, c.segment, d.segment, ?_, hlead, hlead', hlt⟩
        intro heq
        rw [heq] at hlt
        exact Nat.lt_irrefl _ hlt

end PathNode

namespace PathTrie

variable {α : Type}

theorem search_eq (t : PathTrie α) (path : String) :
    t.search path = (t.root.walk (pathParts path)).bind fun n =>
      n.terminal.map fun terminal => ⟨n.id, terminal.pattern, terminal.value,
        ⟨n.slots.map fun s => (s.name, s.value (pathParts path))⟩⟩ := by
  cases hwalk : t.root.walk (pathParts path) <;> simp [search, hwalk]

theorem search_cases {log : History α} {t : PathTrie α} (h : t.root.Represents log [])
    (path : String) :
    (t.search path = none ∧ ∀ r ∈ log, r.covers (pathParts path) = false) ∨
    ∃ r ∈ log, ∃ m, r.covers (pathParts path) = true ∧
      t.root.walk (pathParts path) = some m ∧ PathNode.Holds log [] t.root m r ∧
      t.search path = some ⟨m.id, r.pattern, r.value, r.params (pathParts path)⟩ ∧
      ∀ s ∈ log, s.covers (pathParts path) = true → s.raws ≠ r.raws →
        log.Precedes r.raws s.raws := by
  have hcandidate : ∀ r ∈ log, r.covers (pathParts path) = true →
      PathNode.Candidate log [] (pathParts path) r :=
    fun r hr hcovers => ⟨hr, List.nil_prefix, by simpa [Registration.covers] using hcovers⟩
  have hfinds := PathNode.walk_finds h (pathParts path)
  rw [search_eq]
  cases hwalk : t.root.walk (pathParts path) with
  | none =>
    rw [hwalk] at hfinds
    refine .inl ⟨rfl, fun r hr => ?_⟩
    cases hcovers : r.covers (pathParts path) with
    | false => rfl
    | true => exact absurd (hcandidate r hr hcovers) (hfinds r trivial)
  | some m =>
    rw [hwalk] at hfinds
    obtain ⟨r, _, hr, hm, hleast⟩ := hfinds
    refine .inr ⟨r, hr.mem, m, hr.covers, rfl, hm, ?_,
      fun s hs hcovers => hleast s trivial (hcandidate s hs hcovers)⟩
    rw [Option.bind_some, hm.terminal, hm.slots]
    rfl

/-- After any run of insertions, a search misses exactly if no accepted pattern covers the path.
A hit is the one pattern that precedes all others that cover it, with the spelling and the value
that its parts were last registered with. -/
theorem search_least (calls : List (String × α)) (path : String) :
    let trie := (empty : PathTrie α).insertAll calls
    let log := (empty : PathTrie α).accepted calls
    (trie.search path = none ↔ ∀ r ∈ log, r.covers (pathParts path) = false) ∧
    ∀ m, trie.search path = some m → ∃ r ∈ log, r.covers (pathParts path) = true ∧
      log.latest? r.raws = some r ∧ m.pattern = r.pattern ∧ m.value = r.value ∧
      ∀ s ∈ log, s.covers (pathParts path) = true → s.raws ≠ r.raws →
        log.Precedes r.raws s.raws ∧ ¬ log.Precedes s.raws r.raws := by
  intro trie log
  rcases search_cases (represents_run calls) path with
    ⟨hnone, hmiss⟩ | ⟨r, hr, m, hcovers, _, hm, hsome, hleast⟩
  · refine ⟨⟨fun _ => hmiss, fun _ => hnone⟩, ?_⟩
    intro m hm
    rw [hnone] at hm
    cases hm
  · refine ⟨⟨?_, ?_⟩, ?_⟩
    · intro hnone
      rw [hsome] at hnone
      cases hnone
    · intro hmiss
      rw [hmiss r hr] at hcovers
      cases hcovers
    · intro found hfound
      rw [hsome] at hfound
      cases hfound
      refine ⟨r, hr, hcovers, hm.latest, rfl, rfl, ?_⟩
      intro s hs hs' hne
      have hprecedes := hleast s hs hs' hne
      exact ⟨hprecedes, hprecedes.asymm⟩

example : (((empty : PathTrie Nat).insertAll
    [("/users/:id", 1), ("/users/new", 2), ("/users//:id", 3)]).search "/users/new").map
      (·.value) = some 3 := by
  rfl

end PathTrie

end RequestRouting
