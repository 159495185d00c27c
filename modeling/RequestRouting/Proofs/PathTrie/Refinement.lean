import Mathlib.Data.List.Infix
import RequestRouting.Proofs.PathTrie.SegmentTree

/-!
# A trie as a map

A trie is a finite map from the parts of patterns to their latest registration: what it returns, how
much it counts and what it lists are told by its history alone.
-/

set_option autoImplicit false

namespace RequestRouting

namespace History

variable {α : Type}

/-- The different ways in which registrations begin, each of one part at least. -/
def leads (log : History α) : List (List String) :=
  (log.flatMap fun r => r.raws.inits.tail).eraseDups

theorem inits_nodup (raws : List String) : raws.inits.Nodup := by
  induction raws with
  | nil => exact List.nodup_singleton []
  | cons raw raws ih =>
    rw [List.inits_cons, List.nodup_cons]
    refine ⟨by simp, ih.map fun a b heq => (List.cons.inj heq).2⟩

theorem mem_inits_tail {raws lead : List String} :
    lead ∈ raws.inits.tail ↔ lead ≠ [] ∧ lead <+: raws := by
  cases raws with
  | nil => simp [List.prefix_nil]
  | cons raw raws =>
    cases lead with
    | nil => simp
    | cons first lead => simp [List.cons_prefix_cons, eq_comm, and_comm]

theorem mem_leads {log : History α} {lead : List String} :
    lead ∈ log.leads ↔ lead ≠ [] ∧ log.introduced lead < log.length := by
  rw [leads, List.mem_eraseDups, List.mem_flatMap, introduced_lt_iff]
  simp only [mem_inits_tail]
  constructor
  · rintro ⟨r, hr, hne, hlead⟩
    exact ⟨hne, r, hr, hlead⟩
  · rintro ⟨hne, r, hr, hlead⟩
    exact ⟨r, hr, hne, hlead⟩

def newLeads (log : History α) (path raws : List String) : List (List String) :=
  raws.inits.tail.filter fun lead => log.length ≤ log.introduced (path ++ lead)

theorem leads_append (log : History α) (r : Registration α) :
    (leads (log ++ [r])).Perm (log.leads ++ log.newLeads [] r.raws) := by
  have hnew : (log.newLeads [] r.raws).Nodup := ((inits_nodup _).tail).filter _
  have hdisjoint : ∀ lead ∈ log.leads, lead ∉ log.newLeads [] r.raws := by
    intro lead hold hmem
    have hle : log.length ≤ log.introduced lead := by simpa using (List.mem_filter.1 hmem).2
    exact Nat.not_lt_of_le hle (mem_leads.1 hold).2
  have hold : log.leads.Nodup := eraseDups_nodup _
  have hall : (leads (log ++ [r])).Nodup := eraseDups_nodup _
  refine (List.perm_ext_iff_of_nodup hall (List.nodup_append'.2 ⟨hold, hnew, hdisjoint⟩)).2
    fun lead => ?_
  simp only [List.mem_append, mem_leads, newLeads, List.mem_filter, mem_inits_tail,
    List.nil_append, decide_eq_true_eq, ← Nat.not_lt, introduced_lt_iff, List.mem_singleton]
  constructor
  · rintro ⟨hne, s, hs, hlead⟩
    by_cases hold : ∃ s ∈ log, lead <+: s.raws
    · exact .inl ⟨hne, hold⟩
    · rcases hs with hs | rfl
      · exact absurd ⟨s, hs, hlead⟩ hold
      · exact .inr ⟨⟨hne, hlead⟩, hold⟩
  · rintro (⟨hne, s, hs, hlead⟩ | ⟨⟨hne, hlead⟩, -⟩)
    · exact ⟨hne, s, .inl hs, hlead⟩
    · exact ⟨hne, r, .inr rfl, hlead⟩

end History

namespace PathNode

variable {α : Type} {log : History α} {path : List String} {n : PathNode α}

theorem Represents.missing_eq (h : Represents log path n) (parts : List PatternPart) :
    n.missing parts = (log.newLeads path (parts.map (·.raw))).length := by
  induction parts generalizing path n with
  | nil => rfl
  | cons p rest ih =>
    have hinits : ((p :: rest).map (·.raw)).inits.tail =
        [p.raw] :: (rest.map (·.raw)).inits.tail.map (p.raw :: ·) := by
      cases rest <;> simp
    rw [missing, History.newLeads, hinits, List.filter_cons, List.filter_map]
    cases hchild : n.child? p.raw with
    | some c =>
      have hraw : c.segment = p.raw := by simpa using List.find?_some hchild
      have hc := List.mem_of_find?_eq_some hchild
      have hold : ¬ log.length ≤ log.introduced (path ++ [p.raw]) :=
        Nat.not_le.2 (hraw ▸ h.here.spreads.introduced_lt hc)
      have hbelow := ih (h.child hc)
      rw [hraw] at hbelow
      simpa [hold, History.newLeads, Function.comp_def] using hbelow
    | none =>
      have hnew : ∀ lead : List String,
          log.length ≤ log.introduced (path ++ p.raw :: lead) := by
        intro lead
        rw [← Nat.not_lt, History.introduced_lt_iff]
        rintro ⟨r, hr, hlead⟩
        have hhead := (h.here.spreads.heads p.raw).2 (History.introduced_lt_iff.2
          ⟨r, hr, List.IsPrefix.trans ⟨lead, by simp⟩ hlead⟩)
        rw [← child?_isSome_iff, hchild] at hhead
        cases hhead
      simp [hnew, Function.comp_def, List.length_inits]

def unstack : List (PathNode α) → List (PathNode α)
  | [] => []
  | n :: stack => n :: unstack (n.children ++ stack)
termination_by stack => (stack.flatMap preorder).length
decreasing_by simp [preorder_eq n]

theorem unstack_eq (stack : List (PathNode α)) : unstack stack = stack.flatMap preorder := by
  induction stack using unstack.induct with
  | case1 => rw [unstack, List.flatMap_nil]
  | case2 n stack ih =>
    rw [unstack, ih, List.flatMap_cons, List.flatMap_append, preorder_eq n, List.cons_append]

end PathNode

namespace PathTrie

variable {α : Type} {log : History α} {t : PathTrie α}

theorem get?_of_parse {pattern : String} {parts : List PatternPart}
    (hparse : Pattern.parse pattern = .ok parts) :
    t.get? pattern = (t.stored? parts).map (·.value) := by
  simp [get?, hparse, stored?]

theorem previous_eq_get? {pattern : String} {value : α} {previous : Option α}
    (haccepted : (t.insert pattern value).1 = .ok previous) : previous = t.get? pattern := by
  rcases insert_cases t pattern value with ⟨e, hinsert, -⟩ | ⟨r, rfl, -, -, -, hinsert⟩
  · rw [hinsert] at haccepted
    cases haccepted
  · rw [hinsert] at haccepted
    cases haccepted
    rw [get?_of_parse r.parsed]

theorem patterns_eq (t : PathTrie α) : t.patterns = t.terminals.map (·.pattern) := by
  rw [patterns, terminals, PathNode.terminals, List.map_filterMap]

theorem terminals_perm (h : t.root.Represents log []) :
    t.terminals.Perm ((listingBy Registration.raws log).map Registration.terminal) := by
  have hterminals : t.terminals.Nodup := List.Nodup.of_map _ (keys_nodup h)
  have hlisting : ((listingBy Registration.raws log).map Registration.terminal).Nodup := by
    refine List.Nodup.of_map (fun x => pathParts x.pattern) ?_
    have hkeys := listingBy_keys_nodup Registration.raws log
    rw [List.map_map]
    refine (congrArg List.Nodup (List.map_congr_left fun r _ => ?_)).mp hkeys
    exact r.raws_eq
  refine (List.perm_ext_iff_of_nodup hterminals hlisting).2 fun x => ?_
  rw [mem_terminals_iff h, List.mem_map]
  simp only [mem_listingBy]
  rfl

theorem Embodies.size_eq_keys (h : t.Embodies log) :
    t.size = (log.map Registration.raws).eraseDups.length := by
  rw [h.counted, (terminals_perm h.represents).length_eq, List.length_map, ← listingBy_keys,
    List.length_map]

theorem Embodies.nodeCount_add (h : t.Embodies log) (hcount : t.nodeCount = 1 + log.leads.length)
    (r : Registration α) : (t.add r).nodeCount = 1 + (History.leads (log ++ [r])).length := by
  have hmissing : t.root.missing r.parts = (log.newLeads [] r.raws).length :=
    h.represents.missing_eq r.parts
  rw [(log.leads_append r).length_eq, List.length_append, PathTrie.add, hcount, hmissing,
    Nat.add_assoc]

theorem Embodies.nodeCount_insertAll (h : t.Embodies log)
    (hcount : t.nodeCount = 1 + log.leads.length) (calls : List (String × α)) :
    (t.insertAll calls).nodeCount = 1 + (History.leads (log ++ t.accepted calls)).length := by
  induction calls generalizing log t with
  | nil => simpa [PathTrie.insertAll, accepted] using hcount
  | cons call rest ih =>
    obtain ⟨pattern, value⟩ := call
    rw [PathTrie.insertAll, accepted, ← List.append_assoc]
    refine ih (h.insert pattern value) ?_
    rcases insert_cases t pattern value with ⟨e, hinsert, hnone⟩ | ⟨r, -, -, -, hsome, hinsert⟩
    · rw [hinsert, hnone, Option.toList_none, List.append_nil]
      exact hcount
    · rw [hinsert, hsome]
      exact h.nodeCount_add hcount r

/-- The trie is the map that takes the parts of each pattern to their latest registration. -/
structure Refines (t : PathTrie α) (log : History α) : Prop where
  get : ∀ pattern parts, Pattern.parse pattern = .ok parts →
    t.get? pattern = (log.latest? (pathParts pattern)).map (·.value)
  get_unread : ∀ pattern e, Pattern.parse pattern = .error e → t.get? pattern = none
  previous : ∀ pattern value previous,
    (t.insert pattern value).1 = .ok previous → previous = t.get? pattern
  size : t.size = (log.map Registration.raws).eraseDups.length
  patterns : t.patterns.Perm ((listingBy Registration.raws log).map (·.pattern))
  order : t.patterns.Pairwise fun p q => log.Before (pathParts p) (pathParts q)
  loop : (PathNode.unstack [t.root]).filterMap (fun n => n.terminal.map (·.pattern)) = t.patterns
  nodes : t.nodes.length = t.nodeCount
  nodeCount : t.nodeCount = 1 + log.leads.length

/-- After any run of insertions, those that are refused included, the trie is the map of those that
were accepted. -/
theorem refines_run (calls : List (String × α)) :
    ((empty : PathTrie α).insertAll calls).Refines (empty.accepted calls) := by
  have h : ((empty : PathTrie α).insertAll calls).Embodies (empty.accepted calls) :=
    empty_embodies.insertAll calls
  have hpatterns := (terminals_perm h.represents).map (·.pattern)
  refine
    { get := fun pattern parts hparse => ?_
      get_unread := fun pattern e hparse => by simp [get?, hparse]
      previous := fun pattern value previous => previous_eq_get?
      size := h.size_eq_keys
      patterns := ?_
      order := ?_
      loop := ?_
      nodes := h.numbered.length_nodes
      nodeCount := empty_embodies.nodeCount_insertAll rfl calls }
  · have hstored := h.represents.stored parts
    rw [List.nil_append, (Pattern.parse_spec hparse).2.1] at hstored
    rw [get?_of_parse hparse, stored?, hstored, Option.map_map]
    rfl
  · rw [patterns_eq]
    rwa [List.map_map] at hpatterns
  · rw [patterns_eq, List.pairwise_map]
    exact List.pairwise_map.1 h.represents.terminals_ordered
  · rw [PathNode.unstack_eq, List.flatMap_singleton]
    rfl

example : ((empty : PathTrie Nat).insertAll
    [("/b/c", 1), ("/a", 2), ("/b", 3), ("/a/", 4), ("/b/*", 5), ("/b/*all", 6)]).patterns =
      ["/b", "/b/c", "/b/*", "/a/"] := by
  rfl

end PathTrie

end RequestRouting
