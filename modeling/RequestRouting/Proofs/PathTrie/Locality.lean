import RequestRouting.Proofs.PathTrie.Search

/-!
# What an insertion changes

An insertion leaves every search alone that its pattern does not cover. Of the others, each finds
what it found before or the new registration, and a pattern whose parts are known moves no search
to another node.
-/

set_option autoImplicit false

namespace RequestRouting

theorem Pattern.WellFormed.eq_of_raws {parts others : List PatternPart} (h : WellFormed parts)
    (h' : WellFormed others) (hraws : parts.map (·.raw) = others.map (·.raw)) :
    parts = others := by
  induction parts generalizing others with
  | nil => exact (List.map_eq_nil_iff.1 hraws.symm).symm
  | cons p rest ih =>
    cases others with
    | nil => cases hraws
    | cons q others =>
      rw [List.map_cons, List.map_cons, List.cons.injEq] at hraws
      obtain ⟨hraw, hrest⟩ := hraws
      have hp := h.read p List.mem_cons_self
      have hq := h'.read q List.mem_cons_self
      rw [hraw, hq] at hp
      have hsegment : q.segment = p.segment := Except.ok.inj hp
      have hsame : p = q := by
        cases p
        cases q
        simp_all
      rw [hsame, ih h.tail h'.tail hrest]

namespace Registration

variable {α : Type} {r s : Registration α}

theorem parts_eq (h : r.raws = s.raws) : r.parts = s.parts :=
  r.wellFormed.eq_of_raws s.wellFormed h

theorem covers_congr (h : r.raws = s.raws) (parts : List String) :
    r.covers parts = s.covers parts := by
  rw [covers, covers, parts_eq h]

end Registration

namespace History

variable {α : Type} {log : History α} {parts : List String} {r s s' : Registration α}

theorem introduced_le_append (log : History α) (r : Registration α) (leading : List String) :
    log.introduced leading ≤ History.introduced (log ++ [r]) leading := by
  have hle := introduced_le log leading
  unfold introduced at *
  rw [List.findIdx_append]
  split <;> omega

theorem Precedes.append {raws other : List String} (h : log.Precedes raws other)
    (r : Registration α) : History.Precedes (log ++ [r]) raws other := by
  obtain ⟨shared, part, part', hne, hraws, hother, hlt⟩ := h
  have hknown : log.introduced (shared ++ [part]) < log.length :=
    Nat.lt_of_lt_of_le hlt (introduced_le log _)
  have hle := introduced_le_append log r (shared ++ [part'])
  refine ⟨shared, part, part', hne, hraws, hother, ?_⟩
  rw [introduced_append_of_lt r hknown]
  omega

/-- The registration that a search with these parts finds. -/
structure Wins (log : History α) (parts : List String) (r : Registration α) : Prop where
  mem : r ∈ log
  covers : r.covers parts = true
  latest : log.latest? r.raws = some r
  least : ∀ s ∈ log, s.covers parts = true → s.raws ≠ r.raws → log.Precedes r.raws s.raws

theorem Wins.raws_eq (hs : log.Wins parts s) (hs' : History.Wins (log ++ [r]) parts s')
    (hknown : ∃ s₀ ∈ log, s₀.raws = s'.raws) : s.raws = s'.raws := by
  by_contra hne
  obtain ⟨s₀, hmem, hraws⟩ := hknown
  have hcovers : s₀.covers parts = true := (Registration.covers_congr hraws parts).trans hs'.covers
  have hbefore := (hs.least s₀ hmem hcovers (by rw [hraws]; exact Ne.symm hne)).append r
  rw [hraws] at hbefore
  exact hbefore.asymm (hs'.least s (List.mem_append_left _ hs.mem) hs.covers hne)

theorem Wins.eq_of_other (hs : log.Wins parts s) (hs' : History.Wins (log ++ [r]) parts s')
    (hother : r.raws ≠ s'.raws) : s = s' := by
  have hlatest := hs'.latest
  rw [latest?_append_of_ne hother] at hlatest
  have hraws := hs.raws_eq hs' ⟨s', (latest?_eq_some hlatest).1, rfl⟩
  have hsame := hs.latest
  rw [hraws, hlatest] at hsame
  exact (Option.some.inj hsame).symm

theorem Wins.eq_of_raws (hs' : History.Wins (log ++ [r]) parts s') (hraws : r.raws = s'.raws) :
    s' = r := by
  have hlatest := hs'.latest
  rw [← hraws, latest?_append_self] at hlatest
  exact (Option.some.inj hlatest).symm

end History

namespace PathNode

variable {α : Type} {n m : PathNode α}

theorem child?_map (f : PathNode α → PathNode α) (hsegment : ∀ c, (f c).segment = c.segment)
    (raw : String) :
    ({ n with children := n.children.map f } : PathNode α).child? raw = (n.child? raw).map f := by
  rw [child?, List.find?_map]
  simp only [Function.comp_def, hsegment]
  rfl

theorem descend?_graft {place : List PatternPart} (h : n.descend? place = some m)
    (slots : List ParamSlot) (terminal : Terminal α) (parts : List PatternPart) (next : Nat) :
    ((n.graft slots terminal parts next).descend? place).map (·.id) = some m.id := by
  induction place generalizing n parts next with
  | nil =>
    cases h
    simp [descend?]
  | cons q place ih =>
    rw [descend?, Option.bind_eq_some_iff] at h
    obtain ⟨c, hchild, hm⟩ := h
    cases parts with
    | nil =>
      have hsame : (n.graft slots terminal [] next).child? q.raw = some c := hchild
      rw [descend?, hsame, Option.bind_some, hm, Option.map_some]
    | cons p rest =>
      rw [graft]
      split
      · rw [descend?, child?_map, hchild, Option.map_some, Option.bind_some]
        · split
          · exact ih hm rest next
          · rw [hm, Option.map_some]
        · intro d
          split
          · exact graft_segment _ _ _ _ _
          · rfl
      · have hfirst : ({ n with children := n.children ++
            [graft slots terminal rest (next + 1) { fresh next p with slots := slots }] } :
            PathNode α).child? q.raw = some c := by
          rw [child?, List.find?_append, ← child?, hchild, Option.some_or]
        rw [descend?, hfirst, Option.bind_some, hm, Option.map_some]

end PathNode

namespace PathTrie

variable {α : Type} {log : History α} {t : PathTrie α}

/-- A search misses, or finds the node of the registration that wins. -/
theorem search_wins (h : t.root.Represents log []) (path : String) :
    (t.search path = none ∧ ∀ r ∈ log, r.covers (pathParts path) = false) ∨
    ∃ r m, log.Wins (pathParts path) r ∧ t.root.descend? r.parts = some m ∧
      t.search path = some ⟨m.id, r.pattern, r.value, r.params (pathParts path)⟩ := by
  rcases search_cases h path with hmiss | ⟨r, hr, m, hcovers, _, hholds, hsearch, hleast⟩
  · exact .inl hmiss
  · exact .inr ⟨r, m, ⟨hr, hcovers, hholds.latest, hleast⟩, hholds.place, hsearch⟩

theorem descend?_add {parts : List PatternPart} {m m' : PathNode α} {r : Registration α}
    (hm : t.root.descend? parts = some m) (hm' : (t.add r).root.descend? parts = some m') :
    m'.id = m.id := by
  have hkept := PathNode.descend?_graft hm (ParamSlot.ofParts 0 r.parts) r.terminal r.parts
    t.nodeCount
  change ((t.add r).root.descend? parts).map (·.id) = some m.id at hkept
  rw [hm'] at hkept
  exact Option.some.inj hkept

theorem search_add_cases (h : t.root.Represents log []) (r : Registration α) (path : String) :
    (t.add r).search path = t.search path ∨
    r.covers (pathParts path) = true ∧ ∃ node,
      (t.add r).search path = some ⟨node, r.pattern, r.value, r.params (pathParts path)⟩ ∧
      ((∃ s ∈ log, s.raws = r.raws) → (t.search path).map (·.node) = some node) := by
  rcases search_wins (represents_add h r) path with ⟨hmiss', hnone'⟩ | ⟨s', m', hs', hm', hsearch'⟩
  · refine .inl ?_
    rcases search_wins h path with ⟨hmiss, _⟩ | ⟨s, _, hs, _⟩
    · rw [hmiss, hmiss']
    · have hcovers := hnone' s (List.mem_append_left _ hs.mem)
      rw [hs.covers] at hcovers
      cases hcovers
  · by_cases hraws : r.raws = s'.raws
    · have hsame := hs'.eq_of_raws hraws
      subst hsame
      refine .inr ⟨hs'.covers, m'.id, hsearch', ?_⟩
      rintro ⟨s₀, hs₀, hraws₀⟩
      rcases search_wins h path with ⟨_, hnone⟩ | ⟨s, m, hs, hm, hsearch⟩
      · have hcovers := hnone s₀ hs₀
        rw [Registration.covers_congr hraws₀, hs'.covers] at hcovers
        cases hcovers
      · rw [Registration.parts_eq (hs.raws_eq hs' ⟨s₀, hs₀, hraws₀⟩)] at hm
        rw [hsearch, Option.map_some, descend?_add hm hm']
    · have hold : s' ∈ log := by
        rcases List.mem_append.1 hs'.mem with hold | hnew
        · exact hold
        · exact absurd (congrArg Registration.raws (List.mem_singleton.1 hnew)).symm hraws
      rcases search_wins h path with ⟨_, hnone⟩ | ⟨s, m, hs, hm, hsearch⟩
      · have hcovers := hnone s' hold
        rw [hs'.covers] at hcovers
        cases hcovers
      · have hsame := hs.eq_of_other hs' hraws
        subst hsame
        exact .inl (by rw [hsearch, hsearch', descend?_add hm hm'])

/-- After any run, an insertion that is accepted changes no search that its pattern does not cover.
A search that it covers hits, and finds what it found before or the new pattern and value. If the
parts of the pattern were registered before, every search ends at the same node as before. -/
theorem insert_local (calls : List (String × α)) (pattern : String) (value : α)
    (previous : Option α)
    (haccepted : (((empty : PathTrie α).insertAll calls).insert pattern value).1 = .ok previous) :
    let before := (empty : PathTrie α).insertAll calls
    let after := (before.insert pattern value).2
    ∃ parts, Pattern.parse pattern = .ok parts ∧ ∀ path,
      (Pattern.covers parts (pathParts path) = false →
        after.search path = before.search path) ∧
      (Pattern.covers parts (pathParts path) = true → ∃ m, after.search path = some m ∧
        (before.search path = some m ∨ m.pattern = pattern ∧ m.value = value)) ∧
      ((∃ r ∈ (empty : PathTrie α).accepted calls, r.raws = pathParts pattern) →
        (after.search path).map (·.node) = (before.search path).map (·.node)) := by
  intro before after
  have hbefore := represents_run calls
  rcases insert_cases before pattern value with ⟨e, hinsert, _⟩ | ⟨r, rfl, rfl, _, _, hinsert⟩
  · rw [hinsert] at haccepted
    cases haccepted
  · have hafter : after = before.add r := congrArg Prod.snd hinsert
    refine ⟨r.parts, r.parsed, fun path => ?_⟩
    rw [hafter]
    rcases search_add_cases hbefore r path with hsame | ⟨hcovers, node, hfound, hnode⟩
    · refine ⟨fun _ => hsame, fun hcovers => ?_, fun _ => congrArg (Option.map _) hsame⟩
      rcases search_wins (represents_add hbefore r) path with ⟨_, hnone⟩ | ⟨_, _, _, _, hhit⟩
      · have hmiss := hnone r (List.mem_append_right _ List.mem_cons_self)
        rw [Registration.covers, hcovers] at hmiss
        cases hmiss
      · exact ⟨_, hhit, .inl (hsame.symm.trans hhit)⟩
    · refine ⟨fun hmiss => ?_, fun _ => ⟨_, hfound, .inr ⟨rfl, rfl⟩⟩, fun hknown => ?_⟩
      · rw [Registration.covers, hmiss] at hcovers
        cases hcovers
      · rw [← r.raws_eq] at hknown
        rw [hfound, hnode hknown]
        rfl

theorem insert_local_of_respelling :
    let before := (empty : PathTrie Nat).insertAll [("/users/:id", 1), ("/users/new", 2)]
    let after := (before.insert "/users//:id" 3).2
    (before.insert "/users//:id" 3).1 = .ok (some 1) ∧
      after.search "/users" = before.search "/users" ∧
      ∃ m, after.search "/users/new" = some m ∧
        (before.search "/users/new" = some m ∨ m.pattern = "/users//:id" ∧ m.value = 3) := by
  have haccepted : (((empty : PathTrie Nat).insertAll
      [("/users/:id", 1), ("/users/new", 2)]).insert "/users//:id" 3).1 = .ok (some 1) := rfl
  have hparts : Pattern.parse "/users//:id" =
      .ok [⟨"users", .literal "users"⟩, ⟨":id", .param "id"⟩] := rfl
  have hshort : Pattern.covers [⟨"users", .literal "users"⟩, ⟨":id", .param "id"⟩]
      (pathParts "/users") = false := rfl
  have hlong : Pattern.covers [⟨"users", .literal "users"⟩, ⟨":id", .param "id"⟩]
      (pathParts "/users/new") = true := rfl
  obtain ⟨parts, hparse, hlocal⟩ := insert_local _ _ _ _ haccepted
  rw [hparts] at hparse
  cases hparse
  exact ⟨haccepted, (hlocal "/users").1 hshort, (hlocal "/users/new").2.1 hlong⟩

end PathTrie

end RequestRouting
