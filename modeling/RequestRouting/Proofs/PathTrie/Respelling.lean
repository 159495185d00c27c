import Mathlib.Data.List.Find
import RequestRouting.Proofs.PathTrie.CatchAll
import RequestRouting.Proofs.PathTrie.Numbering
import RequestRouting.Proofs.Pattern.Respelling

/-!
# Tries of respelled patterns

A trie whose patterns are written with colons, and the one of the same patterns written with braces:
the nodes have the same numbers, kinds, slots, values and children, and every path finds the same
node, value and parameters. Only the texts of segments and patterns are others.
-/

set_option autoImplicit false

namespace RequestRouting

variable {α : Type}

theorem ParamSlot.ofParts_brace (position : Nat) (parts : List PatternPart) :
    ParamSlot.ofParts position (parts.map PatternPart.brace) =
      ParamSlot.ofParts position parts := by
  induction parts generalizing position with
  | nil => rfl
  | cons p rest ih => simp only [List.map_cons, ParamSlot.ofParts, ih, PatternPart.brace]

def Terminal.respell (x : Terminal α) : Terminal α := ⟨Pattern.respell x.pattern, x.value⟩

def Registration.respell (r : Registration α) : Registration α :=
  ⟨Pattern.respell r.pattern, r.value, r.parts.map PatternPart.brace,
    Pattern.parse_respell_of_ok r.parsed⟩

theorem Registration.withColon (r : Registration α)
    (h : ∀ raw ∈ pathParts r.pattern, Pattern.ColonSpelled raw) :
    ∀ p ∈ r.parts, Pattern.WithColon p.raw := fun p hp =>
  ⟨⟨p.segment, r.wellFormed.read p hp⟩, h p.raw (r.raws_eq ▸ List.mem_map_of_mem hp)⟩

def PathMatch.respell (m : PathMatch α) : PathMatch α :=
  { m with pattern := Pattern.respell m.pattern }

namespace PathNode

mutual

def respell : PathNode α → PathNode α
  | ⟨id, segment, kind, slots, terminal, children⟩ =>
    ⟨id, Pattern.brace segment, kind, slots, terminal.map Terminal.respell,
      respellList children⟩

def respellList : List (PathNode α) → List (PathNode α)
  | [] => []
  | n :: rest => respell n :: respellList rest

end

theorem respellList_eq_map (nodes : List (PathNode α)) : respellList nodes = nodes.map respell := by
  induction nodes with
  | nil => rfl
  | cons n rest ih => rw [respellList, ih, List.map_cons]

theorem respell_eq (n : PathNode α) : n.respell =
    ⟨n.id, Pattern.brace n.segment, n.kind, n.slots, n.terminal.map Terminal.respell,
      n.children.map respell⟩ := by
  cases n
  rw [respell, respellList_eq_map]

@[simp] theorem respell_id (n : PathNode α) : n.respell.id = n.id := by rw [respell_eq]

@[simp] theorem respell_segment (n : PathNode α) :
    n.respell.segment = Pattern.brace n.segment := by rw [respell_eq]

@[simp] theorem respell_kind (n : PathNode α) : n.respell.kind = n.kind := by rw [respell_eq]

@[simp] theorem respell_slots (n : PathNode α) : n.respell.slots = n.slots := by rw [respell_eq]

@[simp] theorem respell_terminal (n : PathNode α) :
    n.respell.terminal = n.terminal.map Terminal.respell := by rw [respell_eq]

@[simp] theorem respell_children (n : PathNode α) :
    n.respell.children = n.children.map respell := by rw [respell_eq]

theorem preorder_respell (n : PathNode α) : n.respell.preorder = n.preorder.map respell := by
  induction n using induct with
  | step n ih =>
    rw [preorder_eq, preorder_eq n, respell_children, List.map_cons, List.flatMap_map,
      List.map_flatMap]
    exact congrArg _ (List.flatMap_congr ih)

theorem catchAllChild?_respell (n : PathNode α) :
    n.respell.catchAllChild? = n.catchAllChild?.map respell := by
  rw [catchAllChild?, catchAllChild?, respell_children, List.find?_map]
  simp only [Function.comp_def, respell_kind]

end PathNode

def History.WithColons (log : History α) : Prop :=
  ∀ r ∈ log, ∀ p ∈ r.parts, Pattern.WithColon p.raw

namespace PathNode

variable {log : History α} {path : List String} {n : PathNode α} {parts : List PatternPart}

theorem Represents.withColon (h : Represents log path n) (hlog : log.WithColons) :
    ∀ c ∈ n.children, Pattern.WithColon c.segment := by
  intro c hc
  obtain ⟨r, hr, hlead⟩ := h.introduced_by hc
  obtain ⟨p, hp, hraw, -⟩ := Registration.drop_of_leading hlead
  exact hraw ▸ hlog r hr p hp

theorem child?_respell (hn : ∀ c ∈ n.children, Pattern.WithColon c.segment) {raw : String}
    (hraw : Pattern.WithColon raw) :
    n.respell.child? (Pattern.brace raw) = (n.child? raw).map respell := by
  rw [child?, child?, respell_children, List.find?_map]
  refine congrArg _ (List.find?_congr fun c hc => ?_)
  rw [Function.comp_apply, respell_segment, Bool.eq_iff_iff, beq_iff_eq, beq_iff_eq]
  exact ⟨(hn c hc).eq_of_brace_eq hraw, congrArg Pattern.brace⟩

theorem descend?_respell (h : Represents log path n) (hlog : log.WithColons)
    (hparts : ∀ p ∈ parts, Pattern.WithColon p.raw) :
    n.respell.descend? (parts.map PatternPart.brace) = (n.descend? parts).map respell := by
  induction parts generalizing path n with
  | nil => rfl
  | cons p rest ih =>
    obtain ⟨hp, hrest⟩ := List.forall_mem_cons.1 hparts
    rw [List.map_cons, descend?, descend?, PatternPart.brace,
      child?_respell (h.withColon hlog) hp]
    cases hchild : n.child? p.raw with
    | none => rfl
    | some c => exact ih (h.child (List.mem_of_find?_eq_some hchild)) hrest

theorem clash?_respell (h : Represents log path n) (hlog : log.WithColons)
    (hparts : ∀ p ∈ parts, Pattern.WithColon p.raw) :
    n.respell.clash? (parts.map PatternPart.brace) =
      (n.clash? parts).map (Prod.map PatternPart.brace Pattern.brace) := by
  induction parts generalizing path n with
  | nil => rfl
  | cons p rest ih =>
    obtain ⟨hp, hrest⟩ := List.forall_mem_cons.1 hparts
    rw [List.map_cons, clash?, clash?, PatternPart.brace, child?_respell (h.withColon hlog) hp]
    cases hchild : n.child? p.raw with
    | some c => exact ih (h.child (List.mem_of_find?_eq_some hchild)) hrest
    | none =>
      simp only [Option.map_none, catchAllChild?_respell]
      split
      · simp [Function.comp_def, PatternPart.brace]
      · rfl

theorem missing_respell (h : Represents log path n) (hlog : log.WithColons)
    (hparts : ∀ p ∈ parts, Pattern.WithColon p.raw) :
    n.respell.missing (parts.map PatternPart.brace) = n.missing parts := by
  induction parts generalizing path n with
  | nil => rfl
  | cons p rest ih =>
    obtain ⟨hp, hrest⟩ := List.forall_mem_cons.1 hparts
    rw [List.map_cons, missing, missing, PatternPart.brace,
      child?_respell (h.withColon hlog) hp]
    cases hchild : n.child? p.raw with
    | some c => exact ih (h.child (List.mem_of_find?_eq_some hchild)) hrest
    | none => simp

theorem graft_respell (slots : List ParamSlot) (terminal : Terminal α) (next : Nat)
    (h : Represents log path n) (hlog : log.WithColons)
    (hparts : ∀ p ∈ parts, Pattern.WithColon p.raw) :
    n.respell.graft slots terminal.respell (parts.map PatternPart.brace) next =
      (n.graft slots terminal parts next).respell := by
  induction parts generalizing log path n next with
  | nil => simp [graft, respell_eq]
  | cons p rest ih =>
    obtain ⟨hp, hrest⟩ := List.forall_mem_cons.1 hparts
    have hchildren := h.withColon hlog
    rw [List.map_cons, graft, graft, PatternPart.brace, child?_respell hchildren hp,
      Option.isSome_map]
    split
    · rw [respell_eq, respell_eq { n with children := _ }]
      simp only [List.map_map, PathNode.mk.injEq, true_and]
      refine List.map_congr_left fun c hc => ?_
      have hsame : (Pattern.brace c.segment == Pattern.brace p.raw) = (c.segment == p.raw) := by
        rw [Bool.eq_iff_iff, beq_iff_eq, beq_iff_eq]
        exact ⟨(hchildren c hc).eq_of_brace_eq hp, congrArg Pattern.brace⟩
      rw [Function.comp_apply, Function.comp_apply, respell_segment, hsame]
      split
      · exact ih next (h.child hc) hlog hrest
      · rfl
    · let new : PathNode α := { fresh next p with slots := slots }
      have hnew : Represents [] [p.raw] new := represents_of_new rfl rfl (by simp)
      have hgrafted := ih (next + 1) hnew (fun _ hr => absurd hr List.not_mem_nil) hrest
      have hfresh : new.respell = { fresh next p.brace with slots := slots } := by
        rw [respell_eq]
        rfl
      rw [hfresh] at hgrafted
      rw [respell_eq, respell_eq { n with children := _ }, List.map_append, List.map_singleton,
        ← hgrafted]
      rfl

theorem walk_respell (h : Represents log path n) (segments : List String) :
    n.respell.walk segments = (n.walk segments).map respell := by
  induction segments generalizing path n with
  | nil =>
    rw [walk, walk, respell_terminal, Option.isSome_map]
    split <;> rfl
  | cons part rest ih =>
    rw [walk_cons, walk_cons, respell_children, List.findSome?_map, List.map_findSome?]
    rw [← List.head?_filterMap, ← List.head?_filterMap]
    refine congrArg List.head? (List.filterMap_congr fun c hc => ?_)
    obtain ⟨segment, hread, hkind⟩ := h.here.spreads.kinds c hc
    change walkChild part rest c.respell = (walkChild part rest c).map respell
    cases segment with
    | literal text =>
      simp only [walkChild, respell_kind, hkind, NodeKind.ofSegment, respell_segment,
        Pattern.brace_of_literal hread, ih (h.child hc)]
      split <;> rfl
    | param name =>
      simp only [walkChild, respell_kind, hkind, NodeKind.ofSegment, ih (h.child hc)]
    | catchAll name =>
      simp only [walkChild, respell_kind, hkind, NodeKind.ofSegment, respell_terminal,
        Option.isSome_map]
      split <;> rfl

end PathNode

namespace PathTrie

variable {log : History α} {t : PathTrie α}

def respell (t : PathTrie α) : PathTrie α := { t with root := t.root.respell }

theorem search_respell (h : t.root.Represents log []) (path : String) :
    t.respell.search path = (t.search path).map PathMatch.respell := by
  rw [search, search, respell, PathNode.walk_respell h]
  cases hwalk : t.root.walk (pathParts path) with
  | none => rfl
  | some n => cases hterminal : n.terminal <;> simp [hterminal, PathMatch.respell, Terminal.respell]

theorem nodes_respell (t : PathTrie α) : t.respell.nodes = t.nodes.map PathNode.respell := by
  have hnode : ∀ id, t.respell.node? id = (t.node? id).map PathNode.respell := by
    intro id
    rw [node?, node?, respell, PathNode.preorder_respell, List.find?_map]
    simp only [Function.comp_def, PathNode.respell_id]
  rw [nodes, nodes, List.map_filterMap]
  exact List.filterMap_congr fun id _ => hnode id

theorem stored?_respell (h : t.root.Represents log []) (hlog : log.WithColons)
    {parts : List PatternPart} (hparts : ∀ p ∈ parts, Pattern.WithColon p.raw) :
    t.respell.stored? (parts.map PatternPart.brace) =
      (t.stored? parts).map Terminal.respell := by
  rw [stored?, stored?, respell, PathNode.descend?_respell h hlog hparts]
  cases t.root.descend? parts with
  | none => rfl
  | some n => exact n.respell_terminal

theorem add_respell (h : t.root.Represents log []) (hlog : log.WithColons)
    {r : Registration α} (hr : ∀ p ∈ r.parts, Pattern.WithColon p.raw) :
    t.respell.add r.respell = (t.add r).respell := by
  have hstored : t.respell.stored? r.respell.parts = _ := stored?_respell h hlog hr
  have hmissing : t.respell.root.missing r.respell.parts = _ :=
    PathNode.missing_respell h hlog hr
  have hgraft : t.respell.root.graft (ParamSlot.ofParts 0 r.parts) r.respell.terminal
      r.respell.parts t.nodeCount = _ :=
    PathNode.graft_respell (ParamSlot.ofParts 0 r.parts) r.terminal t.nodeCount h hlog hr
  have hslots : ParamSlot.ofParts 0 r.respell.parts = _ := ParamSlot.ofParts_brace 0 r.parts
  rw [add, hstored, hmissing, hslots, Option.isSome_map]
  exact congrArg (fun root => (⟨root, _, _⟩ : PathTrie α)) hgraft

theorem insert_respell (h : t.root.Represents log []) (hlog : log.WithColons) {pattern : String}
    (hpattern : ∀ raw ∈ pathParts pattern, Pattern.ColonSpelled raw) (value : α) :
    (t.respell.insert (Pattern.respell pattern) value).1.toOption =
        (t.insert pattern value).1.toOption ∧
      (t.respell.insert (Pattern.respell pattern) value).2 = (t.insert pattern value).2.respell := by
  cases hparse : Pattern.parse pattern with
  | error e =>
    obtain ⟨other, hother⟩ := Pattern.parse_respell_of_error hparse
    simp [insert, hparse, hother, Except.toOption]
  | ok parts =>
    let r : Registration α := ⟨pattern, value, parts, hparse⟩
    have hparts := r.withColon hpattern
    have hclash : t.respell.root.clash? r.respell.parts = _ :=
      PathNode.clash?_respell h hlog hparts
    cases hc : t.root.clash? r.parts with
    | some clash =>
      rw [hc, Option.map_some] at hclash
      have hinsert : t.insert pattern value = _ := insert_of_clash r hc
      have hrespelled : t.respell.insert (Pattern.respell pattern) value = _ :=
        insert_of_clash r.respell hclash
      rw [hinsert, hrespelled]
      exact ⟨rfl, rfl⟩
    | none =>
      rw [hc, Option.map_none] at hclash
      have hstored : t.respell.stored? r.respell.parts = _ := stored?_respell h hlog hparts
      have hinsert : t.insert pattern value = _ := insert_of_free r hc
      have hrespelled : t.respell.insert (Pattern.respell pattern) value = _ :=
        insert_of_free r.respell hclash
      rw [hinsert, hrespelled, add_respell h hlog hparts, hstored, Option.map_map]
      exact ⟨rfl, rfl⟩

theorem withColons_insert (hlog : log.WithColons) {pattern : String}
    (hpattern : ∀ raw ∈ pathParts pattern, Pattern.ColonSpelled raw) (value : α) :
    History.WithColons (log ++ (t.registration? pattern value).toList) := by
  rcases insert_cases t pattern value with ⟨e, -, hnone⟩ | ⟨r, rfl, -, -, hsome, -⟩
  · rwa [hnone, Option.toList_none, List.append_nil]
  · rw [hsome, Option.toList_some]
    intro s hs
    rcases List.mem_append.1 hs with hs | hs
    · exact hlog s hs
    · rw [List.mem_singleton.1 hs]
      exact r.withColon hpattern

/-- What the insertions report in turn: nothing if it is refused, or else the value before. -/
def reports (t : PathTrie α) : List (String × α) → List (Option (Option α))
  | [] => []
  | (pattern, value) :: rest =>
    (t.insert pattern value).1.toOption :: reports (t.insert pattern value).2 rest

theorem insertAll_respell (h : t.root.Represents log []) (hlog : log.WithColons)
    (calls : List (String × α))
    (hcalls : ∀ c ∈ calls, ∀ raw ∈ pathParts c.1, Pattern.ColonSpelled raw) :
    t.respell.reports (calls.map fun c => (Pattern.respell c.1, c.2)) = t.reports calls ∧
      t.respell.insertAll (calls.map fun c => (Pattern.respell c.1, c.2)) =
        (t.insertAll calls).respell := by
  induction calls generalizing log t with
  | nil => exact ⟨rfl, rfl⟩
  | cons call rest ih =>
    obtain ⟨pattern, value⟩ := call
    obtain ⟨hpattern, hrest⟩ := List.forall_mem_cons.1 hcalls
    obtain ⟨hreport, htrie⟩ := insert_respell h hlog hpattern value
    obtain ⟨hreports, htries⟩ := ih (represents_insert h pattern value)
      (withColons_insert hlog hpattern value) hrest
    rw [List.map_cons, reports, reports, insertAll, insertAll, hreport, htrie]
    exact ⟨congrArg _ hreports, htries⟩

/-- Whatever is inserted, with parameters written with colons: written with braces, the same
insertions are accepted and replace the same values, the nodes are the same but for their texts,
and so is all that is found. -/
theorem insertAll_respelled (calls : List (String × α))
    (hcalls : ∀ c ∈ calls, ∀ raw ∈ pathParts c.1, Pattern.ColonSpelled raw) :
    let others := calls.map fun c => (Pattern.respell c.1, c.2)
    let t := (empty : PathTrie α).insertAll calls
    let other := (empty : PathTrie α).insertAll others
    (empty : PathTrie α).reports others = (empty : PathTrie α).reports calls ∧
      other = t.respell ∧ other.nodes = t.nodes.map PathNode.respell ∧
      ∀ path, other.search path = (t.search path).map PathMatch.respell := by
  intro others t other
  obtain ⟨hreports, htries⟩ := insertAll_respell (empty_represents (α := α))
    (fun _ hr => absurd hr List.not_mem_nil) calls hcalls
  have hother : other = t.respell := htries
  refine ⟨hreports, hother, ?_, fun path => ?_⟩
  · rw [hother, nodes_respell]
  · rw [hother]
    exact search_respell (represents_run calls) path

theorem insertAll_respelled_of_users :
    let calls := [("/users/:id", 1), ("/users/new", 2), ("/users/:id/files/*rest", 3),
      ("/users/:id/files/*", 4), ("/users//:id/", 5)]
    let others := [("/users/\x7bid\x7d", 1), ("/users/new", 2),
      ("/users/\x7bid\x7d/files/*rest", 3), ("/users/\x7bid\x7d/files/*", 4),
      ("/users//\x7bid\x7d/", 5)]
    let t := (empty : PathTrie Nat).insertAll calls
    let other := (empty : PathTrie Nat).insertAll others
    (∀ c ∈ calls, ∀ raw ∈ pathParts c.1, Pattern.ColonSpelled raw) ∧
      (calls.map fun c => (Pattern.respell c.1, c.2)) = others ∧
      (empty : PathTrie Nat).reports others = (empty : PathTrie Nat).reports calls ∧
      (empty : PathTrie Nat).reports calls =
        [some none, some none, some none, none, some (some 1)] ∧
      other.nodes = t.nodes.map PathNode.respell ∧
      ∀ path, other.search path = (t.search path).map PathMatch.respell := by
  intro calls others t other
  have hparts : calls.flatMap (fun c => pathParts c.1) = ["users", ":id", "users", "new",
      "users", ":id", "files", "*rest", "users", ":id", "files", "*", "users", ":id"] := rfl
  have hheads : ∀ raw ∈ calls.flatMap (fun c => pathParts c.1),
      raw.toList.head? ≠ some '\x7b' := by
    rw [hparts]
    decide
  have hcalls : ∀ c ∈ calls, ∀ raw ∈ pathParts c.1, Pattern.ColonSpelled raw := fun c hc raw hraw =>
    Pattern.colonSpelled_of_head_ne (hheads raw (List.mem_flatMap.2 ⟨c, hc, hraw⟩))
  have hothers : (calls.map fun c => (Pattern.respell c.1, c.2)) = others := rfl
  have hown : (empty : PathTrie Nat).reports calls =
      [some none, some none, some none, none, some (some 1)] := rfl
  obtain ⟨hreports, -, hnodes, hsearch⟩ := insertAll_respelled calls hcalls
  rw [hothers] at hreports hnodes hsearch
  exact ⟨hcalls, hothers, hreports, hown, hnodes, hsearch⟩

end PathTrie

end RequestRouting
