import RequestRouting.PathTrie.Basic

/-!
# Arenas of trie nodes

All nodes of a trie in one list, in the order of their creation. A node names its children by their
places in the list; the root stands at zero. What `PathTrie` does along the branches of a tree is
done here by following these numbers.
-/

set_option autoImplicit false

namespace RequestRouting

structure ArenaNode (α : Type) where
  segment : String
  kind : NodeKind
  children : List Nat
  slots : List ParamSlot
  terminal : Option (Terminal α)

structure PathArena (α : Type) where
  nodes : List (ArenaNode α)
  terminals : Nat

namespace PathArena

variable {α : Type}

def empty : PathArena α := ⟨[⟨"", .root, [], [], none⟩], 0⟩

def children (a : PathArena α) (node : Nat) : List Nat := (a.nodes[node]?).elim [] (·.children)

def terminal? (a : PathArena α) (node : Nat) : Option (Terminal α) :=
  (a.nodes[node]?).bind (·.terminal)

def findChild? (a : PathArena α) (node : Nat) (raw : String) : Option Nat :=
  (a.children node).find? fun c => (a.nodes[c]?).any (·.segment == raw)

def catchAllChild? (a : PathArena α) (node : Nat) : Option Nat :=
  (a.children node).find? fun c => (a.nodes[c]?).any (·.kind == .catchAll)

/-- Follows the parts up to the first child that is missing. -/
def clash? (a : PathArena α) : List PatternPart → Nat → Option (PatternPart × String)
  | [], _ => none
  | p :: rest, node =>
    match a.findChild? node p.raw with
    | some child => a.clash? rest child
    | none =>
      if p.segment.isCatchAll then
        (a.catchAllChild? node).bind fun c =>
          (a.nodes[c]?).map fun existing => (p, existing.segment)
      else none

def addChild (a : PathArena α) (node : Nat) (child : ArenaNode α) : PathArena α :=
  { a with nodes := (a.nodes ++ [child]).modify node fun n =>
      { n with children := n.children ++ [a.nodes.length] } }

/-- Follows the parts to their end, and creates the children that are missing, with these slots. -/
def extend (slots : List ParamSlot) : List PatternPart → Nat → PathArena α → Nat × PathArena α
  | [], node, a => (node, a)
  | p :: rest, node, a =>
    match a.findChild? node p.raw with
    | some child => extend slots rest child a
    | none => extend slots rest a.nodes.length
        (a.addChild node ⟨p.raw, .ofSegment p.segment, [], slots, none⟩)

def settle (a : PathArena α) (node : Nat) (slots : List ParamSlot) (terminal : Terminal α) :
    PathArena α :=
  ⟨a.nodes.modify node fun n => { n with slots := slots, terminal := some terminal },
    if (a.terminal? node).isSome then a.terminals else a.terminals + 1⟩

def insert (a : PathArena α) (pattern : String) (value : α) :
    Except PatternError (Option α) × PathArena α :=
  match Pattern.parse pattern with
  | .error e => (.error e, a)
  | .ok parts =>
    match a.clash? parts 0 with
    | some (part, existing) =>
      (.error ⟨pattern, .conflictingCatchAll part.raw existing⟩, a)
    | none =>
      let slots := ParamSlot.ofParts 0 parts
      let (node, extended) := a.extend slots parts 0
      (.ok ((extended.terminal? node).map (·.value)), extended.settle node slots ⟨pattern, value⟩)

def walk (a : PathArena α) : List String → Nat → Option Nat
  | [], node => (a.terminal? node).map fun _ => node
  | p :: rest, node => (a.children node).findSome? fun c => (a.nodes[c]?).bind fun candidate =>
    match candidate.kind with
    | .catchAll => candidate.terminal.map fun _ => c
    | .param => a.walk rest c
    | .literal => if candidate.segment == p then a.walk rest c else none
    | .root => none

def search (a : PathArena α) (path : String) : Option (PathMatch α) :=
  let parts := pathParts path
  (a.walk parts 0).bind fun node => (a.nodes[node]?).bind fun found =>
    found.terminal.map fun terminal => ⟨node, terminal.pattern, terminal.value,
      ⟨found.slots.map fun s => (s.name, s.value parts)⟩⟩

def descend? (a : PathArena α) : List PatternPart → Nat → Option Nat
  | [], node => some node
  | p :: rest, node => (a.findChild? node p.raw).bind (a.descend? rest)

def get? (a : PathArena α) (pattern : String) : Option α :=
  match Pattern.parse pattern with
  | .error _ => none
  | .ok parts => (a.descend? parts 0).bind fun node => (a.terminal? node).map (·.value)

/-- The nodes that a loop meets which takes the top of a stack, the head of the list, and puts its
children there, the first of them on top. It ends when the stack is empty; `fuel` bounds how many
nodes it takes. -/
def unstack (a : PathArena α) : Nat → List Nat → List Nat
  | 0, _ => []
  | _ + 1, [] => []
  | fuel + 1, node :: stack => node :: a.unstack fuel (a.children node ++ stack)

def patterns (a : PathArena α) : List String :=
  (a.unstack a.nodes.length [0]).filterMap fun node => (a.terminal? node).map (·.pattern)

end PathArena

end RequestRouting
