import RequestRouting.PathTrie.Basic
import RequestRouting.Proofs.DistinctKeys
import RequestRouting.Proofs.LatestByKey
import RequestRouting.Proofs.Pattern.Parts

/-!
# Histories of tries

The insertions that a trie accepted, in their order. Two questions are asked of a history: which
registration of some parts is the latest, and when a list of leading parts was first introduced.
-/

set_option autoImplicit false

namespace RequestRouting

structure Registration (α : Type) where
  pattern : String
  value : α
  parts : List PatternPart
  parsed : Pattern.parse pattern = .ok parts

abbrev History (α : Type) := List (Registration α)

namespace Registration

variable {α : Type}

def raws (r : Registration α) : List String := r.parts.map (·.raw)

def terminal (r : Registration α) : Terminal α := ⟨r.pattern, r.value⟩

theorem raws_eq (r : Registration α) : r.raws = pathParts r.pattern :=
  (Pattern.parse_spec r.parsed).2.1

theorem wellFormed (r : Registration α) : Pattern.WellFormed r.parts :=
  (Pattern.parse_spec r.parsed).2.2.1

theorem names_nodup (r : Registration α) : (Pattern.names r.parts).Nodup :=
  (Pattern.parse_spec r.parsed).2.2.2

theorem length_raws (r : Registration α) : r.raws.length = r.parts.length := List.length_map _

end Registration

namespace History

variable {α : Type}

/-- The last registration with these parts. -/
def latest? (log : History α) (raws : List String) : Option (Registration α) :=
  (log.filter fun r => r.raws == raws).getLast?

/-- The place of the first registration that begins with these parts; without one, the length. -/
def introduced (log : History α) (leading : List String) : Nat :=
  log.findIdx fun r => leading.isPrefixOf r.raws

/-- The order of `raws` and `other` at the first part in which they differ: the parts up to and
including it were introduced earlier for `raws`. -/
def Precedes (log : History α) (raws other : List String) : Prop :=
  ∃ shared part part', part ≠ part' ∧ shared ++ [part] <+: raws ∧ shared ++ [part'] <+: other ∧
    log.introduced (shared ++ [part]) < log.introduced (shared ++ [part'])

theorem difference_unique {shared shared' : List String} {a b a' b' : String}
    {t u t' u' : List String} (hne : a ≠ b) (hne' : a' ≠ b')
    (ht : shared ++ a :: t = shared' ++ a' :: t') (hu : shared ++ b :: u = shared' ++ b' :: u') :
    shared = shared' ∧ a = a' ∧ b = b' := by
  induction shared generalizing shared' with
  | nil =>
    cases shared' with
    | nil => exact ⟨rfl, (List.cons.inj ht).1, (List.cons.inj hu).1⟩
    | cons x shared' =>
      exact absurd ((List.cons.inj ht).1.trans (List.cons.inj hu).1.symm) hne
  | cons x shared ih =>
    cases shared' with
    | nil => exact absurd ((List.cons.inj ht).1.symm.trans (List.cons.inj hu).1) hne'
    | cons x' shared' =>
      obtain ⟨hshared, ha, hb⟩ := ih (List.cons.inj ht).2 (List.cons.inj hu).2
      exact ⟨by rw [hshared, (List.cons.inj ht).1], ha, hb⟩

theorem Precedes.asymm {log : History α} {raws other : List String}
    (h : log.Precedes raws other) : ¬ log.Precedes other raws := by
  rintro ⟨shared', a', b', hne', ⟨t', ht'⟩, ⟨u', hu'⟩, hlt'⟩
  obtain ⟨shared, a, b, hne, ⟨t, ht⟩, ⟨u, hu⟩, hlt⟩ := h
  rw [List.append_assoc, List.singleton_append] at ht hu ht' hu'
  obtain ⟨rfl, rfl, rfl⟩ :=
    difference_unique hne hne'.symm (ht.trans hu'.symm) (hu.trans ht'.symm)
  omega

/-- The parts come in front of `other` in depth-first order: they lead to it, or precede it. -/
def Before (log : History α) (raws other : List String) : Prop :=
  (raws <+: other ∧ raws ≠ other) ∨ log.Precedes raws other

theorem Before.ne {log : History α} {raws other : List String} (h : log.Before raws other) :
    raws ≠ other := by
  rcases h with ⟨_, hne⟩ | hprecedes
  · exact hne
  · rintro rfl
    exact hprecedes.asymm hprecedes

theorem introduced_lt_iff {log : History α} {leading : List String} :
    log.introduced leading < log.length ↔ ∃ r ∈ log, leading <+: r.raws := by
  unfold introduced
  rw [List.findIdx_lt_length]
  simp

theorem introduced_le (log : History α) (leading : List String) :
    log.introduced leading ≤ log.length := List.findIdx_le_length

theorem introduced_append_of_lt {log : History α} {leading : List String} (r : Registration α)
    (h : log.introduced leading < log.length) :
    History.introduced (log ++ [r]) leading = log.introduced leading := by
  unfold introduced at *
  rw [List.findIdx_append, if_pos h]

theorem introduced_append_of_new {log : History α} {leading : List String} {r : Registration α}
    (h : ¬ log.introduced leading < log.length) (hr : leading <+: r.raws) :
    History.introduced (log ++ [r]) leading = log.length := by
  have heq : log.introduced leading = log.length :=
    Nat.le_antisymm (introduced_le log leading) (Nat.le_of_not_lt h)
  unfold introduced at *
  rw [List.findIdx_append, if_neg (by omega)]
  have hzero : List.findIdx (fun s : Registration α => leading.isPrefixOf s.raws) [r] = 0 := by
    rw [List.findIdx_cons, List.isPrefixOf_iff_prefix.2 hr]
    rfl
  omega

theorem latest?_append_self (log : History α) (r : Registration α) :
    History.latest? (log ++ [r]) r.raws = some r :=
  latestBy?_append_self Registration.raws log r

theorem latest?_append_of_ne {log : History α} {r : Registration α} {raws : List String}
    (h : r.raws ≠ raws) : History.latest? (log ++ [r]) raws = log.latest? raws :=
  latestBy?_append_of_ne h

theorem latest?_eq_some {log : History α} {raws : List String} {r : Registration α}
    (h : log.latest? raws = some r) : r ∈ log ∧ r.raws = raws := latestBy?_eq_some h

theorem latest?_isSome_iff {log : History α} {raws : List String} :
    (log.latest? raws).isSome = true ↔ ∃ r ∈ log, r.raws = raws :=
  latestBy?_isSome_iff.trans List.mem_map

end History

namespace PathTrie

variable {α : Type}

def insertAll (t : PathTrie α) : List (String × α) → PathTrie α
  | [] => t
  | (pattern, value) :: rest => insertAll (t.insert pattern value).2 rest

/-- The registration that an insertion makes, if it is accepted. -/
def registration? (t : PathTrie α) (pattern : String) (value : α) : Option (Registration α) :=
  match h : Pattern.parse pattern, (t.insert pattern value).1 with
  | .ok parts, .ok _ => some ⟨pattern, value, parts, h⟩
  | _, _ => none

def accepted (t : PathTrie α) : List (String × α) → History α
  | [] => []
  | (pattern, value) :: rest =>
    (t.registration? pattern value).toList ++ accepted (t.insert pattern value).2 rest

end PathTrie

end RequestRouting
