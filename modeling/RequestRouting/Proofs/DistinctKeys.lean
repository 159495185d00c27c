import Mathlib.Data.List.Nodup

/-!
# Lists with distinct keys

In a list of which no two members have the same key, every member is the one found under its key,
from either end.
-/

set_option autoImplicit false

namespace RequestRouting

variable {α κ : Type} [BEq κ] [LawfulBEq κ]

theorem find?_eq_some_of_nodup (key : α → κ) {members : List α} {x : α}
    (h : (members.map key).Nodup) (hx : x ∈ members) :
    members.find? (fun y => key y == key x) = some x := by
  obtain ⟨before, after, hsplit⟩ := List.append_of_mem hx
  rw [hsplit, List.map_append, List.map_cons, List.nodup_middle, List.nodup_cons] at h
  rw [List.find?_eq_some_iff_append]
  refine ⟨beq_self_eq_true _, before, after, hsplit, ?_⟩
  intro y hy
  have hmem : key y ∈ before.map key := List.mem_map_of_mem hy
  have hne : key y ≠ key x := fun heq => h.1 (List.mem_append_left _ (heq ▸ hmem))
  simpa using hne

theorem lookup_cons_eq [DecidableEq κ] (k other : κ) (x : α) (pairs : List (κ × α)) :
    ((k, x) :: pairs).lookup other = if other = k then some x else pairs.lookup other := by
  rw [List.lookup_cons]
  by_cases heq : other = k
  · rw [if_pos heq, beq_iff_eq.2 heq]
  · rw [if_neg heq, beq_false_of_ne heq]

theorem lookup_eq_some_of_nodup {pairs : List (κ × α)} {k : κ} {x : α}
    (h : (pairs.map (·.1)).Nodup) (hx : (k, x) ∈ pairs) : pairs.lookup k = some x := by
  obtain ⟨before, after, hsplit⟩ := List.append_of_mem hx
  rw [hsplit, List.map_append, List.map_cons, List.nodup_middle, List.nodup_cons] at h
  rw [List.lookup_eq_some_iff]
  refine ⟨before, after, hsplit, ?_⟩
  intro pair hpair
  have hmem : pair.1 ∈ before.map (·.1) := List.mem_map_of_mem hpair
  have hne : k ≠ pair.1 := fun heq => h.1 (List.mem_append_left _ (heq ▸ hmem))
  simpa using hne

theorem lookup_reverse_of_nodup {pairs : List (κ × α)} (h : (pairs.map (·.1)).Nodup) (k : κ) :
    pairs.reverse.lookup k = pairs.lookup k := by
  have hreverse : (pairs.reverse.map (·.1)).Nodup := by
    rw [List.map_reverse, List.nodup_reverse]
    exact h
  refine Option.ext fun x => ⟨fun hx => ?_, fun hx => ?_⟩
  · obtain ⟨before, after, hsplit, -⟩ := List.lookup_eq_some_iff.1 hx
    exact lookup_eq_some_of_nodup h (List.mem_reverse.1 (by simp [hsplit]))
  · obtain ⟨before, after, hsplit, -⟩ := List.lookup_eq_some_iff.1 hx
    exact lookup_eq_some_of_nodup hreverse (by simp [hsplit])

omit [LawfulBEq κ] in
theorem lookup_map_snd {β : Type} (f : α → β) (pairs : List (κ × α)) (k : κ) :
    (pairs.map fun p => (p.1, f p.2)).lookup k = (pairs.lookup k).map f := by
  induction pairs with
  | nil => rfl
  | cons p rest ih =>
    rw [List.map_cons, List.lookup_cons, List.lookup_cons, ih]
    cases k == p.1 <;> rfl

end RequestRouting
