import Mathlib.Data.List.Induction
import Mathlib.Data.List.Nodup

/-!
# The latest by key

A log whose members are told apart by a key, of which only the latest of each counts. The listing
of a log has these in the order in which their keys first occur, and grows with the log in place;
`recentBy` has them in the order in which they stand in the log.
-/

set_option autoImplicit false

namespace RequestRouting

variable {α κ : Type} [BEq κ] [LawfulBEq κ]

theorem eraseDups_nodup (keys : List κ) : keys.eraseDups.Nodup := by
  cases keys with
  | nil => exact List.nodup_nil
  | cons k rest =>
    rw [List.eraseDups_cons, List.nodup_cons]
    exact ⟨by simp, eraseDups_nodup (rest.filter fun other => !other == k)⟩
termination_by keys.length
decreasing_by
  have hle := List.length_filter_le (fun other => !other == k) rest
  rw [List.length_cons]
  omega

theorem eraseDups_append_of_new {keys : List κ} {k : κ} (h : k ∉ keys) :
    (keys ++ [k]).eraseDups = keys.eraseDups ++ [k] := by
  rw [List.eraseDups_append, List.removeAll]
  simp [h, List.eraseDups_cons]

theorem eraseDups_append_of_old {keys : List κ} {k : κ} (h : k ∈ keys) :
    (keys ++ [k]).eraseDups = keys.eraseDups := by
  rw [List.eraseDups_append, List.removeAll]
  simp [h]

theorem foldl_distinct (keys : List κ) :
    keys.foldl (fun seen k => if seen.contains k then seen else seen ++ [k]) [] =
      keys.eraseDups := by
  induction keys using List.reverseRecOn with
  | nil => rfl
  | append_singleton keys k ih =>
    rw [List.foldl_concat, ih]
    by_cases hk : k ∈ keys
    · rw [eraseDups_append_of_old hk, if_pos (by simpa using hk)]
    · rw [eraseDups_append_of_new hk, if_neg (by simpa using hk)]

theorem eraseDups_pairwise_idxOf (keys : List κ) :
    keys.eraseDups.Pairwise fun k k' => keys.idxOf k < keys.idxOf k' := by
  induction keys using List.reverseRecOn with
  | nil => exact .nil
  | append_singleton keys k ih =>
    have hkept : keys.eraseDups.Pairwise fun k' k'' =>
        (keys ++ [k]).idxOf k' < (keys ++ [k]).idxOf k'' := by
      refine ih.imp_of_mem fun {k' k''} hk' hk'' hlt => ?_
      rw [List.idxOf_append_of_mem (List.mem_eraseDups.1 hk'),
        List.idxOf_append_of_mem (List.mem_eraseDups.1 hk'')]
      exact hlt
    by_cases hk : k ∈ keys
    · rw [eraseDups_append_of_old hk]
      exact hkept
    · rw [eraseDups_append_of_new hk]
      refine List.pairwise_append.2 ⟨hkept, List.pairwise_singleton _ k, ?_⟩
      intro k' hk' last hlast
      have hmem := List.mem_eraseDups.1 hk'
      rw [List.mem_singleton.1 hlast, List.idxOf_append_of_mem hmem, List.idxOf_append_of_notMem hk]
      exact Nat.lt_add_right _ (List.idxOf_lt_length_iff.2 hmem)

section

variable (key : α → κ)

def latestBy? (log : List α) (k : κ) : Option α := (log.filter fun x => key x == k).getLast?

def listingBy (log : List α) : List α :=
  (log.map key).eraseDups.filterMap (latestBy? key log)

/-- The members behind which there is none with their key, in the order of the log. -/
def recentBy : List α → List α
  | [] => []
  | x :: later => if later.any fun y => key y == key x then recentBy later else x :: recentBy later

end

variable {key : α → κ} {log : List α} {x : α} {k : κ}

theorem latestBy?_append_self (key : α → κ) (log : List α) (x : α) :
    latestBy? key (log ++ [x]) (key x) = some x := by
  simp [latestBy?, List.filter_append]

theorem latestBy?_append_of_ne (h : key x ≠ k) :
    latestBy? key (log ++ [x]) k = latestBy? key log k := by
  simp [latestBy?, List.filter_append, h]

theorem latestBy?_append_of_forall_ne {later : List α} (h : ∀ y ∈ later, key y ≠ k) :
    latestBy? key (log ++ later) k = latestBy? key log k := by
  have hnone : later.filter (fun y => key y == k) = [] :=
    List.filter_eq_nil_iff.2 fun y hy => by simpa using h y hy
  rw [latestBy?, List.filter_append, hnone, List.append_nil]
  rfl

/-- Behind the last member with a key there is none with it. -/
theorem latestBy?_split (h : latestBy? key log k = some x) :
    ∃ earlier later, log = earlier ++ x :: later ∧ ∀ y ∈ later, key y ≠ k := by
  obtain ⟨others, hothers⟩ := List.getLast?_eq_some_iff.1 h
  obtain ⟨first, second, rfl, -, hsecond⟩ := List.filter_eq_append_iff.1 hothers
  obtain ⟨between, later, rfl, -, -, hlater⟩ := List.filter_eq_cons_iff.1 hsecond
  refine ⟨first ++ between, later, by rw [List.append_assoc], fun y hy => ?_⟩
  simpa using List.filter_eq_nil_iff.1 hlater y hy

theorem latestBy?_eq_some (h : latestBy? key log k = some x) : x ∈ log ∧ key x = k := by
  have hmem := List.mem_filter.1 (List.mem_of_getLast? h)
  exact ⟨hmem.1, by simpa using hmem.2⟩

theorem latestBy?_isSome_iff : (latestBy? key log k).isSome = true ↔ k ∈ log.map key := by
  constructor
  · intro h
    obtain ⟨x, hx⟩ := Option.isSome_iff_exists.1 h
    obtain ⟨hmem, rfl⟩ := latestBy?_eq_some hx
    exact List.mem_map_of_mem hmem
  · intro h
    obtain ⟨x, hmem, rfl⟩ := List.mem_map.1 h
    have hfound : x ∈ log.filter fun y => key y == key x := List.mem_filter.2 ⟨hmem, by simp⟩
    rw [latestBy?, List.getLast?_isSome]
    exact List.ne_nil_of_mem hfound

theorem mem_listingBy : x ∈ listingBy key log ↔ latestBy? key log (key x) = some x := by
  rw [listingBy, List.mem_filterMap]
  constructor
  · rintro ⟨k, _, hlatest⟩
    obtain ⟨_, rfl⟩ := latestBy?_eq_some hlatest
    exact hlatest
  · intro hlatest
    have hkey : key x ∈ log.map key := latestBy?_isSome_iff.1 (by rw [hlatest]; rfl)
    exact ⟨key x, List.mem_eraseDups.2 hkey, hlatest⟩

theorem listingBy_keys (key : α → κ) (log : List α) :
    (listingBy key log).map key = (log.map key).eraseDups := by
  rw [listingBy, List.map_filterMap]
  refine (List.filterMap_congr fun k hk => ?_).trans List.filterMap_some
  obtain ⟨x, hx⟩ := Option.isSome_iff_exists.1
    (latestBy?_isSome_iff.2 (List.mem_eraseDups.1 hk))
  rw [hx, Option.map_some, (latestBy?_eq_some hx).2]

theorem listingBy_keys_nodup (key : α → κ) (log : List α) :
    ((listingBy key log).map key).Nodup := by
  rw [listingBy_keys]
  exact eraseDups_nodup _

theorem listingBy_append_of_new (h : latestBy? key log (key x) = none) :
    listingBy key (log ++ [x]) = listingBy key log ++ [x] := by
  have hnew : key x ∉ log.map key := by
    rw [← latestBy?_isSome_iff, h]
    simp
  have hsame : (log.map key).eraseDups.filterMap (latestBy? key (log ++ [x])) =
      listingBy key log := by
    refine List.filterMap_congr fun k hk => latestBy?_append_of_ne ?_
    rintro rfl
    exact hnew (List.mem_eraseDups.1 hk)
  rw [listingBy, List.map_append, List.map_singleton, eraseDups_append_of_new hnew,
    List.filterMap_append, hsame, List.filterMap_cons, latestBy?_append_self]
  rfl

theorem listingBy_append_of_old {old : α} (h : latestBy? key log (key x) = some old) :
    listingBy key (log ++ [x]) =
      (listingBy key log).map fun y => if key y == key x then x else y := by
  have hold : key x ∈ log.map key := latestBy?_isSome_iff.1 (by rw [h]; rfl)
  rw [listingBy, List.map_append, List.map_singleton, eraseDups_append_of_old hold, listingBy,
    List.map_filterMap]
  refine List.filterMap_congr fun k hk => ?_
  obtain ⟨y, hy⟩ := Option.isSome_iff_exists.1
    (latestBy?_isSome_iff.2 (List.mem_eraseDups.1 hk))
  obtain ⟨_, rfl⟩ := latestBy?_eq_some hy
  rw [hy, Option.map_some]
  split
  · rename_i hkey
    rw [eq_of_beq hkey, latestBy?_append_self]
  · rename_i hkey
    rw [latestBy?_append_of_ne fun heq => hkey (by simp [heq]), hy]

theorem recentBy_append_singleton (key : α → κ) (log : List α) (x : α) :
    recentBy key (log ++ [x]) = (recentBy key log).filter (fun y => !(key y == key x)) ++ [x] := by
  induction log with
  | nil => rfl
  | cons first later ih =>
    rw [List.cons_append, recentBy, ih, List.any_append, recentBy]
    by_cases hlater : (later.any fun y => key y == key first) = true
    · simp [hlater]
    · rw [Bool.eq_false_iff.2 hlater, Bool.false_or]
      by_cases hkey : key first = key x
      · simp [hkey]
      · simp [hkey, Ne.symm hkey]

omit [LawfulBEq κ] in
theorem recentBy_sublist (key : α → κ) (log : List α) : (recentBy key log).Sublist log := by
  induction log with
  | nil => exact .slnil
  | cons first later ih =>
    rw [recentBy]
    split
    · exact ih.cons first
    · exact ih.cons_cons first

theorem filter_recentBy (key : α → κ) (log : List α) (k : κ) :
    (recentBy key log).filter (fun x => key x == k) = (latestBy? key log k).toList := by
  induction log using List.reverseRecOn with
  | nil => rfl
  | append_singleton log x ih =>
    rw [recentBy_append_singleton, List.filter_append, List.filter_filter]
    by_cases hkey : key x = k
    · subst hkey
      have hothers : (recentBy key log).filter
          (fun y => (key y == key x) && !(key y == key x)) = [] :=
        List.filter_eq_nil_iff.2 fun y _ => by simp
      rw [hothers, latestBy?_append_self]
      simp
    · have hothers : (recentBy key log).filter (fun y => (key y == k) && !(key y == key x)) =
          (recentBy key log).filter fun y => key y == k := by
        refine List.filter_congr fun y _ => ?_
        by_cases hy : key y = k <;> simp [hy, Ne.symm hkey]
      rw [hothers, ih, latestBy?_append_of_ne hkey]
      simp [hkey]

section

variable {β ι : Type} [BEq ι]

theorem listingBy_map (key : α → ι) (g : β → α) (log : List β) :
    listingBy key (log.map g) = (listingBy (key ∘ g) log).map g := by
  rw [listingBy, listingBy, List.map_map, List.map_filterMap]
  refine List.filterMap_congr fun k _ => ?_
  rw [latestBy?, List.filter_map, List.getLast?_map]
  rfl

theorem listingBy_congr {key other : α → ι} (h : ∀ x ∈ log, key x = other x) :
    listingBy key log = listingBy other log := by
  rw [listingBy, listingBy, List.map_congr_left h]
  refine List.filterMap_congr fun k _ => congrArg List.getLast? (List.filter_congr fun x hx => ?_)
  rw [h x hx]

variable [LawfulBEq ι] {f : κ → ι}

theorem eraseDups_map (hf : Function.Injective f) (keys : List κ) :
    (keys.map f).eraseDups = keys.eraseDups.map f := by
  induction keys using List.reverseRecOn with
  | nil => rfl
  | append_singleton keys k ih =>
    rw [List.map_append, List.map_singleton]
    by_cases hk : k ∈ keys
    · rw [eraseDups_append_of_old hk, eraseDups_append_of_old (List.mem_map_of_mem hk), ih]
    · have hnew : f k ∉ keys.map f := fun h => hk ((List.mem_map_of_injective hf).1 h)
      rw [eraseDups_append_of_new hk, eraseDups_append_of_new hnew, ih, List.map_append,
        List.map_singleton]

theorem listingBy_comp (hf : Function.Injective f) (key : α → κ) (log : List α) :
    listingBy (f ∘ key) log = listingBy key log := by
  rw [listingBy, ← List.map_map, eraseDups_map hf, List.filterMap_map]
  refine List.filterMap_congr fun k _ => congrArg List.getLast? (List.filter_congr fun x _ => ?_)
  rw [Bool.eq_iff_iff, beq_iff_eq, beq_iff_eq]
  exact hf.eq_iff

end

end RequestRouting
