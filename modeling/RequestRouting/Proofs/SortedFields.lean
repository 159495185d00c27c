import Mathlib.Algebra.GroupWithZero.Nat
import RequestRouting.Json.Basic
import RequestRouting.Proofs.DistinctKeys

/-!
# Fields in the order of their names

Setting a field leaves the names in strict order, with the new name among them, and changes the sum
of the values by as much as it changes the one value. Of fields with the same name, sorting leaves
the last.
-/

set_option autoImplicit false

namespace RequestRouting.Json

variable {α : Type} {name : String} {value : α} {fields : List (String × α)}

def Sorted (fields : List (String × α)) : Prop := (fields.map (·.1)).Pairwise (· < ·)

theorem mem_names_putField {other : String} :
    other ∈ (putField name value fields).map (·.1) ↔ other = name ∨ other ∈ fields.map (·.1) := by
  induction fields with
  | nil => simp [putField]
  | cons first rest ih =>
    rw [putField]
    split
    · rename_i hsame
      simp [hsame]
    · split
      · simp
      · rw [List.map_cons, List.mem_cons, ih, List.map_cons, List.mem_cons]
        tauto

theorem lookup_putField (name other : String) (value : α) (fields : List (String × α)) :
    (putField name value fields).lookup other =
      if other = name then some value else fields.lookup other := by
  induction fields with
  | nil => exact lookup_cons_eq name other value []
  | cons first rest ih =>
    obtain ⟨n, v⟩ := first
    rw [putField]
    split
    · rename_i hsame
      rw [lookup_cons_eq, lookup_cons_eq, hsame]
      split <;> rfl
    · rename_i hne
      split
      · exact lookup_cons_eq name other value _
      · rw [lookup_cons_eq, lookup_cons_eq, ih]
        by_cases hn : other = n
        · rw [if_pos hn, if_pos hn, if_neg fun heq => hne (heq.symm.trans hn)]
        · rw [if_neg hn, if_neg hn]

theorem Sorted.putField (h : Sorted fields) (name : String) (value : α) :
    Sorted (putField name value fields) := by
  induction fields with
  | nil => exact List.pairwise_singleton _ name
  | cons first rest ih =>
    obtain ⟨n, v⟩ := first
    obtain ⟨hfirst, hrest⟩ := List.pairwise_cons.mp h
    rw [Json.putField]
    split
    · rename_i hsame
      exact hsame ▸ h
    · rename_i hne
      split
      · rename_i hbefore
        refine List.pairwise_cons.mpr ⟨fun other hother => ?_, h⟩
        rcases List.mem_cons.mp hother with rfl | hother
        · exact hbefore
        · exact String.lt_trans hbefore (hfirst other hother)
      · rename_i hbehind
        refine List.pairwise_cons.mpr ⟨fun other hother => ?_, ih hrest⟩
        rcases mem_names_putField.mp hother with rfl | hother
        · exact Std.lt_of_le_of_ne (String.not_lt.mp hbehind) (Ne.symm hne)
        · exact hfirst other hother

theorem lookup_sortFields (fields : List (String × α)) (name : String) :
    (sortFields fields).lookup name = fields.reverse.lookup name := by
  suffices hfrom : ∀ sorted : List (String × α),
      (fields.foldl (fun sorted f => Json.putField f.1 f.2 sorted) sorted).lookup name =
        (fields.reverse.lookup name).or (sorted.lookup name) by
    rw [sortFields, hfrom, List.lookup_nil, Option.or_none]
  induction fields with
  | nil => exact fun sorted => (Option.none_or).symm
  | cons first rest ih =>
    intro sorted
    rw [List.foldl_cons, ih, lookup_putField, List.reverse_cons, List.lookup_append,
      Option.or_assoc, lookup_cons_eq]
    split <;> simp

theorem sortFields_sorted (fields : List (String × α)) : Sorted (sortFields fields) := by
  suffices hfrom : ∀ sorted : List (String × α), Sorted sorted →
      Sorted (fields.foldl (fun sorted f => Json.putField f.1 f.2 sorted) sorted) from
    hfrom [] .nil
  induction fields with
  | nil => exact fun sorted h => h
  | cons first rest ih => exact fun sorted h => ih _ (h.putField first.1 first.2)

theorem Sorted.nodup (h : Sorted fields) : (fields.map (·.1)).Nodup :=
  h.imp String.ne_of_lt

theorem Sorted.sum_putField {fields : List (String × Nat)} (h : Sorted fields) (name : String)
    (value : Nat) : ((Json.putField name value fields).map (·.2)).sum +
      (fields.lookup name).getD 0 = (fields.map (·.2)).sum + value := by
  induction fields with
  | nil => simp [Json.putField]
  | cons first rest ih =>
    obtain ⟨n, v⟩ := first
    obtain ⟨hfirst, hrest⟩ := List.pairwise_cons.mp h
    rw [Json.putField, lookup_cons_eq]
    split
    · simp only [List.map_cons, List.sum_cons, Option.getD_some]
      omega
    · split
      · rename_i hbefore
        have hnone : rest.lookup name = none := by
          refine List.lookup_eq_none_iff.mpr fun field hfield => bne_iff_ne.mpr ?_
          rintro rfl
          exact String.lt_irrefl _
            (String.lt_trans hbefore (hfirst _ (List.mem_map_of_mem hfield)))
        simp only [hnone, List.map_cons, List.sum_cons, Option.getD_none]
        omega
      · have hsum := ih hrest
        simp only [List.map_cons, List.sum_cons]
        omega

end RequestRouting.Json
