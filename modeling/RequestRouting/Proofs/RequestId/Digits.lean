import Mathlib.Data.Nat.Digits.Lemmas
import RequestRouting.RequestId

/-!
# Numbers of a fixed count of digits

The digits of an identifier are those of its number in base 32, the most significant first. As
many digits as numbers below a power of 32 have stand for exactly one of them, and numbers compare
as their digits do.
-/

set_option autoImplicit false

namespace RequestRouting.RequestId

def valueOf (ds : List Nat) : Nat := Nat.ofDigits 32 ds.reverse

def lowest : Nat → Nat → List Nat
  | 0, _ => []
  | count + 1, n => n / 32 ^ count % 32 :: lowest count n

theorem valueOf_cons (d : Nat) (ds : List Nat) :
    valueOf (d :: ds) = d * 32 ^ ds.length + valueOf ds := by
  rw [valueOf, List.reverse_cons, Nat.ofDigits_append, Nat.ofDigits_singleton, List.length_reverse,
    Nat.mul_comm, Nat.add_comm, valueOf]

theorem valueOf_lt {ds : List Nat} (h : ∀ d ∈ ds, d < 32) : valueOf ds < 32 ^ ds.length := by
  have hlt := Nat.ofDigits_lt_base_pow_length (l := ds.reverse) (by decide : 1 < 32)
    fun d hd => h d (List.mem_reverse.mp hd)
  rwa [List.length_reverse] at hlt

theorem length_lowest (count n : Nat) : (lowest count n).length = count := by
  induction count with
  | zero => rfl
  | succ count ih => rw [lowest, List.length_cons, ih]

theorem lt_of_mem_lowest {count n d : Nat} (h : d ∈ lowest count n) : d < 32 := by
  induction count with
  | zero => cases h
  | succ count ih =>
    rcases List.mem_cons.mp h with rfl | h
    · exact Nat.mod_lt _ (by decide)
    · exact ih h

theorem valueOf_lowest (count n : Nat) : valueOf (lowest count n) = n % 32 ^ count := by
  induction count with
  | zero => exact (Nat.mod_one n).symm
  | succ count ih =>
    rw [lowest, valueOf_cons, length_lowest, ih, Nat.mod_pow_succ, Nat.mul_comm, Nat.add_comm]

theorem lowest_valueOf {ds : List Nat} (h : ∀ d ∈ ds, d < 32) :
    lowest ds.length (valueOf ds) = ds := by
  have hvalue : valueOf (lowest ds.length (valueOf ds)) = valueOf ds := by
    rw [valueOf_lowest, Nat.mod_eq_of_lt (valueOf_lt h)]
  apply List.reverse_injective
  refine Nat.ofDigits_inj_of_len_eq (by decide : 1 < 32) ?_ ?_ ?_ hvalue
  · rw [List.length_reverse, List.length_reverse, length_lowest]
  · exact fun d hd => lt_of_mem_lowest (List.mem_reverse.mp hd)
  · exact fun d hd => h d (List.mem_reverse.mp hd)

theorem mul_add_lt_iff {d e base v w : Nat} (hv : v < base) (hw : w < base) :
    d * base + v < e * base + w ↔ d < e ∨ d = e ∧ v < w := by
  rcases Nat.lt_trichotomy d e with hlt | rfl | hgt
  · have hle : (d + 1) * base ≤ e * base := Nat.mul_le_mul_right base hlt
    rw [Nat.add_mul] at hle
    simp only [hlt, true_or, iff_true]
    omega
  · simp
  · have hle : (e + 1) * base ≤ d * base := Nat.mul_le_mul_right base hgt
    rw [Nat.add_mul] at hle
    simp only [Nat.not_lt_of_gt hgt, Nat.ne_of_gt hgt, false_and, or_false, iff_false]
    omega

theorem lt_iff_valueOf_lt {ds es : List Nat} (hlength : ds.length = es.length)
    (hds : ∀ d ∈ ds, d < 32) (hes : ∀ e ∈ es, e < 32) : ds < es ↔ valueOf ds < valueOf es := by
  induction ds generalizing es with
  | nil =>
    cases List.length_eq_zero_iff.mp hlength.symm
    simp
  | cons d ds ih =>
    cases es with
    | nil => cases hlength
    | cons e es =>
      have hrest : ds.length = es.length := Nat.succ.inj hlength
      have hds' : ∀ d ∈ ds, d < 32 := fun d hd => hds d (List.mem_cons_of_mem _ hd)
      have hes' : ∀ e ∈ es, e < 32 := fun e he => hes e (List.mem_cons_of_mem _ he)
      have hw : valueOf es < 32 ^ ds.length := hrest ▸ valueOf_lt hes'
      rw [List.cons_lt_cons_iff, valueOf_cons, valueOf_cons, ← hrest,
        mul_add_lt_iff (valueOf_lt hds') hw, ih hrest hds' hes']

theorem digits_eq_lowest (id : RequestId) : id.digits = lowest digitCount id.bits.toNat := by
  suffices h : ∀ count n : Nat,
      (List.range count).map (fun i => n / 32 ^ (count - 1 - i) % 32) = lowest count n from
    h digitCount id.bits.toNat
  intro count n
  induction count with
  | zero => rfl
  | succ count ih =>
    rw [List.range_succ_eq_map, List.map_cons, List.map_map, lowest, ← ih]
    congr 1
    refine List.map_congr_left fun i _ => ?_
    simp only [Function.comp_apply]
    congr 3
    omega

theorem ofDigits_eq_valueOf (ds : List Nat) : ofDigits ds = ⟨BitVec.ofNat 128 (valueOf ds)⟩ := by
  rw [valueOf, Nat.ofDigits_eq_foldr, List.foldr_reverse]
  simp [ofDigits, Nat.mul_comm, Nat.add_comm]

end RequestRouting.RequestId
