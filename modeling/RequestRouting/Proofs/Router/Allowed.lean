import Mathlib.Data.List.Sort
import RequestRouting.Proofs.Router.Resolution

/-!
# Lists of allowed methods

The order of listing puts any two methods in a row, and so a list of allowed methods is told by the
methods in it: neither their order nor repetitions matter.
-/

set_option autoImplicit false

namespace RequestRouting

namespace Method

variable {a b c : Method}

theorem before_iff : a.before b = true ↔ a.rank < b.rank ∨ a.rank = b.rank ∧ a.token < b.token := by
  simp [before]

theorem before_irrefl (a : Method) : ¬ a.before a = true := by
  rw [before_iff]
  rintro (hrank | ⟨-, htoken⟩)
  · omega
  · exact String.lt_irrefl a.token htoken

theorem before_trans (h : a.before b = true) (h' : b.before c = true) : a.before c = true := by
  rw [before_iff] at *
  rcases h with hrank | ⟨hrank, htoken⟩
  · exact .inl (by omega)
  · rcases h' with hrank' | ⟨hrank', htoken'⟩
    · exact .inl (by omega)
    · exact .inr ⟨by omega, String.lt_trans htoken htoken'⟩

theorem before_or_before (hne : a ≠ b) : a.before b = true ∨ b.before a = true := by
  rw [before_iff, before_iff]
  obtain hlt | heq | hlt := Nat.lt_trichotomy a.rank b.rank
  · exact .inl (.inl hlt)
  · have htokens : a.token ≠ b.token := fun htoken => hne (eq_of_token_eq htoken)
    by_cases hlt : a.token < b.token
    · exact .inl (.inr ⟨heq, hlt⟩)
    · by_cases hgt : b.token < a.token
      · exact .inr (.inr ⟨heq.symm, hgt⟩)
      · exact absurd (String.le_antisymm (String.not_lt.1 hgt) (String.not_lt.1 hlt)) htokens
  · exact .inr (.inl hlt)

theorem upTo_iff : a.upTo b = true ↔ ¬ b.before a = true := by
  rw [upTo, Bool.not_eq_true', Bool.not_eq_true]

theorem before_of_upTo (h : a.upTo b = true) (hne : a ≠ b) : a.before b = true :=
  (before_or_before hne).resolve_right (upTo_iff.1 h)

theorem upTo_total (a b : Method) : a.upTo b = true ∨ b.upTo a = true := by
  rw [upTo_iff, upTo_iff]
  by_contra! hboth
  exact before_irrefl a (before_trans hboth.2 hboth.1)

theorem before_of_before_of_upTo (h : a.before b = true) (h' : b.upTo c = true) :
    a.before c = true := by
  by_cases hsame : b = c
  · exact hsame ▸ h
  · exact before_trans h (before_of_upTo h' hsame)

theorem upTo_trans (h : a.upTo b = true) (h' : b.upTo c = true) : a.upTo c = true := by
  rw [upTo_iff]
  intro hbefore
  exact upTo_iff.1 h' (before_of_before_of_upTo hbefore h)

instance : Std.Irrefl fun a b : Method => a.before b = true := ⟨before_irrefl⟩

instance : Std.Antisymm fun a b : Method => a.before b = true :=
  ⟨fun a _ h h' => absurd (before_trans h h') (before_irrefl a)⟩

end Method

namespace AllowedMethods

def Ordered (methods : List Method) : Prop := methods.Pairwise fun a b => a.before b = true

theorem mergeSort_sorted (methods : List Method) :
    (methods.mergeSort Method.upTo).Pairwise fun a b => a.upTo b = true := by
  apply List.pairwise_mergeSort
  · exact fun a b c => Method.upTo_trans
  · exact fun a b => Bool.or_eq_true _ _ ▸ Method.upTo_total a b

/-- In a sorted list equal methods stand side by side: the order puts distinct ones apart, be
their ranks equal or not. -/
theorem dropRepeats_ordered : ∀ {methods : List Method},
    methods.Pairwise (fun a b => a.upTo b = true) → Ordered (dropRepeats methods)
  | [], _ => List.Pairwise.nil
  | [m], _ => List.pairwise_singleton _ m
  | m :: n :: rest, h => by
    obtain ⟨hfirst, hrest⟩ := List.pairwise_cons.1 h
    have ih : Ordered (dropRepeats (n :: rest)) := dropRepeats_ordered hrest
    rw [dropRepeats]
    by_cases hsame : m = n
    · rw [if_pos hsame]
      exact ih
    · rw [if_neg hsame]
      have hnext : m.before n = true := Method.before_of_upTo (hfirst n List.mem_cons_self) hsame
      refine List.pairwise_cons.2 ⟨fun y hy => ?_, ih⟩
      rcases List.mem_cons.1 (mem_dropRepeats.1 hy) with rfl | hy
      · exact hnext
      · exact Method.before_of_before_of_upTo hnext ((List.pairwise_cons.1 hrest).1 y hy)

theorem ofMethods_ordered (implicitHead : Bool) (methods : List Method) :
    Ordered (ofMethods implicitHead methods).methods :=
  dropRepeats_ordered (mergeSort_sorted _)

theorem eq_of_mem_iff {a b : AllowedMethods} (ha : Ordered a.methods) (hb : Ordered b.methods)
    (h : ∀ m, m ∈ a.methods ↔ m ∈ b.methods) : a = b :=
  congrArg AllowedMethods.mk (List.Pairwise.eq_of_mem_iff ha hb h)

theorem ofMethods_congr (implicitHead : Bool) {methods others : List Method}
    (h : ∀ m, m ∈ methods ↔ m ∈ others) :
    ofMethods implicitHead methods = ofMethods implicitHead others := by
  refine eq_of_mem_iff (ofMethods_ordered _ _) (ofMethods_ordered _ _) fun m => ?_
  rw [mem_ofMethods, mem_ofMethods, h, h]

end AllowedMethods

end RequestRouting
