import Mathlib.Data.List.TakeWhile
import RequestRouting.Pattern

/-!
# The parts of joined paths

Behind a slash the parts of a path are those of what stands before and after it. Where two paths
are joined without one, the last part of the first and the first part of the second become one part.
-/

set_option autoImplicit false

namespace RequestRouting

theorem pathParts_ofList (cs : List Char) :
    pathParts (String.ofList cs) =
      ((cs.splitOn '/').filter fun piece => piece != []).map String.ofList := by
  have hempty : ∀ piece : List Char, (String.ofList piece != "") = (piece != []) := by
    intro piece
    rw [Bool.eq_iff_iff, bne_iff_ne, bne_iff_ne, ne_eq, ne_eq, String.ofList_eq_empty_iff]
  rw [pathParts, Text.pieces, String.toList_ofList, List.filter_map]
  exact congrArg _ (List.filter_congr fun piece _ => hempty piece)

theorem length_pathParts_cons (c : Char) (cs : List Char) :
    (pathParts (String.ofList (c :: cs))).length = (pathParts (String.ofList cs)).length +
      if c != '/' && cs.head?.all (· == '/') then 1 else 0 := by
  simp only [pathParts_ofList, List.length_map]
  rw [List.splitOn_cons_eq_if_modifyHead]
  by_cases hc : c = '/'
  · simp [hc]
  · rw [if_neg (by simpa using hc)]
    cases cs with
    | nil => simp [hc]
    | cons d ds =>
      rw [List.splitOn_cons_eq_if_modifyHead]
      by_cases hd : d = '/'
      · simp [hc, hd]
      · rw [if_neg (by simpa using hd)]
        cases hs : ds.splitOn '/' with
        | nil => exact absurd hs (List.splitOn_ne_nil _ _)
        | cons first others => simp [hd]

theorem pathParts_append_cons (outer inner : List Char) :
    pathParts (String.ofList (outer ++ '/' :: inner)) =
      pathParts (String.ofList outer) ++ pathParts (String.ofList inner) := by
  simp only [pathParts_ofList, List.splitOn_append_cons_self, List.filter_append, List.map_append]

theorem pathParts_cons_slash (cs : List Char) :
    pathParts (String.ofList ('/' :: cs)) = pathParts (String.ofList cs) :=
  pathParts_append_cons [] cs

theorem pathParts_replicate (n : Nat) : pathParts (String.ofList (List.replicate n '/')) = [] := by
  induction n with
  | zero => rfl
  | succ n ih => rw [List.replicate_succ, pathParts_cons_slash, ih]

section

variable {outer inner : List Char} {c d : Char}

theorem length_pathParts_pos (hlast : outer.getLast? = some c) (hc : c ≠ '/') :
    0 < (pathParts (String.ofList outer)).length := by
  induction outer with
  | nil => cases hlast
  | cons first rest ih =>
    rw [length_pathParts_cons]
    cases rest with
    | nil =>
      obtain rfl : first = c := Option.some.inj hlast
      simp [hc]
    | cons second rest =>
      rw [List.getLast?_cons_cons] at hlast
      exact Nat.lt_add_right _ (ih hlast)

/-- Two parts that are joined without a slash become one. -/
theorem length_pathParts_append (hlast : outer.getLast? = some c) (hc : c ≠ '/')
    (hfirst : inner.head? = some d) (hd : d ≠ '/') :
    (pathParts (String.ofList (outer ++ inner))).length + 1 =
      (pathParts (String.ofList outer)).length + (pathParts (String.ofList inner)).length := by
  induction outer with
  | nil => cases hlast
  | cons first rest ih =>
    rw [List.cons_append, length_pathParts_cons, length_pathParts_cons]
    cases rest with
    | nil =>
      obtain rfl : first = c := Option.some.inj hlast
      have hnone : (pathParts (String.ofList [])).length = 0 := rfl
      simp [hc, hfirst, hd, hnone, Nat.add_comm]
    | cons second rest =>
      rw [List.getLast?_cons_cons] at hlast
      have hrest := ih hlast
      rw [List.cons_append] at hrest ⊢
      rw [List.head?_cons, List.head?_cons]
      omega

end

theorem pathParts_append_of_slash {outer inner : String} (h : inner.toList.head? = some '/') :
    pathParts (outer ++ inner) = pathParts outer ++ pathParts inner := by
  obtain ⟨rest, hrest⟩ := List.head?_eq_some_iff.1 h
  obtain rfl : inner = String.ofList ('/' :: rest) := by rw [← hrest, String.ofList_toList]
  have hjoined := pathParts_append_cons outer.toList rest
  rw [String.ofList_append, String.ofList_toList] at hjoined
  rw [hjoined, pathParts_cons_slash]

theorem Text.trimEnd_append (c : Char) (s : String) :
    ∃ n, s.toList = (trimEnd c s).toList ++ List.replicate n c := by
  refine ⟨(s.toList.reverse.takeWhile (· == c)).length, ?_⟩
  have hall : ∀ d ∈ (s.toList.reverse.takeWhile (· == c)).reverse, d = c := by
    intro d hd
    simpa using List.mem_takeWhile_imp (List.mem_reverse.1 hd)
  rw [← List.length_reverse, ← List.eq_replicate_of_mem hall, trimEnd, String.toList_ofList,
    ← List.reverse_append, List.takeWhile_append_dropWhile, List.reverse_reverse]

theorem Text.getLast?_trimEnd_ne (c : Char) (s : String) :
    (trimEnd c s).toList.getLast? ≠ some c := by
  rw [trimEnd, String.toList_ofList, List.getLast?_reverse]
  intro h
  have hnot := List.head?_dropWhile_not (· == c) s.toList.reverse
  rw [h] at hnot
  simp at hnot

theorem pathParts_trimEnd (path : String) : pathParts (Text.trimEnd '/' path) = pathParts path := by
  obtain ⟨n, hn⟩ := Text.trimEnd_append '/' path
  have hpath : path = String.ofList ((Text.trimEnd '/' path).toList ++ List.replicate n '/') := by
    rw [← hn, String.ofList_toList]
  conv => rhs; rw [hpath]
  cases n with
  | zero => rw [List.replicate_zero, List.append_nil, String.ofList_toList]
  | succ n =>
    rw [List.replicate_succ, pathParts_append_cons, pathParts_replicate, List.append_nil,
      String.ofList_toList]

end RequestRouting
