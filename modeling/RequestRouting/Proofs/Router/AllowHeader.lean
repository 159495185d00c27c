import RequestRouting.Proofs.Router.Allowed
import RequestRouting.Proofs.Text.Pieces

/-!
# The header of allowed methods

A list of allowed methods is told by its members, in whatever order and however often they are
given, and listing what was listed changes nothing. The methods can be read off the header again.
-/

set_option autoImplicit false

namespace RequestRouting

namespace Text

/-- The runs between the occurrences of a mark, which are found from the left and do not overlap;
`fuel` bounds the number of occurrences. -/
def runsBetween (mark : List Char) : Nat → List Char → List (List Char)
  | 0, cs => [cs]
  | fuel + 1, cs =>
    match cs.dropInfix? mark with
    | none => [cs]
    | some (before, after) => before :: runsBetween mark fuel after

/-- The pieces of a text between the occurrences of a mark. The empty text is a piece as well. -/
def splitAt (mark s : String) : List String :=
  (runsBetween mark.toList s.toList.length s.toList).map String.ofList

variable {c : Char} {mark run rest : List Char} {runs : List (List Char)}

theorem dropInfix?_of_not_mem (h : c ∉ run) : run.dropInfix? (c :: mark) = none := by
  cases hdrop : run.dropInfix? (c :: mark) with
  | none => rfl
  | some found =>
    obtain ⟨before, after⟩ := found
    obtain ⟨⟨found, hrun, hfound⟩, -⟩ := List.dropInfix?_eq_some_iff.mp hdrop
    rw [beq_iff_eq] at hfound
    subst hrun hfound
    simp at h

theorem dropInfix?_append (h : c ∉ run) :
    (run ++ c :: mark ++ rest).dropInfix? (c :: mark) = some (run, rest) := by
  refine List.dropInfix?_eq_some_iff.mpr ⟨⟨c :: mark, rfl, beq_self_eq_true _⟩, ?_⟩
  intro before found after hsplit hfound
  rw [beq_iff_eq] at hfound
  subst hfound
  by_contra hshort
  have hlt : before.length < run.length := Nat.lt_of_not_le hshort
  have hleft : (run ++ c :: mark ++ rest)[before.length]? = run[before.length]? := by
    rw [List.append_assoc, List.getElem?_append_left hlt]
  have hright : (before ++ c :: mark ++ after)[before.length]? = some c := by simp
  rw [← hsplit, hleft] at hright
  exact h (List.mem_of_getElem? hright)

theorem length_le_intercalate (c : Char) (mark : List Char) (runs : List (List Char)) :
    runs.length ≤ ((c :: mark).intercalate runs).length + 1 := by
  induction runs with
  | nil => simp
  | cons first others ih =>
    cases others with
    | nil => simp
    | cons second others =>
      rw [List.intercalate_cons_cons]
      simp only [List.length_cons, List.length_append] at ih ⊢
      omega

theorem runsBetween_intercalate (hne : runs ≠ []) (h : ∀ run ∈ runs, c ∉ run) {fuel : Nat}
    (hfuel : runs.length ≤ fuel + 1) :
    runsBetween (c :: mark) fuel ((c :: mark).intercalate runs) = runs := by
  induction runs generalizing fuel with
  | nil => exact absurd rfl hne
  | cons first others ih =>
    obtain ⟨hfirst, hothers⟩ := List.forall_mem_cons.mp h
    cases others with
    | nil => cases fuel <;> simp [runsBetween, dropInfix?_of_not_mem hfirst]
    | cons second others =>
      cases fuel with
      | zero => simp at hfuel
      | succ fuel =>
        have hbehind := ih (List.cons_ne_nil _ _) hothers (Nat.le_of_succ_le_succ hfuel)
        rw [List.intercalate_cons_cons, runsBetween, dropInfix?_append hfirst]
        exact congrArg (first :: ·) hbehind

theorem splitAt_joinWith {texts : List String} (hne : texts ≠ []) (h : ∀ s ∈ texts, c ∉ s.toList) :
    splitAt (String.ofList (c :: mark)) (joinWith (String.ofList (c :: mark)) texts) = texts := by
  have hruns : ∀ run ∈ texts.map String.toList, c ∉ run := by
    intro run hrun
    obtain ⟨s, hs, rfl⟩ := List.mem_map.mp hrun
    exact h s hs
  rw [splitAt, toList_joinWith, String.toList_ofList, runsBetween_intercalate (by simpa using hne)
    hruns (length_le_intercalate c mark _), List.map_map]
  simp

end Text

theorem Method.comma_not_mem_token (m : Method) : ',' ∉ m.token.toList := by
  have hvalid := m.valid
  rw [isToken, Bool.and_eq_true, List.all_eq_true] at hvalid
  intro hmem
  have hcomma := hvalid.2 ',' hmem
  revert hcomma
  decide

namespace AllowedMethods

theorem splitAt_header (a : AllowedMethods) :
    Text.splitAt ", " a.header = if a.methods = [] then [""] else a.methods.map Method.token := by
  split
  · rename_i hempty
    rw [header, hempty]
    rfl
  · rename_i hne
    refine @Text.splitAt_joinWith ',' [' '] _ (by simpa using hne) fun s hs => ?_
    obtain ⟨m, -, rfl⟩ := List.mem_map.mp hs
    exact m.comma_not_mem_token

theorem methods_eq_nil_iff {implicitHead : Bool} {methods : List Method} :
    (ofMethods implicitHead methods).methods = [] ↔ methods = [] := by
  simp only [List.eq_nil_iff_forall_not_mem, mem_ofMethods, not_or]
  exact ⟨fun h m => (h m).1, fun h m => ⟨h m, fun himplied => h _ himplied.2.2⟩⟩

theorem ofMethods_ofMethods (implicitHead : Bool) (methods : List Method) :
    ofMethods implicitHead (ofMethods implicitHead methods).methods =
      ofMethods implicitHead methods := by
  have hget : ¬ Method.get = Method.head := by decide
  refine eq_of_mem_iff (ofMethods_ordered _ _) (ofMethods_ordered _ _) fun m => ?_
  rw [mem_ofMethods, mem_ofMethods, mem_ofMethods]
  tauto

/-- For all lists of methods, the empty one included: its header is the empty text, which is split
into one piece and not into none. -/
theorem listing_of_members (implicitHead : Bool) (methods : List Method) :
    let a := ofMethods implicitHead methods
    (a.methods.Pairwise fun m n => m.rank < n.rank ∨ m.rank = n.rank ∧ m.token < n.token) ∧
      a.methods.Nodup ∧
      (∀ m, m ∈ a.methods ↔
        m ∈ methods ∨ (m = .head ∧ implicitHead = true ∧ .get ∈ methods)) ∧
      (∀ others : List Method, (∀ m, m ∈ others ↔ m ∈ methods) →
        ofMethods implicitHead others = a) ∧
      ofMethods implicitHead a.methods = a ∧
      Text.splitAt ", " a.header = if methods = [] then [""] else a.methods.map Method.token := by
  intro a
  have hordered : Ordered a.methods := ofMethods_ordered implicitHead methods
  refine ⟨hordered.imp Method.before_iff.mp, ?_, fun m => mem_ofMethods,
    fun others hsame => ofMethods_congr implicitHead hsame,
    ofMethods_ofMethods implicitHead methods, ?_⟩
  · refine hordered.imp fun {m n} hbefore => ?_
    rintro rfl
    exact Method.before_irrefl m hbefore
  · rw [splitAt_header]
    simp only [a, methods_eq_nil_iff]

theorem no_methods_split_into_one :
    ¬ Text.splitAt ", " (ofMethods false []).header =
      (ofMethods false []).methods.map Method.token := by
  rw [splitAt_header, methods_eq_nil_iff.2 rfl]
  decide

end AllowedMethods

end RequestRouting
