import RequestRouting.Proofs.Pattern.Parts

/-!
# The grammar of patterns

The texts that are read as patterns, told by the forms of their parts; and of all others the fault
that is found: the first part that has any is blamed, for the gravest of its faults.
-/

set_option autoImplicit false

namespace RequestRouting

/-- Of several faults in a part, the one with the lowest rank is told. -/
def PatternFault.rank : PatternFault → Nat
  | .malformedSegment _ => 0
  | .emptyParamName _ => 1
  | .invalidParamName _ => 2
  | .catchAllNotLast _ => 3
  | .duplicateParamName _ => 4
  | _ => 5

namespace Pattern

def StartsName (c : Char) : Prop := 'A' ≤ c ∧ c ≤ 'Z' ∨ 'a' ≤ c ∧ c ≤ 'z' ∨ c = '_'

def ContinuesName (c : Char) : Prop :=
  StartsName c ∨ '0' ≤ c ∧ c ≤ '9' ∨ c = '.' ∨ c = '-'

def IsName (name : List Char) : Prop :=
  ∃ first rest, name = first :: rest ∧ StartsName first ∧ ∀ c ∈ rest, ContinuesName c

/-- What stands in the place of a name: all within the braces, or behind the colon or the star. A
star alone has no name to it. -/
inductive Spells : List Char → List Char → Prop where
  | braced (name : List Char) : Spells ('\x7b' :: (name ++ ['\x7d'])) name
  | colon (name : List Char) : Spells (':' :: name) name
  | star {name : List Char} (hname : name ≠ []) : Spells ('*' :: name) name

inductive Form : List Char → Segment → Prop where
  | literal {cs : List Char} (hopen : '\x7b' ∉ cs) (hclose : '\x7d' ∉ cs)
      (hcolon : cs.head? ≠ some ':') (hstar : cs.head? ≠ some '*') :
      Form cs (.literal (String.ofList cs))
  | braced {name : List Char} (hname : IsName name) :
      Form ('\x7b' :: (name ++ ['\x7d'])) (.param (String.ofList name))
  | colon {name : List Char} (hname : IsName name) :
      Form (':' :: name) (.param (String.ofList name))
  | star {name : List Char} (hname : IsName name) :
      Form ('*' :: name) (.catchAll (some (String.ofList name)))
  | starAlone : Form ['*'] (.catchAll none)

def Malformed (cs : List Char) : Prop :=
  ('\x7b' ∈ cs ∨ '\x7d' ∈ cs) ∧ ∀ name, cs ≠ '\x7b' :: (name ++ ['\x7d'])

/-- The faults of a part between the others of its pattern. -/
inductive Offends (before : List String) (raw : String) (after : List String) :
    PatternFault → Prop where
  | malformed (h : Malformed raw.toList) : Offends before raw after (.malformedSegment raw)
  | unnamed (h : Spells raw.toList []) : Offends before raw after (.emptyParamName raw)
  | misnamed {name : List Char} (h : Spells raw.toList name) (hname : ¬ IsName name) :
      Offends before raw after (.invalidParamName (String.ofList name))
  | covering (h : raw.toList.head? = some '*') (hafter : after ≠ []) :
      Offends before raw after (.catchAllNotLast raw)
  | repeating {name : List Char} {earlier : String} (h : Spells raw.toList name)
      (hearlier : earlier ∈ before) (hsame : Spells earlier.toList name) :
      Offends before raw after (.duplicateParamName (String.ofList name))

def OffendsAt (raws : List String) (place : Nat) (fault : PatternFault) : Prop :=
  ∃ before raw after, raws = before ++ raw :: after ∧ before.length = place ∧
    Offends before raw after fault

/-- The fault is the gravest one of the leftmost part that offends. -/
def Blames (raws : List String) (fault : PatternFault) : Prop :=
  ∃ place, OffendsAt raws place fault ∧
    (∀ earlier < place, ∀ other, ¬ OffendsAt raws earlier other) ∧
    ∀ other, OffendsAt raws place other → fault.rank ≤ other.rank

section

variable {cs name : List Char} {segment : Segment}

theorem isNameStart_iff {c : Char} : isNameStart c = true ↔ StartsName c := by
  have hletter : c.isAlpha = (decide (c.val ≥ 'A'.val ∧ c.val ≤ 'Z'.val) ||
      decide (c.val ≥ 'a'.val) && decide (c.val ≤ 'z'.val)) := rfl
  simp [isNameStart, StartsName, hletter, Char.le_def, or_assoc]

theorem isNameRest_iff {c : Char} : isNameRest c = true ↔ ContinuesName c := by
  have hletter : c.isAlphanum = (c.isAlpha || c.isDigit) := rfl
  rw [ContinuesName, ← isNameStart_iff]
  simp only [isNameRest, isNameStart, hletter, Char.isDigit, Char.le_def, Bool.or_eq_true,
    Bool.and_eq_true, decide_eq_true_eq, beq_iff_eq, ge_iff_le]
  tauto

theorem isName_iff : isName name = true ↔ IsName name := by
  cases name with
  | nil => simp [isName, IsName]
  | cons first rest => simp [isName, IsName, isNameStart_iff, isNameRest_iff]

theorem IsName.ne_nil (h : IsName name) : name ≠ [] := by
  obtain ⟨first, rest, rfl, -, -⟩ := h
  simp

theorem IsName.no_brace (h : IsName name) : '\x7b' ∉ name ∧ '\x7d' ∉ name := by
  obtain ⟨first, rest, rfl, hfirst, hrest⟩ := h
  have hstart : ∀ c, StartsName c → c ≠ '\x7b' ∧ c ≠ '\x7d' := by
    rintro c hc
    constructor <;> rintro rfl <;> revert hc <;> unfold StartsName <;> decide
  have hall : ∀ c, ContinuesName c → c ≠ '\x7b' ∧ c ≠ '\x7d' := by
    rintro c hc
    constructor <;> rintro rfl <;> revert hc <;> unfold ContinuesName StartsName <;> decide
  simp only [List.mem_cons, not_or]
  exact ⟨⟨(hstart first hfirst).1.symm, fun hmem => (hall _ (hrest _ hmem)).1 rfl⟩,
    (hstart first hfirst).2.symm, fun hmem => (hall _ (hrest _ hmem)).2 rfl⟩

theorem Spells.unique {other : List Char} (h : Spells cs name) (h' : Spells cs other) :
    name = other := by
  cases h with
  | braced name =>
    generalize hcs : '\x7b' :: (name ++ ['\x7d']) = cs at h'
    cases h' with
    | braced other => exact List.append_cancel_right (List.cons.inj hcs).2
    | colon other => exact absurd (List.cons.inj hcs).1 (by decide)
    | star hother => exact absurd (List.cons.inj hcs).1 (by decide)
  | colon name => cases h' with
    | colon other => rfl
  | star hname => cases h' with
    | star hother => rfl

theorem Form.spells_iff (h : Form cs segment) :
    Spells cs name ↔ segment.paramName = some (String.ofList name) := by
  have hsame : ∀ {own : List Char}, Spells cs own →
      (Spells cs name ↔ some (String.ofList own) = some (String.ofList name)) := by
    intro own hown
    rw [Option.some.injEq, String.ofList_inj]
    exact ⟨hown.unique, fun heq => heq ▸ hown⟩
  cases h with
  | literal hopen hclose hcolon hstar =>
    refine iff_of_false (fun hspells => ?_) nofun
    cases hspells with
    | braced name => simp at hopen
    | colon name => simp at hcolon
    | star hname => simp at hstar
  | braced hname => exact hsame (.braced _)
  | colon hname => exact hsame (.colon _)
  | star hname => exact hsame (.star hname.ne_nil)
  | starAlone =>
    refine iff_of_false (fun hspells => ?_) nofun
    cases hspells with
    | star hname => exact hname rfl

theorem Form.isName (h : Form cs segment) (hspells : Spells cs name) : IsName name := by
  cases h with
  | literal hopen hclose hcolon hstar =>
    cases hspells with
    | braced name => simp at hopen
    | colon name => simp at hcolon
    | star hname => simp at hstar
  | braced hname => exact (Spells.braced _).unique hspells ▸ hname
  | colon hname => exact (Spells.colon _).unique hspells ▸ hname
  | star hname => exact (Spells.star hname.ne_nil).unique hspells ▸ hname
  | starAlone =>
    cases hspells with
    | star hname => exact absurd rfl hname

theorem Form.not_malformed (h : Form cs segment) : ¬ Malformed cs := by
  rintro ⟨hbrace, hopen⟩
  cases h with
  | literal hopen' hclose hcolon hstar => exact hbrace.elim hopen' hclose
  | braced hname => exact hopen _ rfl
  | colon hname => simp [hname.no_brace] at hbrace
  | star hname => simp [hname.no_brace] at hbrace
  | starAlone => simp at hbrace

theorem Form.isCatchAll_iff (h : Form cs segment) :
    segment.isCatchAll = true ↔ cs.head? = some '*' := by
  cases h with
  | literal hopen hclose hcolon hstar => simp [Segment.isCatchAll, hstar]
  | braced hname => simp [Segment.isCatchAll]
  | colon hname => simp [Segment.isCatchAll]
  | star hname => simp [Segment.isCatchAll]
  | starAlone => simp [Segment.isCatchAll]

end

inductive Course (raw : String) : Except PatternFault Segment → Prop where
  | malformed (h : Malformed raw.toList) : Course raw (.error (.malformedSegment raw))
  | named {name : List Char} {segment : String → Segment} (hspells : Spells raw.toList name)
      (hbraces : ¬ Malformed raw.toList)
      (hform : IsName name → Form raw.toList (segment (String.ofList name))) :
      Course raw ((readName raw name).map segment)
  | plain {segment : Segment} (h : Form raw.toList segment) : Course raw (.ok segment)

theorem readSegment_course (raw : String) : Course raw (readSegment raw) := by
  unfold readSegment
  split
  · rename_i rest hraw
    by_cases hlast : rest.getLast? = some '\x7d'
    · rw [if_pos hlast]
      obtain ⟨name, rfl⟩ := List.getLast?_eq_some_iff.1 hlast
      rw [List.dropLast_concat]
      refine .named (hraw ▸ .braced name) ?_ fun hname => hraw ▸ .braced hname
      rw [hraw]
      exact fun hmalformed => hmalformed.2 name rfl
    · rw [if_neg hlast]
      refine .malformed ⟨.inl (by simp [hraw]), fun name hname => hlast ?_⟩
      rw [hraw, List.cons.injEq] at hname
      simp [hname.2]
  · rename_i hopen
    split
    · rename_i hbrace
      refine .malformed ⟨by simpa using hbrace, fun name hname => ?_⟩
      exact hopen _ hname
    · rename_i hbrace
      have hplain : '\x7b' ∉ raw.toList ∧ '\x7d' ∉ raw.toList := by simpa using hbrace
      have hwell : ¬ Malformed raw.toList := fun hmalformed =>
        hmalformed.1.elim hplain.1 hplain.2
      split
      · rename_i name hraw
        exact .named (hraw ▸ .colon name) hwell fun hname => hraw ▸ .colon hname
      · rename_i hraw
        exact .plain (hraw ▸ .starAlone)
      · rename_i name hname hraw
        exact .named (hraw ▸ .star fun hnil => hname (by rw [hnil])) hwell
          fun hname => hraw ▸ .star hname
      · rename_i hcolon halone hstar
        have hform : Form raw.toList (.literal (String.ofList raw.toList)) := by
          refine .literal hplain.1 hplain.2 (fun hhead => ?_) fun hhead => ?_
          · obtain ⟨name, hraw⟩ := List.head?_eq_some_iff.1 hhead
            exact hcolon name hraw
          · obtain ⟨name, hraw⟩ := List.head?_eq_some_iff.1 hhead
            exact hstar name hraw
        rw [String.ofList_toList] at hform
        exact .plain hform

section

variable {raw : String} {segment : Segment} {fault : PatternFault}

theorem readName_eq (raw : String) (name : List Char) : readName raw name =
    if name = [] then .error (.emptyParamName raw)
    else if isName name then .ok (String.ofList name)
    else .error (.invalidParamName (String.ofList name)) := by
  simp [readName]

theorem form_of_readSegment (h : readSegment raw = .ok segment) : Form raw.toList segment := by
  have hcourse := readSegment_course raw
  generalize readSegment raw = result at hcourse h
  cases hcourse with
  | malformed hmalformed => cases h
  | @named name _ hspells hbraces hform =>
    rw [readName_eq] at h
    by_cases hnil : name = []
    · simp [hnil, Except.map] at h
    · by_cases hname : isName name
      · rw [if_neg hnil, if_pos hname] at h
        cases h
        exact hform (isName_iff.1 hname)
      · simp [hnil, hname, Except.map] at h
  | plain hform =>
    cases h
    exact hform

theorem offends_of_readSegment (h : readSegment raw = .error fault) (before after : List String) :
    Offends before raw after fault ∧
      ∀ other, Offends before raw after other → fault.rank ≤ other.rank := by
  have hcourse := readSegment_course raw
  generalize readSegment raw = result at hcourse h
  cases hcourse with
  | malformed hmalformed =>
    cases h
    exact ⟨.malformed hmalformed, fun other _ => Nat.zero_le _⟩
  | @named name _ hspells hbraces hform =>
    rw [readName_eq] at h
    by_cases hnil : name = []
    · subst hnil
      cases h
      refine ⟨.unnamed hspells, fun other hother => ?_⟩
      cases hother with
      | malformed hmalformed => exact absurd hmalformed hbraces
      | _ => simp [PatternFault.rank]
    · by_cases hname : isName name
      · simp [hnil, hname, Except.map] at h
      · rw [if_neg hnil, if_neg hname] at h
        cases h
        refine ⟨.misnamed hspells (mt isName_iff.2 hname), fun other hother => ?_⟩
        cases hother with
        | malformed hmalformed => exact absurd hmalformed hbraces
        | unnamed hempty => exact absurd (hspells.unique hempty) hnil
        | _ => simp [PatternFault.rank]
  | plain hform => cases h

theorem Offends.of_form {before after : List String} (hform : Form raw.toList segment)
    (h : Offends before raw after fault) :
    (segment.isCatchAll = true ∧ after ≠ [] ∧ fault = .catchAllNotLast raw) ∨
      ∃ name earlier, segment.paramName = some name ∧ earlier ∈ before ∧
        Spells earlier.toList name.toList ∧ fault = .duplicateParamName name := by
  cases h with
  | malformed hmalformed => exact absurd hmalformed hform.not_malformed
  | unnamed hempty => exact absurd rfl (hform.isName hempty).ne_nil
  | misnamed hspells hname => exact absurd (hform.isName hspells) hname
  | covering hstar hafter => exact .inl ⟨hform.isCatchAll_iff.2 hstar, hafter, rfl⟩
  | repeating hspells hearlier hsame =>
    exact .inr ⟨_, _, hform.spells_iff.1 hspells, hearlier, by simpa using hsame, rfl⟩

def Known (before seen : List String) : Prop :=
  ∀ name, name ∈ seen ↔ ∃ earlier ∈ before, Spells earlier.toList name.toList

theorem Known.snoc {before seen : List String} (h : Known before seen)
    (hform : Form raw.toList segment) :
    Known (before ++ [raw]) (segment.paramName.toList ++ seen) := by
  intro name
  have hown : segment.paramName = some name ↔ Spells raw.toList name.toList := by
    rw [hform.spells_iff, String.ofList_toList]
  simp only [List.mem_append, Option.mem_toList, hown, h name, List.mem_singleton,
    or_and_right, exists_or, exists_eq_left]
  exact or_comm

theorem readParts_step {before seen : List String} (after : List String)
    (hknown : Known before seen) (hform : Form raw.toList segment)
    (hread : readSegment raw = .ok segment) :
    (∃ fault, readParts seen (raw :: after) = .error fault ∧ Offends before raw after fault ∧
      ∀ other, Offends before raw after other → fault.rank ≤ other.rank) ∨
    (readParts seen (raw :: after) =
        (readParts (segment.paramName.toList ++ seen) after).map (⟨raw, segment⟩ :: ·) ∧
      ∀ other, ¬ Offends before raw after other) := by
  by_cases hcovers : segment.isCatchAll = true ∧ after ≠ []
  · refine .inl ⟨.catchAllNotLast raw, by simp [readParts, hread, hcovers],
      .covering (hform.isCatchAll_iff.1 hcovers.1) hcovers.2, fun other hother => ?_⟩
    rcases hother.of_form hform with ⟨-, -, rfl⟩ | ⟨_, _, -, -, -, rfl⟩
    · exact Nat.le_refl _
    · simp [PatternFault.rank]
  · have hpassed : (segment.isCatchAll && !after.isEmpty) = false := by
      simpa using hcovers
    by_cases hrepeats : ∃ name, segment.paramName = some name ∧ name ∈ seen
    · obtain ⟨name, hname, hseen⟩ := hrepeats
      obtain ⟨earlier, hearlier, hsame⟩ := (hknown name).1 hseen
      have hspells : Spells raw.toList name.toList := by
        rw [hform.spells_iff, String.ofList_toList, hname]
      have hoffends : Offends before raw after _ := .repeating hspells hearlier hsame
      rw [String.ofList_toList] at hoffends
      refine .inl ⟨.duplicateParamName name, ?_, hoffends, fun other hother => ?_⟩
      · simp [readParts, hread, hpassed, hname, hseen]
      · rcases hother.of_form hform with ⟨hcatchAll, hafter, -⟩ | ⟨_, _, -, -, -, rfl⟩
        · exact absurd ⟨hcatchAll, hafter⟩ hcovers
        · exact Nat.le_refl _
    · refine .inr ⟨?_, fun other hother => ?_⟩
      · cases hname : segment.paramName with
        | none => simp [readParts, hread, hpassed, hname]
        | some name =>
          have hnew : name ∉ seen := fun hseen => hrepeats ⟨name, hname, hseen⟩
          simp [readParts, hread, hpassed, hname, hnew]
      · rcases hother.of_form hform with
          ⟨hcatchAll, hafter, -⟩ | ⟨name, earlier, hname, hearlier, hsame, -⟩
        · exact hcovers ⟨hcatchAll, hafter⟩
        · exact hrepeats ⟨name, hname, (hknown name).2 ⟨earlier, hearlier, hsame⟩⟩

theorem offendsAt_iff {before after : List String} :
    OffendsAt (before ++ raw :: after) before.length fault ↔ Offends before raw after fault := by
  constructor
  · rintro ⟨before', raw', after', hsplit, hlength, hoffends⟩
    obtain ⟨rfl, hrest⟩ := List.append_inj hsplit.symm hlength
    obtain ⟨rfl, rfl⟩ := List.cons.inj hrest
    exact hoffends
  · exact fun hoffends => ⟨before, raw, after, rfl, rfl, hoffends⟩

theorem blames_of_offends {before after : List String}
    (hclean : ∀ earlier < before.length, ∀ other,
      ¬ OffendsAt (before ++ raw :: after) earlier other)
    (hoffends : Offends before raw after fault)
    (hfirst : ∀ other, Offends before raw after other → fault.rank ≤ other.rank) :
    Blames (before ++ raw :: after) fault :=
  ⟨before.length, offendsAt_iff.2 hoffends, hclean, fun other h => hfirst other (offendsAt_iff.1 h)⟩

/-- By induction on the parts that are left: none of those before offends, and their names are the
ones that were seen. -/
theorem readParts_blames {before rest seen : List String} (hknown : Known before seen)
    (hclean : ∀ earlier < before.length, ∀ other, ¬ OffendsAt (before ++ rest) earlier other)
    (h : readParts seen rest = .error fault) : Blames (before ++ rest) fault := by
  induction rest generalizing before seen with
  | nil => cases h
  | cons raw after ih =>
    cases hread : readSegment raw with
    | error other =>
      have heq : other = fault := by simpa [readParts, hread] using h
      obtain ⟨hoffends, hfirst⟩ := offends_of_readSegment hread before after
      exact heq ▸ blames_of_offends hclean hoffends hfirst
    | ok segment =>
      have hform := form_of_readSegment hread
      rcases readParts_step after hknown hform hread with
        ⟨other, hother, hoffends, hfirst⟩ | ⟨hstep, hnone⟩
      · rw [hother] at h
        cases h
        exact blames_of_offends hclean hoffends hfirst
      · rw [hstep] at h
        have hrest : readParts (segment.paramName.toList ++ seen) after = .error fault := by
          cases hparts : readParts (segment.paramName.toList ++ seen) after with
          | error other => simpa [hparts, Except.map] using h
          | ok parts => simp [hparts, Except.map] at h
        rw [List.append_cons] at hclean ⊢
        refine ih (hknown.snoc hform) (fun earlier hearlier other hoffends => ?_) hrest
        by_cases hlt : earlier < before.length
        · exact hclean earlier hlt other hoffends
        · have hplace : earlier = before.length := by simp at hearlier; omega
          rw [hplace, ← List.append_cons, offendsAt_iff] at hoffends
          exact hnone other hoffends

theorem Offends.eq_of_rank {before after : List String} {other : PatternFault}
    (h : Offends before raw after fault) (h' : Offends before raw after other)
    (hrank : fault.rank = other.rank) : fault = other := by
  cases h with
  | malformed _ => cases h' with
    | malformed _ => rfl
    | _ => simp [PatternFault.rank] at hrank
  | unnamed _ => cases h' with
    | unnamed _ => rfl
    | _ => simp [PatternFault.rank] at hrank
  | misnamed hspells _ => cases h' with
    | misnamed hspells' _ => rw [hspells.unique hspells']
    | _ => simp [PatternFault.rank] at hrank
  | covering _ _ => cases h' with
    | covering _ _ => rfl
    | _ => simp [PatternFault.rank] at hrank
  | repeating hspells _ _ => cases h' with
    | repeating hspells' _ _ => rw [hspells.unique hspells']
    | _ => simp [PatternFault.rank] at hrank

theorem Blames.unique {raws : List String} {other : PatternFault} (h : Blames raws fault)
    (h' : Blames raws other) : fault = other := by
  obtain ⟨place, hoffends, hclean, hfirst⟩ := h
  obtain ⟨place', hoffends', hclean', hfirst'⟩ := h'
  obtain hlt | rfl | hlt := Nat.lt_trichotomy place place'
  · exact absurd hoffends (hclean' place hlt fault)
  · have hrank := Nat.le_antisymm (hfirst other hoffends') (hfirst' fault hoffends)
    obtain ⟨before, raw, after, rfl, rfl, hown⟩ := hoffends
    exact hown.eq_of_rank (offendsAt_iff.1 hoffends') hrank
  · exact absurd hoffends' (hclean place' hlt other)

end

/-- The texts that are patterns. -/
structure Grammatical (pattern : String) : Prop where
  slash : pattern.toList.head? = some '/'
  forms : ∀ raw ∈ pathParts pattern, ∃ segment, Form raw.toList segment
  last : (pathParts pattern).Pairwise fun raw _ => raw.toList.head? ≠ some '*'
  distinct : (pathParts pattern).Pairwise fun raw later =>
    ∀ name, Spells raw.toList name → ¬ Spells later.toList name

inductive Refuses (pattern : String) : PatternFault → Prop where
  | relative (h : pattern.toList.head? ≠ some '/') : Refuses pattern .missingLeadingSlash
  | blamed {fault : PatternFault} (hslash : pattern.toList.head? = some '/')
      (h : Blames (pathParts pattern) fault) : Refuses pattern fault

section

variable {pattern : String} {parts : List PatternPart}

theorem form_of_parse (h : parse pattern = .ok parts) :
    ∀ p ∈ parts, Form p.raw.toList p.segment := fun p hp =>
  form_of_readSegment ((parse_spec h).2.2.1.read p hp)

theorem grammatical_of_parse (h : parse pattern = .ok parts) : Grammatical pattern := by
  obtain ⟨hslash, hraws, hwell, hnames⟩ := parse_spec h
  have hforms := form_of_parse h
  refine ⟨hslash, ?_, ?_, ?_⟩
  · intro raw hraw
    rw [← hraws] at hraw
    obtain ⟨p, hp, rfl⟩ := List.mem_map.1 hraw
    exact ⟨p.segment, hforms p hp⟩
  · rw [← hraws, List.pairwise_map]
    refine hwell.last.imp_of_mem fun {p q} hp _ hlast hstar => ?_
    rw [← (hforms p hp).isCatchAll_iff, hlast] at hstar
    exact Bool.false_ne_true hstar
  · rw [← hraws, List.pairwise_map]
    refine (List.pairwise_filterMap.1 hnames).imp_of_mem fun {p q} hp hq hne name hname hlater => ?_
    rw [(hforms p hp).spells_iff] at hname
    rw [(hforms q hq).spells_iff] at hlater
    exact hne _ hname _ hlater rfl

theorem Grammatical.not_offends (h : Grammatical pattern) (place : Nat) (fault : PatternFault) :
    ¬ OffendsAt (pathParts pattern) place fault := by
  rintro ⟨before, raw, after, hsplit, -, hoffends⟩
  obtain ⟨-, hforms, hlast, hdistinct⟩ := h
  rw [hsplit] at hforms hlast hdistinct
  obtain ⟨segment, hform⟩ := hforms raw (by simp)
  rcases hoffends.of_form hform with
    ⟨hcatchAll, hafter, -⟩ | ⟨name, earlier, hname, hearlier, hsame, -⟩
  · obtain ⟨next, more, rfl⟩ := List.exists_cons_of_ne_nil hafter
    exact (List.pairwise_cons.1 (List.pairwise_append.1 hlast).2.1).1 next List.mem_cons_self
      (hform.isCatchAll_iff.1 hcatchAll)
  · refine (List.pairwise_append.1 hdistinct).2.2 earlier hearlier raw List.mem_cons_self _ hsame ?_
    rw [hform.spells_iff, String.ofList_toList, hname]

theorem refuses_of_parse {e : PatternError} (h : parse pattern = .error e) :
    e.pattern = pattern ∧ Refuses pattern e.fault := by
  unfold parse at h
  by_cases hslash : pattern.toList.head? = some '/'
  · rw [if_pos hslash] at h
    cases hparts : readParts [] (pathParts pattern) with
    | ok parts => simp [hparts, Except.mapError] at h
    | error fault =>
      rw [hparts] at h
      cases h
      refine ⟨rfl, .blamed hslash ?_⟩
      have hknown : Known [] [] := fun name => by simp
      exact readParts_blames hknown (fun earlier hlt => absurd hlt (Nat.not_lt_zero _)) hparts
  · rw [if_neg hslash] at h
    cases h
    exact ⟨rfl, .relative hslash⟩

theorem Refuses.not_grammatical {fault : PatternFault} (h : Refuses pattern fault) :
    ¬ Grammatical pattern := by
  intro hgrammatical
  cases h with
  | relative hrelative => exact hrelative hgrammatical.slash
  | blamed hslash hblames =>
    obtain ⟨place, hoffends, -⟩ := hblames
    exact hgrammatical.not_offends place _ hoffends

theorem Refuses.unique {fault other : PatternFault} (h : Refuses pattern fault)
    (h' : Refuses pattern other) : fault = other := by
  cases h with
  | relative hrelative => cases h' with
    | relative _ => rfl
    | blamed hslash _ => exact absurd hslash hrelative
  | blamed hslash hblames => cases h' with
    | relative hrelative => exact absurd hslash hrelative
    | blamed _ hblames' => exact hblames.unique hblames'

end

structure ReadsGrammar (pattern : String) : Prop where
  accepts : (∃ parts, parse pattern = .ok parts) ↔ Grammatical pattern
  raws : ∀ parts, parse pattern = .ok parts → parts.map (·.raw) = pathParts pattern
  forms : ∀ parts, parse pattern = .ok parts → ∀ p ∈ parts, Form p.raw.toList p.segment
  /-- What a part stands for depends on nothing but its own text. -/
  classes : ∀ parts other others, parse pattern = .ok parts → parse other = .ok others →
    ∀ p ∈ parts, ∀ q ∈ others, p.raw = q.raw → p.segment = q.segment
  refuses : ∀ e, parse pattern = .error e ↔ e.pattern = pattern ∧ Refuses pattern e.fault

theorem reads_grammar (pattern : String) : ReadsGrammar pattern where
  accepts := by
    refine ⟨fun ⟨parts, hparts⟩ => grammatical_of_parse hparts, fun hgrammatical => ?_⟩
    cases hparse : parse pattern with
    | ok parts => exact ⟨parts, rfl⟩
    | error e => exact absurd hgrammatical (refuses_of_parse hparse).2.not_grammatical
  raws parts hparts := (parse_spec hparts).2.1
  forms parts hparts := form_of_parse hparts
  classes parts other others hparts hothers p hp q hq hraw := by
    have hread := (parse_spec hparts).2.2.1.read p hp
    rw [hraw, (parse_spec hothers).2.2.1.read q hq] at hread
    exact (Except.ok.inj hread).symm
  refuses e := by
    refine ⟨refuses_of_parse, fun ⟨hpattern, hrefuses⟩ => ?_⟩
    cases hparse : parse pattern with
    | ok parts => exact absurd (grammatical_of_parse hparse) hrefuses.not_grammatical
    | error other =>
      obtain ⟨hsame, hrefuses'⟩ := refuses_of_parse hparse
      have hfault := hrefuses'.unique hrefuses
      cases other
      cases e
      simp_all

example : parse "/\x7ba\x7db\x7d/*/:" =
    .error ⟨"/\x7ba\x7db\x7d/*/:", .invalidParamName "a\x7db"⟩ := rfl

end Pattern

end RequestRouting
