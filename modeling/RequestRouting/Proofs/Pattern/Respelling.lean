import RequestRouting.Proofs.Pattern.Grammar
import RequestRouting.Proofs.Pattern.Joining

/-!
# Parameters with a colon and with braces

A parameter is written with a colon in front of its name, or with braces around it. A pattern in
which every colon is replaced by braces is read as before, but for the texts of its parts.
-/

set_option autoImplicit false

namespace RequestRouting

namespace Pattern

def braceChars : List Char → List Char
  | ':' :: name => '\x7b' :: (name ++ ['\x7d'])
  | cs => cs

/-- The part with braces around its name, if it has a colon in front of it. -/
def brace (raw : String) : String := String.ofList (braceChars raw.toList)

def respell (pattern : String) : String := Text.joinWith "/" ((Text.pieces '/' pattern).map brace)

/-- If the part is a parameter, it is written with a colon. -/
def ColonSpelled (raw : String) : Prop :=
  ∀ name, readSegment raw = .ok (.param name) → raw.toList.head? = some ':'

def WithColon (raw : String) : Prop :=
  (∃ segment, readSegment raw = .ok segment) ∧ ColonSpelled raw

end Pattern

def PatternPart.brace (p : PatternPart) : PatternPart := ⟨Pattern.brace p.raw, p.segment⟩

namespace Pattern

section

variable {cs : List Char} {raw other : String} {segment : Segment}

theorem Form.unique {other : Segment} (h : Form cs segment) (h' : Form cs other) :
    segment = other := by
  cases h with
  | literal hopen hclose hcolon hstar => cases h' with
    | literal _ _ _ _ => rfl
    | braced _ => simp at hopen
    | colon _ => simp at hcolon
    | star _ => simp at hstar
    | starAlone => simp at hstar
  | @braced name hname =>
    have hname' := (h'.spells_iff).1 (.braced name)
    have hcatchAll := mt h'.isCatchAll_iff.1 (by simp)
    cases other <;> simp_all [Segment.paramName, Segment.isCatchAll]
  | @colon name hname =>
    have hname' := (h'.spells_iff).1 (.colon name)
    have hcatchAll := mt h'.isCatchAll_iff.1 (by simp)
    cases other <;> simp_all [Segment.paramName, Segment.isCatchAll]
  | @star name hname =>
    have hname' := (h'.spells_iff).1 (.star hname.ne_nil)
    have hcatchAll := h'.isCatchAll_iff.2 rfl
    cases other <;> simp_all [Segment.paramName, Segment.isCatchAll]
  | starAlone => cases h' with
    | literal _ _ _ hstar => simp at hstar
    | star hname => exact absurd rfl hname.ne_nil
    | starAlone => rfl

theorem readSegment_eq_ok_iff : readSegment raw = .ok segment ↔ Form raw.toList segment := by
  refine ⟨form_of_readSegment, fun hform => ?_⟩
  cases hread : readSegment raw with
  | ok other => rw [(form_of_readSegment hread).unique hform]
  | error fault =>
    rcases (offends_of_readSegment hread [] []).1.of_form hform with
      ⟨-, hafter, -⟩ | ⟨_, _, -, hearlier, -⟩
    · exact absurd rfl hafter
    · exact absurd hearlier List.not_mem_nil

theorem form_braceChars_iff : Form (braceChars cs) segment ↔ Form cs segment := by
  unfold braceChars
  split
  · rename_i name
    constructor
    · intro h
      generalize hcs : '\x7b' :: (name ++ ['\x7d']) = braced at h
      cases h with
      | literal hopen _ _ _ => simp [← hcs] at hopen
      | braced hname =>
        rw [List.append_cancel_right (List.cons.inj hcs).2]
        exact .colon hname
      | colon _ => exact absurd (List.cons.inj hcs).1 (by decide)
      | star _ => exact absurd (List.cons.inj hcs).1 (by decide)
      | starAlone => exact absurd (List.cons.inj hcs).1 (by decide)
    · intro h
      generalize hcs : ':' :: name = colon at h
      cases h with
      | literal _ _ hcolon _ => simp [← hcs] at hcolon
      | braced _ => exact absurd (List.cons.inj hcs).1 (by decide)
      | colon hname =>
        rw [(List.cons.inj hcs).2]
        exact .braced hname
      | star _ => exact absurd (List.cons.inj hcs).1 (by decide)
      | starAlone => exact absurd (List.cons.inj hcs).1 (by decide)
  · exact Iff.rfl

theorem readSegment_brace_iff :
    readSegment (brace raw) = .ok segment ↔ readSegment raw = .ok segment := by
  rw [readSegment_eq_ok_iff, readSegment_eq_ok_iff, brace, String.toList_ofList,
    form_braceChars_iff]

theorem braceChars_of_head_ne (h : cs.head? ≠ some ':') : braceChars cs = cs := by
  unfold braceChars
  split
  · exact absurd rfl h
  · rfl

theorem brace_of_head_ne (h : raw.toList.head? ≠ some ':') : brace raw = raw := by
  rw [brace, braceChars_of_head_ne h, String.ofList_toList]

theorem head?_ne_colon (hread : readSegment raw = .ok segment)
    (hparam : ∀ name, segment ≠ .param name) : raw.toList.head? ≠ some ':' := by
  intro hhead
  obtain ⟨name, hraw⟩ := List.head?_eq_some_iff.1 hhead
  have hform := form_of_readSegment hread
  rw [hraw] at hform
  cases hform with
  | literal _ _ hcolon _ => exact hcolon rfl
  | colon _ => exact hparam _ rfl

theorem brace_of_literal {text : String} (hread : readSegment raw = .ok (.literal text)) :
    brace raw = raw := brace_of_head_ne (head?_ne_colon hread nofun)

theorem colonSpelled_of_head_ne (h : raw.toList.head? ≠ some '\x7b') : ColonSpelled raw := by
  intro name hread
  have hform := form_of_readSegment hread
  generalize raw.toList = cs at h hform
  cases hform with
  | braced _ => exact absurd rfl h
  | colon _ => rfl

theorem WithColon.eq_of_brace_eq (h : WithColon raw) (h' : WithColon other)
    (heq : brace raw = brace other) : raw = other := by
  obtain ⟨⟨segment, hread⟩, hcolon⟩ := h
  obtain ⟨⟨segment', hread'⟩, hcolon'⟩ := h'
  have hsame : readSegment other = .ok segment := by
    rw [← readSegment_brace_iff, ← heq, readSegment_brace_iff, hread]
  by_cases hparam : ∃ name, segment = .param name
  · obtain ⟨name, rfl⟩ := hparam
    obtain ⟨cs, hraw⟩ := List.head?_eq_some_iff.1 (hcolon name hread)
    obtain ⟨ds, hother⟩ := List.head?_eq_some_iff.1 (hcolon' name hsame)
    rw [brace, brace, hraw, hother, String.ofList_inj] at heq
    have hnames : cs = ds := List.append_cancel_right (List.cons.inj heq).2
    rw [← String.toList_inj, hraw, hother, hnames]
  · rw [not_exists] at hparam
    rwa [brace_of_head_ne (head?_ne_colon hread hparam),
      brace_of_head_ne (head?_ne_colon hsame hparam)] at heq

end

section

variable {pattern : String}

theorem brace_eq_empty_iff {raw : String} : brace raw = "" ↔ raw = "" := by
  rw [brace, String.ofList_eq_empty_iff, ← String.toList_eq_nil_iff]
  unfold braceChars
  split
  · rename_i hraw
    simp [hraw]
  · exact Iff.rfl

theorem slash_not_mem_brace {raw : String} (h : '/' ∉ raw.toList) : '/' ∉ (brace raw).toList := by
  rw [brace, String.toList_ofList]
  unfold braceChars
  split
  · rename_i name hraw
    simpa [hraw] using h
  · exact h

theorem pathParts_respell (pattern : String) :
    pathParts (respell pattern) = (pathParts pattern).map brace := by
  have hne : (Text.pieces '/' pattern).map brace ≠ [] := by
    rw [ne_eq, List.map_eq_nil_iff, Text.pieces, List.map_eq_nil_iff]
    exact List.splitOn_ne_nil _ _
  have hslash : ∀ piece ∈ (Text.pieces '/' pattern).map brace, '/' ∉ piece.toList := by
    intro piece hpiece
    obtain ⟨raw, hraw, rfl⟩ := List.mem_map.1 hpiece
    exact slash_not_mem_brace (Text.not_mem_of_mem_pieces hraw)
  have hempty : ∀ raw : String, (brace raw != "") = (raw != "") := by
    intro raw
    rw [Bool.eq_iff_iff, bne_iff_ne, bne_iff_ne, ne_eq, ne_eq, brace_eq_empty_iff]
  have hpieces : Text.pieces '/' (respell pattern) = (Text.pieces '/' pattern).map brace :=
    Text.pieces_joinWith hne hslash
  rw [pathParts, hpieces, List.filter_map]
  exact congrArg _ (List.filter_congr fun raw _ => hempty raw)

theorem toList_respell (pattern : String) : (respell pattern).toList =
    ['/'].intercalate ((pattern.toList.splitOn '/').map braceChars) := by
  have hbrace : ∀ cs : List Char, (brace (String.ofList cs)).toList = braceChars cs := by
    intro cs
    rw [brace, String.toList_ofList, String.toList_ofList]
  rw [respell, Text.toList_joinWith, Text.pieces, List.map_map, List.map_map]
  exact congrArg _ (List.map_congr_left fun cs _ => hbrace cs)

theorem braceChars_cons_head? (c : Char) (cs : List Char) (hc : c ≠ '/') :
    (braceChars (c :: cs)).head? ≠ some '/' := by
  unfold braceChars
  split
  · simp
  · simpa using hc

theorem head?_respell :
    (respell pattern).toList.head? = some '/' ↔ pattern.toList.head? = some '/' := by
  rw [toList_respell]
  cases hpattern : pattern.toList with
  | nil => simp [braceChars]
  | cons c cs =>
    rw [List.splitOn_cons_eq_if_modifyHead]
    obtain ⟨first, others, hsplit⟩ := List.exists_cons_of_ne_nil (List.splitOn_ne_nil '/' cs)
    by_cases hc : c = '/'
    · simp [hc, hsplit, List.intercalate_cons_cons, braceChars]
    · have hhead := braceChars_cons_head? c first hc
      obtain ⟨d, ds, hd⟩ : ∃ d ds, braceChars (c :: first) = d :: ds := by
        unfold braceChars
        split <;> exact ⟨_, _, rfl⟩
      rw [hd] at hhead
      rw [if_neg (by simpa using hc), hsplit, List.modifyHead_cons, List.map_cons, hd]
      cases others <;> simp_all [List.intercalate_cons_cons]

end

theorem toOption_readParts_brace (seen raws : List String) :
    (readParts seen (raws.map brace)).toOption =
      (readParts seen raws).toOption.map (·.map PatternPart.brace) := by
  have hnext : ∀ {result other : Except PatternFault (List PatternPart)} (raw : String)
      (segment : Segment),
      result.toOption = other.toOption.map (·.map PatternPart.brace) →
        (result.map (⟨brace raw, segment⟩ :: ·)).toOption =
          (other.map (⟨raw, segment⟩ :: ·)).toOption.map (·.map PatternPart.brace) := by
    intro result other raw segment h
    cases result <;> cases other <;> simp_all [Except.toOption, Except.map, PatternPart.brace]
  induction raws generalizing seen with
  | nil => rfl
  | cons raw rest ih =>
    rw [List.map_cons, readParts, readParts]
    cases hread : readSegment raw with
    | error fault =>
      cases hbrace : readSegment (brace raw) with
      | error other => rfl
      | ok segment => cases hread.symm.trans (readSegment_brace_iff.1 hbrace)
    | ok segment =>
      rw [readSegment_brace_iff.2 hread]
      simp only [List.isEmpty_map]
      split
      · rfl
      · split
        · exact hnext raw segment (ih seen)
        · split
          · rfl
          · exact hnext raw segment (ih _)

theorem toOption_parse_respell (pattern : String) :
    (parse (respell pattern)).toOption =
      (parse pattern).toOption.map (·.map PatternPart.brace) := by
  have hmapError : ∀ (result : Except PatternFault (List PatternPart)) (text : String),
      (result.mapError fun fault => (⟨text, fault⟩ : PatternError)).toOption = result.toOption := by
    intro result text
    cases result <;> rfl
  rw [parse, parse]
  by_cases hslash : pattern.toList.head? = some '/'
  · rw [if_pos hslash, if_pos (head?_respell.2 hslash), hmapError, hmapError, pathParts_respell]
    exact toOption_readParts_brace [] (pathParts pattern)
  · rw [if_neg hslash, if_neg (mt head?_respell.1 hslash)]
    rfl

theorem parse_respell_of_ok {pattern : String} {parts : List PatternPart}
    (h : parse pattern = .ok parts) :
    parse (respell pattern) = .ok (parts.map PatternPart.brace) := by
  have hparse := toOption_parse_respell pattern
  rw [h] at hparse
  cases hrespelled : parse (respell pattern) <;> simp_all [Except.toOption]

theorem parse_respell_of_error {pattern : String} {e : PatternError}
    (h : parse pattern = .error e) : ∃ other, parse (respell pattern) = .error other := by
  have hparse := toOption_parse_respell pattern
  rw [h] at hparse
  cases hrespelled : parse (respell pattern) <;> simp_all [Except.toOption]

end Pattern

end RequestRouting
