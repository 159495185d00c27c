import Mathlib.Data.List.TakeWhile
import RequestRouting.Proofs.Text.Numerals
import RequestRouting.Yaml.Reading

/-!
# YAML documents of one entry

A word, a colon and another word on one line are a mapping with one entry, both of which are plain
scalars.
-/

set_option autoImplicit false

namespace RequestRouting.Yaml

def marks : List Char := "-?:,[]\x7b\x7d#&*!|>'\"%@`".toList

/-- The characters that stand for themselves in a plain scalar, wherever they are. -/
structure Plain (c : Char) : Prop where
  permitted : isPermitted c = true
  inked : isBlank c = false
  inline : isBreak c = false
  unmarked : c ∉ '.' :: marks
  octet : c.utf8Size = 1

instance (c : Char) : Decidable (Plain c) :=
  decidable_of_iff (isPermitted c = true ∧ isBlank c = false ∧ isBreak c = false ∧
      c ∉ '.' :: marks ∧ c.utf8Size = 1)
    ⟨fun ⟨hpermitted, hinked, hinline, hunmarked, hoctet⟩ =>
      ⟨hpermitted, hinked, hinline, hunmarked, hoctet⟩,
    fun h => ⟨h.permitted, h.inked, h.inline, h.unmarked, h.octet⟩⟩

theorem Plain.beq_mark {c m : Char} (h : Plain c) (hm : m ∈ marks) : (c == m) = false := by
  rw [beq_eq_false_iff_ne]
  rintro rfl
  exact h.unmarked (List.mem_cons_of_mem '.' hm)

structure Word (cs : List Char) : Prop where
  ne_nil : cs ≠ []
  plain : ∀ c ∈ cs, Plain c

instance (cs : List Char) : Decidable (Word cs) :=
  have := List.decidableBAll Plain cs
  decidable_of_iff (cs ≠ [] ∧ ∀ c ∈ cs, Plain c)
    ⟨fun ⟨hne, hplain⟩ => ⟨hne, hplain⟩, fun h => ⟨h.ne_nil, h.plain⟩⟩

def Solid (cs : List Char) : Prop :=
  ∀ c ∈ cs.head?, isBlank c = false ∧ isBreak c = false ∧ c ≠ '#' ∧ c ≠ Char.ofNat 0xFEFF

theorem Plain.solid {c : Char} (h : Plain c) (rest : List Char) : Solid (c :: rest) := by
  intro d hd
  obtain rfl : c = d := by simpa using hd
  refine ⟨h.inked, h.inline, ?_, ?_⟩
  · rintro rfl
    exact h.unmarked (by decide)
  · rintro rfl
    have hoctet := h.octet
    revert hoctet
    decide

theorem octetLength_of_plain {cs : List Char} (h : ∀ c ∈ cs, Plain c) :
    octetLength cs = cs.length := by
  suffices hfrom : ∀ n, cs.foldl (fun n c => n + c.utf8Size) n = n + cs.length by
    rw [octetLength, hfrom, Nat.zero_add]
  induction cs with
  | nil => exact fun n => rfl
  | cons c cs ih =>
    obtain ⟨hc, hcs⟩ := List.forall_mem_cons.mp h
    intro n
    rw [List.foldl_cons, ih hcs, hc.octet, List.length_cons, Nat.add_assoc, Nat.add_comm 1]

/-! ## Gaps -/

namespace Cursor

variable {c : Cursor}

@[simp]
theorem skip_zero (c : Cursor) : c.skip 0 = c := rfl

theorem rest_skip {w rest : List Char} (h : c.rest = w ++ rest) :
    (c.skip w.length).rest = rest := by
  rw [skip, h]
  exact List.drop_left

theorem lineBreak?_of_solid (h : Solid c.rest) : c.lineBreak? = none := by
  rw [lineBreak?]
  split
  · rename_i rest hrest
    have hbreak := (h '\r' (by simp [hrest])).2.1
    cases hbreak
  · rename_i b rest _ hrest
    rw [if_neg (by simp [(h b (by simp [hrest])).2.1])]
  · rfl

theorem atDocumentMark_of_plain {x : Char} {rest : List Char} (hrest : c.rest = x :: rest)
    (h : Plain x) : c.atDocumentMark = false := by
  rw [atDocumentMark, Bool.and_eq_false_iff, hrest]
  right
  split
  · rename_i heq
    obtain rfl := (List.cons.inj heq).1
    exact absurd (by decide) h.unmarked
  · rename_i heq
    obtain rfl := (List.cons.inj heq).1
    exact absurd (by decide) h.unmarked
  · rfl

end Cursor

theorem Scanner.skipGap_spaces {c : Cursor} {count : Nat} {more : List Char}
    (hrest : c.rest = List.replicate count ' ' ++ more) (h : Solid more) (fuel : Nat)
    (mayBeKey : Bool) : skipGap false (fuel + 1) mayBeKey c = (mayBeKey, c.skip count) := by
  have hmark : c.skipOrderMark = c := by
    have hhead : (c.rest.head? == some (Char.ofNat 0xFEFF)) = false := by
      rw [hrest]
      cases count with
      | zero =>
        cases hmore : more.head? with
        | none => simp [hmore]
        | some x => simpa [hmore] using (h x hmore).2.2.2
      | succ count => rfl
    rw [Cursor.skipOrderMark, hhead, Bool.and_false]
    rfl
  have hskip : c.skipWhile (fun x => x == ' ' || ((false || !mayBeKey) && x == '\t')) =
      c.skip count := by
    have htake : more.takeWhile (fun x => x == ' ' || ((false || !mayBeKey) && x == '\t')) = [] := by
      cases more with
      | nil => rfl
      | cons x rest =>
        have hblank := (h x rfl).1
        simp only [isBlank, Bool.or_eq_false_iff] at hblank
        simp [hblank.1, hblank.2]
    rw [Cursor.skipWhile, hrest, List.takeWhile_append_of_pos (by simp), htake]
    simp
  have hbehind : (c.skip count).rest = more := by
    rw [Cursor.skip, hrest]
    simp
  have hcomment : ¬ (c.skip count).rest.head? = some '#' := by
    rw [hbehind]
    exact fun heq => (h '#' heq).2.2.1 rfl
  have hbreak : (c.skip count).lineBreak? = none :=
    Cursor.lineBreak?_of_solid (hbehind ▸ h)
  rw [skipGap]
  simp only [hmark, hskip, if_neg hcomment, hbreak]

theorem Scanner.levelsAbove_of_le {bound level : Nat} (h : level ≤ bound) (outer : List Nat) :
    levelsAbove bound level outer = (0, level, outer) := by
  cases outer with
  | nil => rfl
  | cons next outer => rw [levelsAbove, if_neg (by omega)]

theorem Scanner.toToken?_spaces {s : Scanner} (count : Nat) {more : List Char}
    {key : Option PendingKey} (hflow : s.flow = [])
    (hrest : s.cursor.rest = List.replicate count ' ' ++ more) (h : Solid more)
    (hlevel : s.level ≤ s.cursor.column + count + 1)
    (hkey : PendingKey.expire? (s.cursor.skip count) s.key = some key) :
    s.toToken? = some { s with cursor := s.cursor.skip count, key := key } := by
  have hgap := skipGap_spaces hrest h s.cursor.rest.length s.mayBeKey
  have hinFlow : s.inFlow = false := by simp [inFlow, hflow]
  have habove := levelsAbove_of_le hlevel s.outer
  rw [toToken?, hinFlow, hgap]
  simp only [hkey, hflow, List.mapM_nil, Option.pure_def, Option.bind_eq_bind, Option.bind_some]
  rw [unroll, if_neg (by simp [inFlow])]
  simp only [Cursor.skip, habove]
  simp

/-! ## Words -/

def Ends (rest : List Char) : Prop := rest = [] ∨ ∃ more, rest = ':' :: ' ' :: more

theorem plainRun_word {w rest : List Char} (hw : ∀ c ∈ w, Plain c) (hrest : Ends rest) :
    plainRun false (w ++ rest) = some w := by
  induction w with
  | nil =>
    rcases hrest with rfl | ⟨more, rfl⟩
    · rfl
    · rfl
  | cons c w ih =>
    obtain ⟨hc, hbehind⟩ := List.forall_mem_cons.mp hw
    have hcolon : (c == ':') = false := hc.beq_mark (by decide)
    rw [List.cons_append, plainRun, ih hbehind]
    simp [hc.inked, hc.inline, hcolon]

theorem scanPlain_word {w rest : List Char} (hw : Word w) (hrest : Ends rest) {c : Cursor}
    (hc : c.rest = w ++ rest) (level fuel : Nat) :
    scanPlain false level (fuel + 1) {} false c = some (w, false, c.skip w.length) := by
  obtain ⟨x, more, rfl⟩ := List.exists_cons_of_ne_nil hw.ne_nil
  have hx : Plain x := hw.plain x List.mem_cons_self
  have hmark : (c.atDocumentMark || c.rest.head? == some '#') = false := by
    rw [Cursor.atDocumentMark_of_plain hc hx, hc, Bool.false_or]
    simpa using (hx.solid [] x rfl).2.2.1
  have hbehind : (c.skip (x :: more).length).rest = rest := Cursor.rest_skip hc
  have hgap : Gap.scan level rest.length {} false (c.skip (x :: more).length) =
      some ({}, false, c.skip (x :: more).length) := by
    rcases hrest with rfl | ⟨others, rfl⟩
    · rfl
    · have hbreak : (c.skip (x :: more).length).lineBreak? = none := by
        refine Cursor.lineBreak?_of_solid ?_
        rw [hbehind]
        rintro d ⟨⟩
        decide
      rw [List.length_cons, Gap.scan, hbreak]
      simp only [hbehind]
      rfl
  have hstop : (atBlankOrEnd rest && !rest.isEmpty) = false := by
    rcases hrest with rfl | ⟨others, rfl⟩
    · rfl
    · rfl
  rw [scanPlain, hmark, hc, plainRun_word hw.plain hrest]
  simp only [Bool.false_eq_true, if_false, hbehind, hgap, hstop, Bool.false_and]
  rfl

/-! ## Tokens

The first word may be a key, the colon makes it one, and the second word is its value. -/

namespace Scanner

variable {s : Scanner} {w rest : List Char}

theorem token?_plain {x : Char} (hx : Plain x) (hflow : s.flow = [])
    (hrest : s.cursor.rest = x :: rest) : s.token? x rest = s.plain? := by
  have hmark : ∀ m ∈ marks, (x == m) = false := fun m hm => hx.beq_mark hm
  have hnone : marks.contains x = false := by
    rw [List.contains_eq_any_beq, List.any_eq_false]
    intro m hm
    rw [hmark m hm]
    exact Bool.false_ne_true
  have hstarts : startsPlain false (x :: rest) = true := by
    change (!(isBlank x || isBreak x || marks.contains x) || _ || _) = true
    rw [hx.inked, hx.inline, hnone, Bool.or_self, Bool.or_self, Bool.not_false, Bool.true_or,
      Bool.true_or]
  have hinFlow : s.inFlow = false := by simp [inFlow, hflow]
  rw [token?, Cursor.atDocumentMark_of_plain hrest hx, hinFlow, hstarts]
  simp only [hmark '%' (by decide), hmark '[' (by decide), hmark '\x7b' (by decide),
    hmark ']' (by decide), hmark '\x7d' (by decide), hmark ',' (by decide), hmark '-' (by decide),
    hmark '?' (by decide), hmark ':' (by decide), hmark '*' (by decide), hmark '&' (by decide),
    hmark '!' (by decide), hmark '|' (by decide), hmark '>' (by decide), hmark '\'' (by decide),
    hmark '"' (by decide), Bool.and_false, Bool.false_and, Bool.or_self, Bool.false_eq_true,
    if_false, if_true]

theorem plain?_word {s' : Scanner} (hw : Word w) (hrest : Ends rest) (hsave : s.saveKey? = some s')
    (hflow : s'.flow = []) (hcursor : s'.cursor.rest = w ++ rest) :
    s.plain? = some { s' with
      cursor := s'.cursor.skip w.length, mayBeKey := false
      tokens := s'.tokens ++ [.scalar .plain (String.ofList w)] } := by
  have hinFlow : s'.inFlow = false := by simp [inFlow, hflow]
  rw [plain?, hsave]
  simp only [Option.bind_eq_bind, Option.bind_some, hinFlow, scanPlain_word hw hrest hcursor,
    Option.pure_def, emit]

theorem run?_token {s' s'' : Scanner} {x : Char} (hgap : s.toToken? = some s')
    (hrest : s'.cursor.rest = x :: rest) (htoken : s'.token? x rest = some s'') (fuel : Nat) :
    run? (fuel + 1) s = run? fuel s'' := by
  rw [run?, hgap]
  simp only [hrest, htoken, Option.bind_some]

theorem run?_first (hw : Word w) (hrest : Ends rest) (fuel : Nat) :
    run? (fuel + 1) { cursor := { rest := w ++ rest } } = run? fuel
      { cursor := Cursor.skip { rest := w ++ rest } w.length
        tokens := [.scalar .plain (String.ofList w)]
        mayBeKey := false
        key := some ⟨false, 0, 0, 0, 0⟩ } := by
  obtain ⟨x, more, rfl⟩ := List.exists_cons_of_ne_nil hw.ne_nil
  have hx : Plain x := hw.plain x List.mem_cons_self
  let start : Scanner := { cursor := { rest := x :: more ++ rest } }
  have hgap : start.toToken? = some start :=
    toToken?_spaces 0 rfl rfl (hx.solid _) (Nat.zero_le _) rfl
  have hsave : start.saveKey? = some { start with key := some ⟨false, 0, 0, 0, 0⟩ } := rfl
  refine run?_token hgap rfl ?_ fuel
  rw [token?_plain hx rfl rfl]
  exact plain?_word hw hrest hsave rfl rfl

theorem run?_colon {c : Cursor} (hoffset : c.offset ≤ 1024) (hline : c.line = 0)
    (hcolumn : c.column ≠ 0) (hrest : c.rest = ':' :: ' ' :: rest) (t : Token) (fuel : Nat) :
    run? (fuel + 1)
      { cursor := c, tokens := [t], mayBeKey := false, key := some ⟨false, 0, 0, 0, 0⟩ } =
    run? fuel
      { cursor := c.skip 1, tokens := [.blockMapping, .key, t, .value], mayBeKey := false
        level := 1, outer := [0] } := by
  let start : Scanner :=
    { cursor := c, tokens := [t], mayBeKey := false, key := some ⟨false, 0, 0, 0, 0⟩ }
  have hsolid : Solid (':' :: ' ' :: rest) := by
    rintro d ⟨⟩
    decide
  have hexpire : PendingKey.expire? (c.skip 0) start.key = some start.key := by
    simp [PendingKey.expire?, PendingKey.isStale, start, hline, hoffset]
  have hgap : start.toToken? = some start :=
    toToken?_spaces 0 rfl hrest hsolid (Nat.zero_le _) hexpire
  have hfirst : (start.cursor.column == 0) = false := by simpa using hcolumn
  have hmark : start.cursor.atDocumentMark = false := by
    rw [Cursor.atDocumentMark, hfirst, Bool.false_and]
  refine run?_token hgap hrest ?_ fuel
  have htoken : start.token? ':' (' ' :: rest) = start.valueMark? := by
    rw [token?, hmark, hfirst]
    rfl
  rw [htoken]
  rfl

theorem run?_second (hw : Word w) {c : Cursor} (hrest : c.rest = ' ' :: w) (ts : List Token)
    (fuel : Nat) :
    run? (fuel + 1)
      { cursor := c, tokens := ts, mayBeKey := false, level := 1, outer := [0] } =
    run? fuel
      { cursor := (c.skip 1).skip w.length, tokens := ts ++ [.scalar .plain (String.ofList w)]
        mayBeKey := false, level := 1, outer := [0] } := by
  obtain ⟨x, more, rfl⟩ := List.exists_cons_of_ne_nil hw.ne_nil
  have hx : Plain x := hw.plain x List.mem_cons_self
  let start : Scanner :=
    { cursor := c, tokens := ts, mayBeKey := false, level := 1, outer := [0] }
  let next : Scanner := { start with cursor := c.skip 1 }
  have hgap : start.toToken? = some next :=
    toToken?_spaces 1 rfl hrest (hx.solid _) (Nat.le_add_left 1 _) rfl
  have hbehind : (c.skip 1).rest = x :: more := by
    rw [Cursor.skip, hrest]
    rfl
  have hword : next.cursor.rest = (x :: more) ++ [] := by rw [hbehind, List.append_nil]
  have hsave : next.saveKey? = some next := rfl
  refine run?_token hgap hbehind ?_ fuel
  rw [token?_plain hx rfl hbehind]
  exact plain?_word hw (.inl rfl) hsave rfl hword

theorem run?_end {c : Cursor} (hrest : c.rest = []) (ts : List Token) (fuel : Nat) :
    run? (fuel + 1) { cursor := c, tokens := ts, mayBeKey := false, level := 1, outer := [0] } =
      some (ts ++ [.blockEnd]) := by
  let start : Scanner :=
    { cursor := c, tokens := ts, mayBeKey := false, level := 1, outer := [0] }
  have hgap : start.toToken? = some start :=
    toToken?_spaces 0 rfl hrest (fun _ h => nomatch h) (Nat.le_add_left 1 _) rfl
  rw [run?, hgap]
  simp only [start, hrest]
  rfl

end Scanner

theorem tokens?_entry {k v : List Char} (hk : Word k) (hlength : k.length ≤ 1024) (hv : Word v) :
    tokens? (String.ofList (k ++ ':' :: ' ' :: v)) =
      some [.blockMapping, .key, .scalar .plain (String.ofList k), .value,
        .scalar .plain (String.ofList v), .blockEnd] := by
  have hpermitted : (k ++ ':' :: ' ' :: v).all isPermitted = true := by
    rw [List.all_append, Bool.and_eq_true, List.all_eq_true]
    refine ⟨fun c hc => (hk.plain c hc).permitted, ?_⟩
    rw [List.all_cons, List.all_cons, show isPermitted ':' = true by decide,
      show isPermitted ' ' = true by decide, Bool.true_and, Bool.true_and, List.all_eq_true]
    exact fun c hc => (hv.plain c hc).permitted
  let c : Cursor := Cursor.skip { rest := k ++ ':' :: ' ' :: v } k.length
  have hoffset : c.offset ≤ 1024 := by
    simpa [c, Cursor.skip, octetLength_of_plain hk.plain] using hlength
  have hcolumn : c.column ≠ 0 := by simpa [c, Cursor.skip] using hk.ne_nil
  have hrest : c.rest = ':' :: ' ' :: v := Cursor.rest_skip rfl
  have hspace : (c.skip 1).rest = ' ' :: v := by
    rw [Cursor.skip, hrest]
    rfl
  have hend : (((c.skip 1).skip 1).skip v.length).rest = [] := by
    refine Cursor.rest_skip ?_
    rw [Cursor.skip, hspace, List.append_nil]
    rfl
  have hlong : ∃ fuel, (k ++ ':' :: ' ' :: v).length + 1 = fuel + 1 + 1 + 1 + 1 := by
    have hk_pos := List.length_pos_iff.mpr hk.ne_nil
    have hv_pos := List.length_pos_iff.mpr hv.ne_nil
    refine ⟨k.length + v.length - 1, ?_⟩
    rw [List.length_append, List.length_cons, List.length_cons]
    omega
  obtain ⟨fuel, hfuel⟩ := hlong
  rw [tokens?, String.toList_ofList, if_pos hpermitted, hfuel,
    Scanner.run?_first hk (.inr ⟨v, rfl⟩), Scanner.run?_colon hoffset rfl hcolumn hrest,
    Scanner.run?_second hv hspace, Scanner.run?_end hend]
  rfl

namespace Node

def entry (name text : String) : Node :=
  .mapping [(.scalar .plain none name, .scalar .plain none text)]

theorem parse?_entry (name text : String) (hname : Word name.toList)
    (hlength : name.length ≤ 1024) (htext : Word text.toList) :
    parse? (name ++ ": " ++ text) = some (entry name text) := by
  have hchars : name ++ ": " ++ text =
      String.ofList (name.toList ++ ':' :: ' ' :: text.toList) := by
    rw [← String.toList_inj]
    simp
  rw [parse?, hchars, tokens?_entry hname (String.length_toList ▸ hlength) htext,
    String.ofList_toList, String.ofList_toList]
  rfl

theorem word_numeral (n : Nat) : Word (toString n).toList := by
  rw [Text.toList_toString]
  refine ⟨Nat.toDigits_ne_nil, fun c hc => ?_⟩
  exact Text.of_isDigit Plain (by decide) (Text.isDigit_toDigits n c hc)

theorem readNatural_toString {n : Nat} (h : n < UInt64.size) :
    readNatural (toString n) = some n := by
  have hdigits := Text.digits_toDigits h
  have hunsigned : ∀ rest, Nat.toDigits 10 n ≠ '+' :: rest := by
    intro rest heq
    have hplus := hdigits.digits '+' (heq ▸ List.mem_cons_self)
    rw [Text.isDigit_plus] at hplus
    cases hplus
  have halone : ∀ m rest, Nat.toDigits 10 n ≠ '0' :: m :: rest := fun m rest heq =>
    nomatch Text.eq_nil_of_toDigits_eq_cons heq
  have hbased : ∀ marker base, based? marker base (Nat.toDigits 10 n) = none := by
    intro marker base
    rw [based?.eq_def]
    split
    · rename_i m rest heq
      exact absurd heq (halone m rest)
    · rfl
  rw [readNatural, Text.toList_toString]
  simp only [hbased]
  exact Text.readNumeral_ten hdigits

theorem openness?_toString (n : Nat) :
    openness? (.scalar .plain none (toString n)) = some false := by
  have hwords : ∀ word ∈ ["", "null", "Null", "NULL", "~"],
      ¬ (word.toList ≠ [] ∧ word.toList.all Char.isDigit = true) := by decide
  have hne : ∀ word ∈ ["", "null", "Null", "NULL", "~"], (toString n == word) = false := by
    intro word hword
    rw [beq_eq_false_iff_ne]
    rintro rfl
    refine hwords _ hword ?_
    rw [Text.toList_toString]
    exact ⟨Nat.toDigits_ne_nil, List.all_eq_true.mpr (Text.isDigit_toDigits n)⟩
  have hempty : (toString n).isEmpty = false := by
    rw [String.isEmpty_eq_false_iff, ← beq_eq_false_iff_ne]
    exact hne "" (by decide)
  have hnull : namesNull (toString n) = false := by
    rw [namesNull, List.contains_eq_any_beq, List.any_eq_false]
    intro word hword
    rw [hne word (List.mem_cons_of_mem "" hword)]
    exact Bool.false_ne_true
  rw [openness?, hempty, hnull]
  rfl

end Node

end RequestRouting.Yaml
