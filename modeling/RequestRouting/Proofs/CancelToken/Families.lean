import Mathlib.Data.List.Induction
import Mathlib.Logic.Relation
import RequestRouting.Proofs.CancelToken.Sharing

/-!
# Families of tokens

Tokens are made, cloned, cancelled and asked, one call after the other. A token and its clones, with
the clones of these, are a family. Whether a token is cancelled is told by what its family has been
through, and by nothing else.
-/

set_option autoImplicit false

namespace RequestRouting

abbrev TokenHistory := List TokenStep

namespace TokenHistory

def pool (h : TokenHistory) : TokenPool := TokenPool.run {} h

def Valid (h : TokenHistory) : Prop := ({} : TokenPool).admits h = true

def answer (h : TokenHistory) (i : Nat) : Bool := (h.pool.isCancelled i).1

def Cloned (h : TokenHistory) (i j : Nat) : Prop :=
  ∃ before : TokenHistory, before ++ [.clone i] <+: h ∧ (before.pool.clone i).1 = j

/-- One of the tokens comes from the other one, or both from others of the family, by cloning. -/
def Family (h : TokenHistory) : Nat → Nat → Prop := Relation.EqvGen h.Cloned

def Expired (h : TokenHistory) (i : Nat) : Prop :=
  ∃ (before : TokenHistory) (origin : TokenOrigin), before ++ [.make origin] <+: h ∧
    (before.pool.new origin.signal).1 = i ∧ origin.expired = true

variable {h before later : TokenHistory} {s : TokenStep} {i j : Nat}

open TokenPool (getElem?_extended)

theorem pool_append (h later : TokenHistory) : pool (h ++ later) = h.pool.run later :=
  List.foldl_append ..

theorem pool_append_singleton (h : TokenHistory) (s : TokenStep) :
    pool (h ++ [s]) = h.pool.step s := pool_append h [s]

theorem valid_append : Valid (h ++ later) ↔ h.Valid ∧ h.pool.admits later = true := by
  rw [Valid, TokenPool.admits_append, Bool.and_eq_true]
  rfl

theorem Valid.initial (hvalid : h.Valid) (hbefore : before <+: h) : before.Valid := by
  obtain ⟨rest, rfl⟩ := hbefore
  exact (valid_append.1 hvalid).1

theorem Valid.wellFormed (hvalid : h.Valid) : h.pool.WellFormed := by
  induction h using List.reverseRecOn with
  | nil => exact fun place hplace => absurd hplace List.not_mem_nil
  | append_singleton h s ih =>
    obtain ⟨hvalid, hadmitted⟩ := valid_append.1 hvalid
    rw [pool_append_singleton]
    exact (ih hvalid).step hadmitted

theorem tokens_extended (hbefore : before <+: h) : before.pool.tokens <+: h.pool.tokens := by
  obtain ⟨rest, rfl⟩ := hbefore
  rw [pool_append]
  exact before.pool.tokens_prefix_run rest

theorem lt_extended (hbefore : before <+: h) (hi : i < before.pool.tokens.length) :
    i < h.pool.tokens.length := Nat.lt_of_lt_of_le hi (tokens_extended hbefore).length_le

theorem Cloned.place_eq (hvalid : h.Valid) (hcloned : h.Cloned i j) :
    h.pool.tokens[i]? = h.pool.tokens[j]? := by
  obtain ⟨before, hbefore, rfl⟩ := hcloned
  have hadmitted := (valid_append.1 (hvalid.initial hbefore)).2
  have htokens := tokens_extended hbefore
  rw [pool_append_singleton] at htokens
  have hsource := getElem?_extended (before.pool.tokens_prefix_step (.clone i))
    (TokenPool.place_of_target hadmitted rfl)
  have hclone : (before.pool.step (.clone i)).tokens[before.pool.tokens.length]? =
      some (before.pool.tokens.getD i 0) := List.getElem?_concat_length
  exact (getElem?_extended htokens hsource).trans (getElem?_extended htokens hclone).symm

theorem Family.place_eq (hvalid : h.Valid) (hfamily : h.Family i j) :
    h.pool.tokens[i]? = h.pool.tokens[j]? :=
  congrArg (Quot.lift (fun i => h.pool.tokens[i]?) fun _ _ => Cloned.place_eq hvalid)
    (Quot.eqvGen_sound hfamily)

theorem Family.extended (hfamily : before.Family i j) (hbefore : before <+: h) : h.Family i j :=
  Relation.EqvGen.mono (fun _ _ ⟨start, hstart, hnumber⟩ =>
    ⟨start, hstart.trans hbefore, hnumber⟩) _ _ hfamily

theorem Family.shares (hfamily : h.Family i j) (hvalid : h.Valid) (hi : i < h.pool.tokens.length) :
    h.pool.Shares i j := by
  have hplace := List.getElem?_eq_getElem hi
  exact ⟨_, hplace, hfamily.place_eq hvalid ▸ hplace⟩

theorem alone_or_of_family (hvalid : Valid (h ++ [s]))
    (hi : i < (pool (h ++ [s])).tokens.length) :
    (∀ j, (pool (h ++ [s])).Shares i j → j = i) ∨
      ∃ k < h.pool.tokens.length, Family (h ++ [s]) i k := by
  obtain ⟨hbefore, hadmitted⟩ := valid_append.1 hvalid
  rcases Nat.lt_or_ge i h.pool.tokens.length with hold | hnew
  · exact .inr ⟨i, hold, .refl i⟩
  · rw [pool_append_singleton] at hi ⊢
    obtain ⟨rfl, ⟨origin, rfl⟩ | ⟨source, rfl⟩⟩ := TokenPool.made_by_step hnew hi
    · refine .inl fun j hshares => ?_
      rcases Nat.lt_or_ge j h.pool.tokens.length with hj | hj
      · exact absurd hshares.symm (TokenPool.not_shares_make hbefore.wellFormed hj origin)
      · exact (TokenPool.made_by_step hj hshares.lt).1
    · have hcloned : Cloned (h ++ [.clone source]) source h.pool.tokens.length :=
        ⟨h, List.prefix_rfl, rfl⟩
      exact .inr ⟨source, TokenPool.lt_of_admits hadmitted rfl, .symm _ _ (.rel _ _ hcloned)⟩

theorem family_of_shares (hvalid : h.Valid) (hshares : h.pool.Shares i j) : h.Family i j := by
  induction h using List.reverseRecOn generalizing i j with
  | nil => exact absurd hshares.lt (Nat.not_lt_zero j)
  | append_singleton h s ih =>
    obtain ⟨hbefore, -⟩ := valid_append.1 hvalid
    have hi := hshares.symm.lt
    have hj := hshares.lt
    rcases alone_or_of_family hvalid hi with halone | ⟨k, hk, hik⟩
    · rw [halone j hshares]
      exact .refl i
    · rcases alone_or_of_family hvalid hj with halone | ⟨l, hl, hjl⟩
      · rw [halone i hshares.symm]
        exact .refl j
      · have hkl := ((hik.shares hvalid hi).symm.trans hshares).trans (hjl.shares hvalid hj)
        rw [pool_append_singleton] at hkl
        have hfamily : Family (h ++ [s]) k l :=
          (ih hbefore (TokenPool.shares_of_step hk hl hkl)).extended (List.prefix_append ..)
        exact (hik.trans _ _ _ hfamily).trans _ _ _ (hjl.symm _ _)

theorem family_iff (hvalid : h.Valid) (hi : i < h.pool.tokens.length) :
    h.Family i j ↔ h.pool.Shares i j :=
  ⟨fun hfamily => hfamily.shares hvalid hi, family_of_shares hvalid⟩

theorem expired_append_singleton : Expired (h ++ [s]) i ↔ h.Expired i ∨
    ∃ origin, s = .make origin ∧ h.pool.tokens.length = i ∧ origin.expired = true := by
  constructor
  · rintro ⟨before, origin, hbefore, hnumber, hexpired⟩
    rcases List.prefix_concat_iff.1 hbefore with heq | hbefore
    · obtain ⟨rfl, hs⟩ := List.append_inj' heq rfl
      exact .inr ⟨origin, (List.singleton_inj.1 hs).symm, hnumber, hexpired⟩
    · exact .inl ⟨before, origin, hbefore, hnumber, hexpired⟩
  · rintro (⟨before, origin, hbefore, hrest⟩ | ⟨origin, rfl, hrest⟩)
    · exact ⟨before, origin, hbefore.trans (List.prefix_append ..), hrest⟩
    · exact ⟨h, origin, List.prefix_rfl, hrest⟩

theorem Expired.lt (hexpired : h.Expired i) : i < h.pool.tokens.length := by
  obtain ⟨before, origin, hbefore, rfl, -⟩ := hexpired
  refine lt_extended hbefore ?_
  rw [pool_append_singleton]
  exact before.pool.lt_make origin

theorem Valid.lt_of_cancel (hvalid : h.Valid) (hcancel : .cancel i ∈ h) :
    i < h.pool.tokens.length := by
  obtain ⟨before, rest, rfl⟩ := List.append_of_mem hcancel
  have hadmitted := (valid_append.1 hvalid).2
  rw [← List.singleton_append, TokenPool.admits_append, Bool.and_eq_true] at hadmitted
  exact lt_extended (List.prefix_append before _) (TokenPool.lt_of_admits hadmitted.1 rfl)

def Raised (h : TokenHistory) (i : Nat) : Prop := h.Expired i ∨ .cancel i ∈ h

theorem raised_append_singleton : Raised (h ++ [s]) i ↔ h.Raised i ∨ s = .cancel i ∨
    ∃ origin, s = .make origin ∧ h.pool.tokens.length = i ∧ origin.expired = true := by
  rw [Raised, expired_append_singleton, List.mem_append, List.mem_singleton, Raised,
    eq_comm (b := s)]
  exact or_or_or_comm.trans (or_congr_right or_comm)

theorem Valid.lt_of_raised (hvalid : h.Valid) (hraised : h.Raised i) :
    i < h.pool.tokens.length := hraised.elim Expired.lt hvalid.lt_of_cancel

theorem answer_eq (h : TokenHistory) (i : Nat) : h.answer i = (h.pool.signal i).isCancelled := rfl

theorem answer_of_shares (hshares : h.pool.Shares i j) : h.answer i = h.answer j :=
  congrArg CancelSignal.isCancelled hshares.signal_eq

theorem answer_append_singleton (hvalid : Valid (h ++ [s])) (hi : i < h.pool.tokens.length) :
    answer (h ++ [s]) i = true ↔
      h.answer i = true ∨ ∃ j, s = .cancel j ∧ h.pool.Shares i j := by
  obtain ⟨hbefore, hadmitted⟩ := valid_append.1 hvalid
  rw [answer_eq, pool_append_singleton]
  exact TokenPool.isCancelled_step hbefore.wellFormed hadmitted hi

def Explained (h : TokenHistory) (i : Nat) : Prop :=
  h.answer i = true ↔ ∃ j, h.pool.Shares i j ∧ h.Raised j

theorem Explained.of_shares (hexplained : h.Explained j) (hshares : h.pool.Shares i j) :
    h.Explained i := by
  rw [Explained] at hexplained ⊢
  rw [answer_of_shares hshares, hexplained]
  exact exists_congr fun k => and_congr_left fun _ => ⟨hshares.trans, hshares.symm.trans⟩

theorem Explained.append_singleton (hexplained : h.Explained i) (hvalid : Valid (h ++ [s]))
    (hi : i < h.pool.tokens.length) : Explained (h ++ [s]) i := by
  obtain ⟨hbefore, hadmitted⟩ := valid_append.1 hvalid
  rw [Explained] at hexplained ⊢
  rw [answer_append_singleton hvalid hi, hexplained, pool_append_singleton]
  constructor
  · rintro (⟨j, hshares, hraised⟩ | ⟨j, rfl, hshares⟩)
    · exact ⟨j, hshares.step s, raised_append_singleton.2 (.inl hraised)⟩
    · exact ⟨j, hshares.step _, raised_append_singleton.2 (.inr (.inl rfl))⟩
  · rintro ⟨j, hshares, hraised⟩
    rcases raised_append_singleton.1 hraised with hraised | rfl | ⟨origin, rfl, rfl, -⟩
    · have hj := hbefore.lt_of_raised hraised
      exact .inl ⟨j, TokenPool.shares_of_step hi hj hshares, hraised⟩
    · have hj := TokenPool.lt_of_admits hadmitted rfl
      exact .inr ⟨j, rfl, TokenPool.shares_of_step hi hj hshares⟩
    · exact absurd hshares (TokenPool.not_shares_make hbefore.wellFormed hi origin)

theorem explained_make (hvalid : h.Valid) (origin : TokenOrigin) :
    Explained (h ++ [.make origin]) h.pool.tokens.length := by
  rw [Explained, answer_eq, pool_append_singleton, TokenPool.signal_make,
    TokenOrigin.isCancelled_signal]
  constructor
  · intro hexpired
    refine ⟨h.pool.tokens.length, TokenPool.shares_self (h.pool.lt_make origin), ?_⟩
    exact raised_append_singleton.2 (.inr (.inr ⟨origin, rfl, rfl, hexpired⟩))
  · rintro ⟨j, hshares, hraised⟩
    rcases raised_append_singleton.1 hraised with hraised | hcancel | ⟨_, hmake, -, hexpired⟩
    · have hj := hvalid.lt_of_raised hraised
      exact absurd hshares.symm (TokenPool.not_shares_make hvalid.wellFormed hj origin)
    · cases hcancel
    · cases hmake
      exact hexpired

theorem explained (hvalid : h.Valid) (hi : i < h.pool.tokens.length) : h.Explained i := by
  induction h using List.reverseRecOn generalizing i with
  | nil => exact absurd hi (Nat.not_lt_zero i)
  | append_singleton h s ih =>
    obtain ⟨hbefore, hadmitted⟩ := valid_append.1 hvalid
    rcases Nat.lt_or_ge i (pool h).tokens.length with hold | hnew
    · exact (ih hbefore hold).append_singleton hvalid hold
    · rw [pool_append_singleton] at hi
      obtain ⟨rfl, ⟨origin, rfl⟩ | ⟨source, rfl⟩⟩ := TokenPool.made_by_step hnew hi
      · exact explained_make hbefore origin
      · have hsource := TokenPool.lt_of_admits hadmitted rfl
        have hshares := TokenPool.shares_clone hadmitted
        rw [← pool_append_singleton] at hshares
        exact ((ih hbefore hsource).append_singleton hvalid hsource).of_shares hshares

theorem answer_append (hvalid : Valid (h ++ later)) (hi : i < h.pool.tokens.length) :
    answer (h ++ later) i = true ↔ h.answer i = true ∨
      ∃ j, .cancel j ∈ later ∧ (pool (h ++ later)).Shares i j := by
  induction later using List.reverseRecOn with
  | nil => simp
  | append_singleton later s ih =>
    rw [← List.append_assoc] at hvalid ⊢
    obtain ⟨hbefore, hadmitted⟩ := valid_append.1 hvalid
    have hi' : i < (pool (h ++ later)).tokens.length :=
      lt_extended (List.prefix_append h later) hi
    rw [answer_append_singleton hvalid hi', ih hbefore, pool_append_singleton]
    constructor
    · rintro ((hcancelled | ⟨j, hcancel, hshares⟩) | ⟨j, rfl, hshares⟩)
      · exact .inl hcancelled
      · exact .inr ⟨j, List.mem_append_left _ hcancel, hshares.step s⟩
      · exact .inr ⟨j, List.mem_append_right _ (List.mem_singleton_self _), hshares.step _⟩
    · rintro (hcancelled | ⟨j, hcancel, hshares⟩)
      · exact .inl (.inl hcancelled)
      · rcases List.mem_append.1 hcancel with hcancel | hlast
        · have hj := hbefore.lt_of_cancel (List.mem_append_right h hcancel)
          exact .inl (.inr ⟨j, hcancel, TokenPool.shares_of_step hi' hj hshares⟩)
        · obtain rfl := List.mem_singleton.1 hlast
          have hj := TokenPool.lt_of_admits hadmitted rfl
          exact .inr ⟨j, rfl, TokenPool.shares_of_step hi' hj hshares⟩

theorem answer_without_asks (h : TokenHistory) (i : Nat) :
    answer (h.filter fun s => !s.asks) i = h.answer i :=
  ((TokenPool.Alike.run ⟨rfl, rfl⟩ h).isCancelled i).symm

/-- For all calls that are made on tokens which are there. What happens to other families, and who
has asked before, makes no difference to what a token answers. -/
theorem answers_by_family (h later : TokenHistory) (hvalid : Valid (h ++ later)) :
    (∀ i < h.pool.tokens.length, h.answer i = true ↔
      (∃ j, h.Family i j ∧ h.Expired j) ∨ ∃ j, h.Family i j ∧ .cancel j ∈ h) ∧
    (∀ i < h.pool.tokens.length, h.answer i = true →
      ∀ j, Family (h ++ later) i j → answer (h ++ later) j = true) ∧
    (∀ i < h.pool.tokens.length, (∀ j, Family (h ++ later) i j → .cancel j ∉ later) →
      answer (h ++ later) i = h.answer i) ∧
    ∀ i, answer (h.filter fun s => !s.asks) i = h.answer i := by
  have hbefore : h.Valid := (valid_append.1 hvalid).1
  have hgrow : ∀ {i}, i < h.pool.tokens.length → i < (pool (h ++ later)).tokens.length :=
    fun hi => lt_extended (List.prefix_append h later) hi
  refine ⟨fun i hi => ?_, fun i hi hcancelled j hfamily => ?_, fun i hi hothers => ?_,
    answer_without_asks h⟩
  · refine (explained hbefore hi).trans ?_
    rw [← exists_or]
    refine exists_congr fun j => ?_
    rw [family_iff hbefore hi, Raised, and_or_left]
  · have hshares := (family_iff hvalid (hgrow hi)).1 hfamily
    rw [answer_of_shares hshares.symm]
    exact (answer_append hvalid hi).2 (.inl hcancelled)
  · rw [Bool.eq_iff_iff, answer_append hvalid hi]
    refine or_iff_left ?_
    rintro ⟨j, hcancel, hshares⟩
    exact hothers j ((family_iff hvalid (hgrow hi)).2 hshares) hcancel

theorem answers_by_family_of_three :
    let h : TokenHistory :=
      [.make .plain, .clone 0, .make (.timeout 0), .clone 1, .clone 2, .make (.deadline false)]
    let later : TokenHistory := [.cancel 3, .ask 2, .clone 5, .ask 6]
    Valid (h ++ later) ∧
      ((∃ j, h.Family 4 j ∧ h.Expired j) ∨ ∃ j, h.Family 4 j ∧ .cancel j ∈ h) ∧
      (∀ j, Family (h ++ later) 4 j → answer (h ++ later) j = true) ∧
      (h.answer 0 = false ∧ answer (h ++ later) 0 = true) ∧
      ¬ Family (h ++ later) 5 3 ∧ answer (h ++ later) 5 = h.answer 5 ∧
      answer (h.filter fun s => !s.asks) 3 = h.answer 3 := by
  intro h later
  have hvalid : Valid (h ++ later) := by
    rw [Valid]
    decide
  obtain ⟨htold, hstays, hothers, hasks⟩ := answers_by_family h later hvalid
  have hapart : ¬ Family (h ++ later) 5 3 := fun hfamily =>
    absurd (hfamily.place_eq hvalid) (by decide)
  refine ⟨hvalid, (htold 4 (by decide)).1 rfl, hstays 4 (by decide) rfl, ⟨rfl, rfl⟩, hapart,
    hothers 5 (by decide) ?_, hasks 3⟩
  rintro j hfamily hcancel
  obtain rfl : j = 3 := by simpa [later] using hcancel
  exact hapart hfamily

end TokenHistory

end RequestRouting
