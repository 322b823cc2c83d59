import PoolPlan.Proofs.Json.ReadBack
import PoolPlan.Proofs.Yaml.Flow

namespace PoolPlan
namespace Json
open Yaml Yaml.Lexer

mutual
def tokens : Json → List Token
  | .string s => [.scalar s .quoted]
  | .array [] => [.flowSequence, .flowSequenceEnd]
  | .array (x :: xs) => .flowSequence :: x.tokens ++ moreItemTokens xs
  | .object [] => [.flowMapping, .flowMappingEnd]
  | .object ((k, x) :: fs) =>
    .flowMapping :: .key :: .scalar k .quoted :: .value :: x.tokens ++ moreFieldTokens fs
  | j => [.scalar j.text .plain]
def moreItemTokens : List Json → List Token
  | [] => [.flowSequenceEnd]
  | x :: xs => .flowEntry :: x.tokens ++ moreItemTokens xs
def moreFieldTokens : List (String × Json) → List Token
  | [] => [.flowMappingEnd]
  | (k, x) :: fs =>
    .flowEntry :: .key :: .scalar k .quoted :: .value :: x.tokens ++ moreFieldTokens fs
end

mutual
/-- All texts, keys among them, may stand between the quotes of YAML, and no key is too long for it. -/
def Quotable : Json → Prop
  | .string s => ∀ c ∈ s.toList, isQuotable c
  | .array items => QuotableItems items
  | .object fields => QuotableFields fields
  | _ => True
def QuotableItems : List Json → Prop
  | [] => True
  | x :: xs => x.Quotable ∧ QuotableItems xs
def QuotableFields : List (String × Json) → Prop
  | [] => True
  | (k, x) :: fs =>
    ((∀ c ∈ k.toList, isQuotable c) ∧ (quotedChars k.toList).length ≤ 1024) ∧ x.Quotable ∧
      QuotableFields fs
end

def decidableQuotableText (s : String) : Decidable (∀ c ∈ s.toList, isQuotable c) :=
  decidable_of_iff (s.toList.all isQuotable) List.all_eq_true

mutual
def decidableQuotable : (j : Json) → Decidable j.Quotable
  | .string s => decidableQuotableText s
  | .array items => decidableQuotableItems items
  | .object fields => decidableQuotableFields fields
  | .null | .bool _ | .number _ => .isTrue trivial
def decidableQuotableItems : (xs : List Json) → Decidable (QuotableItems xs)
  | [] => .isTrue trivial
  | x :: xs => @instDecidableAnd _ _ (decidableQuotable x) (decidableQuotableItems xs)
def decidableQuotableFields : (fs : List (String × Json)) → Decidable (QuotableFields fs)
  | [] => .isTrue trivial
  | (k, x) :: fs =>
    @instDecidableAnd _ _ (@instDecidableAnd _ _ (decidableQuotableText k) inferInstance)
      (@instDecidableAnd _ _ (decidableQuotable x) (decidableQuotableFields fs))
end

instance : DecidablePred Quotable := decidableQuotable

theorem isWord_of_isDigit {c : Char} (h : c.isDigit = true) : isWord c := by
  simp [isWord, Char.isAlphanum, h]

theorem isWord_integerChars (n : Int) : ∀ c ∈ integerChars n, isWord c := by
  have hdigits : ∀ c ∈ Nat.toDigits 10 n.natAbs, isWord c := fun c hc =>
    isWord_of_isDigit (Nat.isDigit_of_mem_toDigits (by decide) (by decide) hc)
  unfold integerChars
  split
  · exact List.forall_mem_cons.2 ⟨by decide, hdigits⟩
  · exact hdigits

theorem exists_moreItems_cons (xs : List Json) (rest : List Char) :
    ∃ d r, isFlowEnd d ∧ moreItems xs ++ rest = d :: r := by
  cases xs with
  | nil => exact ⟨_, _, by decide, rfl⟩
  | cons x xs => exact ⟨_, _, by decide, rfl⟩

theorem exists_moreFields_cons (fs : List (String × Json)) (rest : List Char) :
    ∃ d r, isFlowEnd d ∧ moreFields fs ++ rest = d :: r := by
  cases fs with
  | nil => exact ⟨_, _, by decide, rfl⟩
  | cons f fs => exact ⟨_, _, by decide, rfl⟩

mutual
/-- The text of a value inside a flow collection is split into its tokens. -/
theorem reaches_chars : (j : Json) → j.Exact → j.Quotable → {s : Lexer} → {level : Nat} →
    {ts : List Token} → {allowed : Bool} → s.Within (level + 1) ts allowed → {column : Nat} →
    0 < column → {d : Char} → isFlowEnd d → (rest : List Char) →
    ∃ s', s'.Within (level + 1) (j.tokens.reverse ++ ts) false ∧
      Reaches s (inLine column (j.chars ++ d :: rest)) s'
        (inLine (column + j.chars.length) (d :: rest))
  | .null, _, _, _, _, _, _, h, _, hcolumn, _, hd, rest =>
    h.reaches_word (by decide) (List.all_eq_true.1 (by decide)) hcolumn hd rest
  | .bool true, _, _, _, _, _, _, h, _, hcolumn, _, hd, rest =>
    h.reaches_word (by decide) (List.all_eq_true.1 (by decide)) hcolumn hd rest
  | .bool false, _, _, _, _, _, _, h, _, hcolumn, _, hd, rest =>
    h.reaches_word (by decide) (List.all_eq_true.1 (by decide)) hcolumn hd rest
  | .number n, hn, _, _, _, _, _, h, _, hcolumn, _, hd, rest => by
    obtain ⟨i, hi⟩ := hn
    obtain rfl := ofInt?_eq_some hi
    obtain ⟨c, cs, hcs, -⟩ := integerChars_cons i
    exact h.reaches_word (by simp [hcs]) (isWord_integerChars i) hcolumn hd rest
  | .string text, _, hq, _, _, _, _, h, column, _, d, _, rest =>
    have ⟨s', hs', _, hreach⟩ := h.reaches_quoted hq column (d :: rest)
    ⟨s', hs', hreach⟩
  | .array xs, hx, hq, _, _, _, _, h, _, _, _, _, rest =>
    reaches_array xs hx hq h _ _
  | .object fs, hx, hq, _, _, _, _, h, _, _, _, _, rest =>
    reaches_object fs hx hq h _ _
theorem reaches_array : (xs : List Json) → ExactItems xs → QuotableItems xs → {s : Lexer} →
    {level : Nat} → {ts : List Token} → {allowed : Bool} → s.Within level ts allowed →
    (column : Nat) → (rest : List Char) →
    ∃ s', s'.Within level ((array xs).tokens.reverse ++ ts) false ∧
      Reaches s (inLine column ((array xs).chars ++ rest)) s'
        (inLine (column + (array xs).chars.length) rest)
  | [], _, _, _, _, _, _, h, column, rest => by
    obtain ⟨s₁, h₁, hopen⟩ := h.reaches_opened column (.inl ⟨rfl, rfl⟩) (']' :: rest)
    obtain ⟨s₂, h₂, hclose⟩ := h₁.reaches_closed (column + 1) (.inl ⟨rfl, rfl⟩) rest
    exact ⟨s₂, h₂, hopen.trans hclose⟩
  | x :: xs, hx, hq, _, _, _, _, h, column, rest => by
    obtain ⟨d, r, hd, hr⟩ := exists_moreItems_cons xs rest
    obtain ⟨s₁, h₁, hopen⟩ :=
      h.reaches_opened column (.inl ⟨rfl, rfl⟩) (x.chars ++ (moreItems xs ++ rest))
    obtain ⟨s₂, h₂, hitem⟩ := reaches_chars x hx.1 hq.1 h₁ (Nat.succ_pos column) hd r
    obtain ⟨s₃, h₃, hmore⟩ := reaches_moreItems xs hx.2 hq.2 h₂ _ rest
    rw [← hr] at hitem
    refine ⟨s₃, by simpa [tokens] using h₃, ?_⟩
    have hchain := (hopen.trans hitem).trans hmore
    simpa [chars, Nat.add_assoc, Nat.add_comm 1] using hchain
theorem reaches_moreItems : (xs : List Json) → ExactItems xs → QuotableItems xs → {s : Lexer} →
    {level : Nat} → {ts : List Token} → {allowed : Bool} → s.Within (level + 1) ts allowed →
    (column : Nat) → (rest : List Char) →
    ∃ s', s'.Within level ((moreItemTokens xs).reverse ++ ts) false ∧
      Reaches s (inLine column (moreItems xs ++ rest)) s'
        (inLine (column + (moreItems xs).length) rest)
  | [], _, _, _, _, _, _, h, column, rest => by
    obtain ⟨s₁, h₁, hclose⟩ := h.reaches_closed column (.inl ⟨rfl, rfl⟩) rest
    exact ⟨s₁, h₁, hclose⟩
  | x :: xs, hx, hq, _, _, _, _, h, column, rest => by
    obtain ⟨d, r, hd, hr⟩ := exists_moreItems_cons xs rest
    obtain ⟨s₁, h₁, hcomma⟩ := h.reaches_separated column (x.chars ++ (moreItems xs ++ rest))
    obtain ⟨s₂, h₂, hitem⟩ := reaches_chars x hx.1 hq.1 h₁ (Nat.succ_pos column) hd r
    obtain ⟨s₃, h₃, hmore⟩ := reaches_moreItems xs hx.2 hq.2 h₂ _ rest
    rw [← hr] at hitem
    refine ⟨s₃, by simpa [moreItemTokens] using h₃, ?_⟩
    have hchain := (hcomma.trans hitem).trans hmore
    simpa [moreItems, Nat.add_assoc, Nat.add_comm 1] using hchain
theorem reaches_object : (fs : List (String × Json)) → ExactFields fs → QuotableFields fs →
    {s : Lexer} → {level : Nat} → {ts : List Token} → {allowed : Bool} →
    s.Within level ts allowed → (column : Nat) → (rest : List Char) →
    ∃ s', s'.Within level ((object fs).tokens.reverse ++ ts) false ∧
      Reaches s (inLine column ((object fs).chars ++ rest)) s'
        (inLine (column + (object fs).chars.length) rest)
  | [], _, _, _, _, _, _, h, column, rest => by
    obtain ⟨s₁, h₁, hopen⟩ := h.reaches_opened column (.inr ⟨rfl, rfl⟩) ('\x7d' :: rest)
    obtain ⟨s₂, h₂, hclose⟩ := h₁.reaches_closed (column + 1) (.inr ⟨rfl, rfl⟩) rest
    exact ⟨s₂, h₂, hopen.trans hclose⟩
  | (k, x) :: fs, hx, hq, _, _, _, _, h, column, rest => by
    obtain ⟨d, r, hd, hr⟩ := exists_moreFields_cons fs rest
    obtain ⟨s₁, h₁, hopen⟩ := h.reaches_opened column (.inr ⟨rfl, rfl⟩)
      (quotedChars k.toList ++ ':' :: (x.chars ++ (moreFields fs ++ rest)))
    obtain ⟨s₂, h₂, hkey⟩ :=
      h₁.reaches_key hq.1.1 hq.1.2 (column + 1) (x.chars ++ (moreFields fs ++ rest))
    obtain ⟨s₃, h₃, hvalue⟩ := reaches_chars x hx.1 hq.2.1 h₂ (Nat.succ_pos _) hd r
    obtain ⟨s₄, h₄, hmore⟩ := reaches_moreFields fs hx.2 hq.2.2 h₃ _ rest
    rw [← hr] at hvalue
    refine ⟨s₄, by simpa [tokens] using h₄, ?_⟩
    have hchain := ((hopen.trans hkey).trans hvalue).trans hmore
    simpa [chars, Nat.add_assoc, Nat.add_comm 1, Nat.add_comm 2] using hchain
theorem reaches_moreFields : (fs : List (String × Json)) → ExactFields fs → QuotableFields fs →
    {s : Lexer} → {level : Nat} → {ts : List Token} → {allowed : Bool} →
    s.Within (level + 1) ts allowed → (column : Nat) → (rest : List Char) →
    ∃ s', s'.Within level ((moreFieldTokens fs).reverse ++ ts) false ∧
      Reaches s (inLine column (moreFields fs ++ rest)) s'
        (inLine (column + (moreFields fs).length) rest)
  | [], _, _, _, _, _, _, h, column, rest => by
    obtain ⟨s₁, h₁, hclose⟩ := h.reaches_closed column (.inr ⟨rfl, rfl⟩) rest
    exact ⟨s₁, h₁, hclose⟩
  | (k, x) :: fs, hx, hq, _, _, _, _, h, column, rest => by
    obtain ⟨d, r, hd, hr⟩ := exists_moreFields_cons fs rest
    obtain ⟨s₁, h₁, hcomma⟩ := h.reaches_separated column
      (quotedChars k.toList ++ ':' :: (x.chars ++ (moreFields fs ++ rest)))
    obtain ⟨s₂, h₂, hkey⟩ :=
      h₁.reaches_key hq.1.1 hq.1.2 (column + 1) (x.chars ++ (moreFields fs ++ rest))
    obtain ⟨s₃, h₃, hvalue⟩ := reaches_chars x hx.1 hq.2.1 h₂ (Nat.succ_pos _) hd r
    obtain ⟨s₄, h₄, hmore⟩ := reaches_moreFields fs hx.2 hq.2.2 h₃ _ rest
    rw [← hr] at hvalue
    refine ⟨s₄, by simpa [moreFieldTokens] using h₄, ?_⟩
    have hchain := ((hcomma.trans hkey).trans hvalue).trans hmore
    simpa [moreFields, Nat.add_assoc, Nat.add_comm 1, Nat.add_comm 2] using hchain
end

theorem isInline_of_isWord {c : Char} (h : isWord c) : isInline c := by
  have hrange : 0x20 ≤ c.toNat ∧ c.toNat ≤ 0x7E := by
    delta isWord Char.isAlphanum Char.isAlpha Char.isUpper Char.isLower Char.isDigit at h
    simp only [Bool.or_eq_true, Bool.and_eq_true, decide_eq_true_eq, beq_iff_eq] at h
    rcases h with h | rfl
    · simp [UInt32.le_iff_toNat_le] at h
      omega
    · decide
  have hne (d : Char) (hd : d.toNat < 0x20 ∨ 0x7E < d.toNat) : c ≠ d := by
    rintro rfl
    omega
  simp [isInline, isAllowed, hrange, isLineFeed, isSeparator, hne '\n' (by decide),
    hne '\r' (by decide), hne '\u0085' (by decide), hne '\u2028' (by decide), hne '\u2029' (by decide)]

theorem isInline_quotedChars {cs : List Char} (h : ∀ c ∈ cs, isQuotable c) :
    ∀ c ∈ quotedChars cs, isInline c := by
  simp only [quotedChars, List.forall_mem_append, List.forall_mem_cons, List.cons_append]
  refine ⟨by decide, ?_, by decide, nofun⟩
  intro d hd
  obtain ⟨c, hc, hd⟩ := List.mem_flatMap.1 hd
  exact isInline_escape (h c hc) d hd

mutual
theorem isInline_chars : (j : Json) → j.Exact → j.Quotable → ∀ c ∈ j.chars, isInline c
  | .null, _, _ | .bool true, _, _ | .bool false, _, _ => List.all_eq_true.1 (by decide)
  | .number n, hn, _ => by
    obtain ⟨i, hi⟩ := hn
    obtain rfl := ofInt?_eq_some hi
    exact fun c hc => isInline_of_isWord (isWord_integerChars i c hc)
  | .string text, _, hq => isInline_quotedChars hq
  | .array [], _, _ => List.all_eq_true.1 (by decide)
  | .array (x :: xs), hx, hq => by
    simp only [chars, List.forall_mem_append, List.forall_mem_cons, List.cons_append]
    exact ⟨by decide, isInline_chars x hx.1 hq.1, isInline_moreItems xs hx.2 hq.2⟩
  | .object [], _, _ => List.all_eq_true.1 (by decide)
  | .object ((k, x) :: fs), hx, hq => by
    simp only [chars, List.forall_mem_append, List.forall_mem_cons, List.cons_append]
    exact ⟨by decide, ⟨isInline_quotedChars hq.1.1, by decide, isInline_chars x hx.1 hq.2.1⟩,
      isInline_moreFields fs hx.2 hq.2.2⟩
theorem isInline_moreItems : (xs : List Json) → ExactItems xs → QuotableItems xs →
    ∀ c ∈ moreItems xs, isInline c
  | [], _, _ => List.all_eq_true.1 (by decide)
  | x :: xs, hx, hq => by
    simp only [moreItems, List.forall_mem_append, List.forall_mem_cons, List.cons_append]
    exact ⟨by decide, isInline_chars x hx.1 hq.1, isInline_moreItems xs hx.2 hq.2⟩
theorem isInline_moreFields : (fs : List (String × Json)) → ExactFields fs → QuotableFields fs →
    ∀ c ∈ moreFields fs, isInline c
  | [], _, _ => List.all_eq_true.1 (by decide)
  | (k, x) :: fs, hx, hq => by
    simp only [moreFields, List.forall_mem_append, List.forall_mem_cons, List.cons_append]
    exact ⟨by decide, ⟨isInline_quotedChars hq.1.1, by decide, isInline_chars x hx.1 hq.2.1⟩,
      isInline_moreFields fs hx.2 hq.2.2⟩
end

def IsContainer : Json → Prop
  | .array _ | .object _ => True
  | _ => False

theorem exists_chars_cons {j : Json} (hj : j.IsContainer) :
    ∃ c cs, j.chars = c :: cs ∧ c ≠ '\uFEFF' := by
  cases j with
  | array xs => cases xs <;> exact ⟨_, _, rfl, by decide⟩
  | object fs => cases fs <;> exact ⟨_, _, rfl, by decide⟩
  | _ => exact absurd hj id

/-- The compact text of a container is split into its tokens. -/
theorem tokens?_chars {j : Json} (hj : j.IsContainer) (hx : j.Exact) (hq : j.Quotable) :
    tokens? j.chars = some j.tokens := by
  have hglyphs : glyphs? j.chars = some (inLine 0 j.chars) := by
    obtain ⟨c, cs, hcs, hmark⟩ := exists_chars_cons hj
    have hinline := isInline_chars j hx hq
    rw [hcs] at hinline ⊢
    exact glyphs?_eq_inLine hinline hmark
  have hreach : ∃ s', s'.Within 0 (j.tokens.reverse ++ []) false ∧
      Reaches Lexer.start (inLine 0 (j.chars ++ [])) s' (inLine (0 + j.chars.length) []) := by
    cases j with
    | array xs => exact reaches_array xs hx hq within_start 0 []
    | object fs => exact reaches_object fs hx hq within_start 0 []
    | _ => exact absurd hj id
  obtain ⟨s', hs', n, hn, hrun⟩ := hreach
  rw [List.append_nil] at hs' hn hrun
  obtain ⟨e, hdrop, he, -⟩ := hs'.exists_dropKey
  -- no more steps were taken than there are glyphs, so one is left to see the end
  obtain ⟨fuel, hfuel⟩ : ∃ fuel, (inLine 0 j.chars).length + 1 = fuel + 1 + n :=
    ⟨(inLine 0 j.chars).length - n, by simp only [inLine, List.length_nil] at hn; omega⟩
  simp only [tokens?, hglyphs, bind, Option.bind_some, hfuel, hrun]
  simp [run, inLine, skip, hs'.closeBlocks, hdrop, he.tokens]

end Json
end PoolPlan
