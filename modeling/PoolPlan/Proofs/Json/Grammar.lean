import PoolPlan.Document.Record
import PoolPlan.Json.Reader

namespace PoolPlan.Json
namespace Grammar

inductive Space : List Char → List Char → Prop where
  | none (rest : List Char) : Space rest rest
  | cons {c : Char} {cs rest : List Char} (hc : c = ' ' ∨ c = '\t' ∨ c = '\n' ∨ c = '\r')
      (h : Space cs rest) : Space (c :: cs) rest

inductive Digits : List Char → List Char → Prop where
  | one {c : Char} (rest : List Char) (hc : c.isDigit = true) : Digits (c :: rest) rest
  | cons {c : Char} {cs rest : List Char} (hc : c.isDigit = true) (h : Digits cs rest) :
      Digits (c :: cs) rest

inductive Whole : List Char → List Char → Prop where
  | zero (rest : List Char) : Whole ('0' :: rest) rest
  | digits {c : Char} {cs rest : List Char} (hc : c ≠ '0') (h : Digits (c :: cs) rest) :
      Whole (c :: cs) rest

inductive Fraction : List Char → List Char → Prop where
  | none (rest : List Char) : Fraction rest rest
  | digits {cs rest : List Char} (h : Digits cs rest) : Fraction ('.' :: cs) rest

inductive Exponent : List Char → List Char → Prop where
  | none (rest : List Char) : Exponent rest rest
  | plain {c : Char} {cs rest : List Char} (hc : c = 'e' ∨ c = 'E') (h : Digits cs rest) :
      Exponent (c :: cs) rest
  | signed {c s : Char} {cs rest : List Char} (hc : c = 'e' ∨ c = 'E') (hs : s = '+' ∨ s = '-')
      (h : Digits cs rest) : Exponent (c :: s :: cs) rest

inductive Unsigned : List Char → List Char → Prop where
  | mk {cs ds es rest : List Char} (hw : Whole cs ds) (hf : Fraction ds es) (he : Exponent es rest) :
      Unsigned cs rest

inductive Number : List Char → List Char → Prop where
  | plain {cs rest : List Char} (h : Unsigned cs rest) : Number cs rest
  | negative {cs rest : List Char} (h : Unsigned cs rest) : Number ('-' :: cs) rest

def HexDigit (c : Char) : Prop :=
  ('0' ≤ c ∧ c ≤ '9') ∨ ('a' ≤ c ∧ c ≤ 'f') ∨ ('A' ≤ c ∧ c ≤ 'F')

inductive Characters : List Char → List Char → Prop where
  | close (rest : List Char) : Characters ('"' :: rest) rest
  | char {c : Char} {cs rest : List Char} (hc : 0x20 ≤ c.toNat ∧ c ≠ '"' ∧ c ≠ '\\')
      (h : Characters cs rest) : Characters (c :: cs) rest
  | escape {c : Char} {cs rest : List Char} (hc : c ∈ ['"', '\\', '/', 'b', 'f', 'n', 'r', 't'])
      (h : Characters cs rest) : Characters ('\\' :: c :: cs) rest
  | code {p q r s : Char} {cs rest : List Char} (hp : HexDigit p) (hq : HexDigit q)
      (hr : HexDigit r) (hs : HexDigit s) (h : Characters cs rest) :
      Characters ('\\' :: 'u' :: p :: q :: r :: s :: cs) rest

mutual
inductive Value : List Char → List Char → Prop where
  | null (rest : List Char) : Value ('n' :: 'u' :: 'l' :: 'l' :: rest) rest
  | true (rest : List Char) : Value ('t' :: 'r' :: 'u' :: 'e' :: rest) rest
  | false (rest : List Char) : Value ('f' :: 'a' :: 'l' :: 's' :: 'e' :: rest) rest
  | number {cs rest : List Char} (h : Number cs rest) : Value cs rest
  | string {cs rest : List Char} (h : Characters cs rest) : Value ('"' :: cs) rest
  | array {n : Nat} {cs rest : List Char} (h : Items n cs rest) : Value ('[' :: cs) rest
  | object {cs rest : List Char} (h : Members cs rest) : Value ('\x7b' :: cs) rest
inductive Items : Nat → List Char → List Char → Prop where
  | none {cs rest : List Char} (h : Space cs (']' :: rest)) : Items 0 cs rest
  | some {n : Nat} {cs ds es rest : List Char} (hs : Space cs ds) (hv : Value ds es)
      (h : MoreItems n es rest) : Items (n + 1) cs rest
inductive MoreItems : Nat → List Char → List Char → Prop where
  | close {cs rest : List Char} (h : Space cs (']' :: rest)) : MoreItems 0 cs rest
  | next {n : Nat} {cs ds es fs rest : List Char} (hc : Space cs (',' :: ds)) (hs : Space ds es)
      (hv : Value es fs) (h : MoreItems n fs rest) : MoreItems (n + 1) cs rest
inductive Members : List Char → List Char → Prop where
  | none {cs rest : List Char} (h : Space cs ('\x7d' :: rest)) : Members cs rest
  | some {cs ds rest : List Char} (hm : Member cs ds) (h : MoreMembers ds rest) : Members cs rest
inductive Member : List Char → List Char → Prop where
  | mk {cs ds es fs gs rest : List Char} (hq : Space cs ('"' :: ds)) (hk : Characters ds es)
      (hc : Space es (':' :: fs)) (hs : Space fs gs) (hv : Value gs rest) : Member cs rest
inductive MoreMembers : List Char → List Char → Prop where
  | close {cs rest : List Char} (h : Space cs ('\x7d' :: rest)) : MoreMembers cs rest
  | next {cs ds es rest : List Char} (hc : Space cs (',' :: ds)) (hm : Member ds es)
      (h : MoreMembers es rest) : MoreMembers cs rest
end

def IsObject (text : List Char) : Prop :=
  ∃ cs rest, Space text ('\x7b' :: cs) ∧ Members cs rest ∧ Space rest []

def IsArray (n : Nat) (text : List Char) : Prop :=
  ∃ cs rest, Space text ('[' :: cs) ∧ Items n cs rest ∧ Space rest []

/-- The whole text is an object, or an array of at most `n` items. -/
def IsRecord (n : Nat) (text : List Char) : Prop := IsObject text ∨ ∃ k ≤ n, IsArray k text

theorem space_skipSpace (cs : List Char) : Space cs (skipSpace cs) := by
  induction cs with
  | nil => exact .none []
  | cons c cs ih =>
    cases hc : isSpace c with
    | false =>
      rw [skipSpace, List.dropWhile_cons_of_neg (by simp [hc])]
      exact .none _
    | true =>
      rw [skipSpace, List.dropWhile_cons_of_pos hc]
      refine .cons ?_ ih
      simpa [isSpace, or_assoc] using hc

theorem space_of_skipSpace {cs ds : List Char} (h : skipSpace cs = ds) : Space cs ds :=
  h ▸ space_skipSpace cs

theorem Space.trans {cs ds rest : List Char} (h : Space cs ds) (hrest : Space ds rest) :
    Space cs rest := by
  induction h with
  | none ds => exact hrest
  | cons hc _ ih => exact .cons hc (ih hrest)

theorem Member.of_space {cs ds rest : List Char} (hm : Member ds rest) (h : Space cs ds) :
    Member cs rest := by
  cases hm with
  | mk hq hk hc hs hv => exact .mk (h.trans hq) hk hc hs hv

theorem digits_append {ds : List Char} (rest : List Char) (hds : ∀ c ∈ ds, c.isDigit = true)
    (hne : ds ≠ []) : Digits (ds ++ rest) rest := by
  induction ds with
  | nil => exact absurd rfl hne
  | cons d ds ih =>
    obtain ⟨hd, hds⟩ := List.forall_mem_cons.1 hds
    cases ds with
    | nil => exact .one rest hd
    | cons e es => exact .cons hd (ih hds (by simp))

theorem eq_append_of_digits? {cs ds rest : List Char} (h : digits? cs = some (ds, rest)) :
    cs = ds ++ rest ∧ (∀ c ∈ ds, c.isDigit = true) ∧ ds ≠ [] := by
  unfold digits? at h
  split at h
  · cases h
  · rename_i d es htake
    cases h
    have hall : ∀ c ∈ cs.takeWhile Char.isDigit, c.isDigit = true :=
      List.all_eq_true.1 List.all_takeWhile
    rw [← htake]
    refine ⟨List.takeWhile_append_dropWhile.symm, hall, ?_⟩
    rw [htake]
    exact List.cons_ne_nil _ _

theorem digits_of_digits? {cs ds rest : List Char} (h : digits? cs = some (ds, rest)) :
    Digits cs rest := by
  obtain ⟨rfl, hds, hne⟩ := eq_append_of_digits? h
  exact digits_append rest hds hne

theorem whole_of_whole? {cs ds rest : List Char} (h : whole? cs = some (ds, rest)) :
    Whole cs rest := by
  unfold whole? at h
  split at h
  · cases h
  · rename_i hzero
    obtain ⟨rfl, hds, hne⟩ := eq_append_of_digits? h
    cases ds with
    | nil => exact absurd rfl hne
    | cons d ds =>
      by_cases hd : d = '0'
      · subst hd
        cases ds with
        | nil => exact .zero rest
        | cons e es => exact absurd h (hzero e es rest)
      · exact .digits hd (digits_append rest hds hne)

theorem exponent_of_exponent? {cs rest : List Char} {e : Option (Bool × List Char)}
    (h : exponent? cs = some (e, rest)) : Exponent cs rest := by
  unfold exponent? at h
  split at h
  · rename_i c cs
    split at h
    · rename_i hc
      split at h
      all_goals
        simp only [Option.map_eq_some_iff, Prod.mk.injEq] at h
        obtain ⟨⟨ds, r⟩, hds, -, rfl⟩ := h
      · exact .signed hc (.inl rfl) (digits_of_digits? hds)
      · exact .signed hc (.inr rfl) (digits_of_digits? hds)
      · exact .plain hc (digits_of_digits? hds)
    · cases h
      exact .none _
  · cases h
    exact .none _

theorem unsigned_of_unsigned? {negative : Bool} {cs rest : List Char} {n : Numeral}
    (h : unsigned? negative cs = some (n, rest)) : Unsigned cs rest := by
  simp only [unsigned?, bind, Option.bind_eq_some_iff, pure] at h
  obtain ⟨⟨whole, ds⟩, hw, h⟩ := h
  have hw := whole_of_whole? hw
  split at h
  · rename_i es hpoint
    obtain rfl : ds = '.' :: es := hpoint
    simp only [Option.bind_eq_some_iff] at h
    obtain ⟨⟨fraction, fs⟩, hf, ⟨exponent, r⟩, he, heq⟩ := h
    cases heq
    exact .mk hw (.digits (digits_of_digits? hf)) (exponent_of_exponent? he)
  · simp only [Option.bind_some, Option.bind_eq_some_iff] at h
    obtain ⟨⟨exponent, r⟩, he, heq⟩ := h
    cases heq
    exact .mk hw (.none ds) (exponent_of_exponent? he)

theorem number_of_numeral? {cs rest : List Char} {n : Numeral}
    (h : numeral? cs = some (n, rest)) : Number cs rest := by
  unfold numeral? at h
  split at h
  · exact .negative (unsigned_of_unsigned? h)
  · exact .plain (unsigned_of_unsigned? h)

theorem hexDigit_of_digitIn? {c : Char} {n : Nat} (h : Yaml.digitIn? 16 c = some n) :
    HexDigit c := by
  simp only [HexDigit, Char.le_def, UInt32.le_iff_toNat_le]
  simp only [Yaml.digitIn?, Option.ite_none_right_eq_some] at h
  obtain ⟨h, -⟩ := h
  change (48 ≤ c.toNat ∧ c.toNat ≤ 57) ∨ (97 ≤ c.toNat ∧ c.toNat ≤ 102) ∨
    (65 ≤ c.toNat ∧ c.toNat ≤ 70)
  split at h
  · omega
  · split at h
    · omega
    · split at h <;> omega

theorem hexDigits_of_hex? {p q r s : Char} {n : Nat} (h : hex? p q r s = some n) :
    HexDigit p ∧ HexDigit q ∧ HexDigit r ∧ HexDigit s := by
  simp only [hex?, bind, Option.bind_eq_some_iff] at h
  obtain ⟨_, hp, _, hq, _, hr, _, hs, -⟩ := h
  exact ⟨hexDigit_of_digitIn? hp, hexDigit_of_digitIn? hq, hexDigit_of_digitIn? hr,
    hexDigit_of_digitIn? hs⟩

theorem mem_of_simpleEscape? {c d : Char} (h : simpleEscape? c = some d) :
    c ∈ ['"', '\\', '/', 'b', 'f', 'n', 'r', 't'] := by
  unfold simpleEscape? at h
  grind

theorem characters_of_units? {cs rest : List Char} {us : List StringUnit}
    (h : units? cs = some (us, rest)) : Characters cs rest := by
  fun_induction units? cs generalizing us with
  | case1 => cases h
  | case2 cs =>
    cases h
    exact .close rest
  | case3 p q r s cs n vs left hunits hhex ih =>
    cases h
    obtain ⟨hp, hq, hr, hs⟩ := hexDigits_of_hex? hhex
    exact .code hp hq hr hs (ih hunits)
  | case4 => cases h
  | case5 e cs hcode c vs left hunits hescape ih =>
    cases h
    exact .escape (mem_of_simpleEscape? hescape) (ih hunits)
  | case6 => cases h
  | case7 => cases h
  | case8 c cs hquote hcode hescape hplain vs left hunits ih =>
    cases h
    rw [not_or, Nat.not_lt] at hplain
    exact .char ⟨hplain.1, hquote, hplain.2⟩ (ih hunits)
  | case9 => cases h

theorem characters_of_stringNode? {cs rest : List Char} {d : Document}
    (h : stringNode? cs = some (d, rest)) : Characters cs rest := by
  unfold stringNode? at h
  split at h
  · cases h
  · rename_i us left hunits
    split at h
    all_goals
      cases h
      exact characters_of_units? hunits

/-- How a document that the reader makes was written. -/
inductive Written : Document → List Char → List Char → Prop where
  | scalar {s : Scalar} {cs rest : List Char} (hs : ∀ text plain tag, s ≠ .written text plain tag)
      (h : Value cs rest) : Written (.scalar s) cs rest
  | sequence {items : List Document} {cs rest : List Char} (h : Items items.length cs rest) :
      Written (.sequence true items) ('[' :: cs) rest
  | mapping {entries : List (Document × Document)} {cs rest : List Char} (h : Members cs rest) :
      Written (.mapping entries) ('\x7b' :: cs) rest

theorem Written.value {d : Document} {cs rest : List Char} (h : Written d cs rest) :
    Value cs rest := by
  cases h with
  | scalar _ h => exact h
  | sequence h => exact .array h
  | mapping h => exact .object h

theorem Written.bounded {d : Document} {cs rest : List Char} (room : Nat) (h : Written d cs rest) :
    Written (bounded room d) cs rest := by
  cases room with
  | zero => exact .scalar (by simp) h.value
  | succ room => exact h

theorem written_of_stringNode? {cs rest : List Char} {d : Document}
    (h : stringNode? cs = some (d, rest)) : Written d ('"' :: cs) rest := by
  have hvalue : Value ('"' :: cs) rest := .string (characters_of_stringNode? h)
  unfold stringNode? at h
  split at h
  · cases h
  · split at h
    all_goals
      cases h
      exact .scalar (by simp) hvalue

theorem written_of_numberNode? {cs rest : List Char} {d : Document}
    (h : numberNode? cs = some (d, rest)) : Written d cs rest := by
  unfold numberNode? at h
  split at h
  · cases h
  · rename_i n left hnumeral
    have hvalue : Value cs left := .number (number_of_numeral? hnumeral)
    split at h
    all_goals
      cases h
      exact .scalar (by simp) hvalue

mutual
/-- The reader skips the white space in front of a value, so the value stands behind it. -/
theorem written_of_node? (fuel room : Nat) {cs rest : List Char} {d : Document}
    (h : node? fuel room cs = some (d, rest)) : Written d (skipSpace cs) rest := by
  cases fuel with
  | zero => simp [node?] at h
  | succ fuel =>
    unfold node? at h
    split at h
    · rename_i r hr
      cases h
      rw [hr]
      exact .scalar (by simp) (.null rest)
    · rename_i r hr
      cases h
      rw [hr]
      exact .scalar (by simp) (.true rest)
    · rename_i r hr
      cases h
      rw [hr]
      exact .scalar (by simp) (.false rest)
    · rename_i r hr
      rw [hr]
      exact written_of_stringNode? h
    · rename_i r hr
      rw [hr]
      split at h
      · rename_i after hafter
        cases h
        have hi : Items ([] : List Document).length r rest := .none (space_of_skipSpace hafter)
        exact (Written.sequence hi).bounded room
      · split at h
        · cases h
        · rename_i d left hnode
          split at h
          · cases h
          · rename_i ds last hmore
            cases h
            have hv := (written_of_node? fuel (room - 1) hnode).value
            have hm := moreItems_of_moreNodes? fuel (room - 1) hmore
            -- The reader has looked behind the white space already, for a closing bracket.
            have hs := (space_skipSpace r).trans (space_skipSpace (skipSpace r))
            have hi : Items (d :: ds).length r rest := .some hs hv hm
            exact (Written.sequence hi).bounded room
    · rename_i r hr
      rw [hr]
      split at h
      · rename_i after hafter
        cases h
        exact (Written.mapping (.none (space_of_skipSpace hafter))).bounded room
      · split at h
        · cases h
        · rename_i e left hentry
          split at h
          · cases h
          · rename_i es last hmore
            cases h
            have he := (member_of_entry fuel (room - 1) hentry).of_space (space_skipSpace r)
            have hm := moreMembers_of_moreEntries? fuel (room - 1) hmore
            exact (Written.mapping (.some he hm)).bounded room
    · exact written_of_numberNode? h
theorem moreItems_of_moreNodes? (fuel room : Nat) {cs rest : List Char} {ds : List Document}
    (h : moreNodes? fuel room cs = some (ds, rest)) : MoreItems ds.length cs rest := by
  cases fuel with
  | zero => simp [moreNodes?] at h
  | succ fuel =>
    unfold moreNodes? at h
    split at h
    · rename_i r hr
      cases h
      exact .close (space_of_skipSpace hr)
    · rename_i r hr
      split at h
      · cases h
      · rename_i d left hnode
        split at h
        · cases h
        · rename_i es last hmore
          cases h
          exact .next (space_of_skipSpace hr) (space_skipSpace r)
            (written_of_node? fuel room hnode).value (moreItems_of_moreNodes? fuel room hmore)
    · cases h
theorem member_of_entry (fuel room : Nat) {cs rest : List Char} {e : Document × Document}
    (h : entry? fuel room cs = some (e, rest)) : Member cs rest := by
  cases fuel with
  | zero => simp [ entry?] at h
  | succ fuel =>
    unfold entry? at h
    split at h
    · rename_i r hr
      split at h
      · cases h
      · rename_i k left hkey
        split at h
        · rename_i after hafter
          split at h
          · cases h
          · rename_i d last hnode
            cases h
            exact .mk (space_of_skipSpace hr) (characters_of_stringNode? hkey)
              (space_of_skipSpace hafter) (space_skipSpace after)
              (written_of_node? fuel room hnode).value
        · cases h
    · cases h
theorem moreMembers_of_moreEntries? (fuel room : Nat) {cs rest : List Char}
    {es : List (Document × Document)} (h : moreEntries? fuel room cs = some (es, rest)) :
    MoreMembers cs rest := by
  cases fuel with
  | zero => simp [moreEntries?] at h
  | succ fuel =>
    unfold moreEntries? at h
    split at h
    · rename_i r hr
      cases h
      exact .close (space_of_skipSpace hr)
    · rename_i r hr
      split at h
      · cases h
      · rename_i e left hentry
        split at h
        · cases h
        · rename_i fs last hmore
          cases h
          exact .next (space_of_skipSpace hr) (member_of_entry fuel room hentry)
            (moreMembers_of_moreEntries? fuel room hmore)
    · cases h
end

theorem written_of_read? {cs : List Char} {d : Document} (h : read? cs = some d) :
    ∃ ds rest, Space cs ds ∧ Written d ds rest ∧ Space rest [] := by
  unfold read? at h
  split at h
  · rename_i e rest hnode
    split at h
    · rename_i hempty
      cases h
      rw [List.isEmpty_iff] at hempty
      exact ⟨skipSpace cs, rest, space_skipSpace cs, written_of_node? _ _ hnode,
        space_of_skipSpace hempty⟩
    · cases h
  · cases h

/-- What is read as a record of some fields is written as one. -/
theorem isRecord_of_record? {cs : List Char} {d : Document} {names : List String}
    {fields : Fields} (h : read? cs = some d) (hf : d.record? names = some fields) :
    IsRecord names.length cs := by
  obtain ⟨ds, rest, hs, hw, hrest⟩ := written_of_read? h
  cases hw with
  | @scalar s ds rest hplain hv =>
    -- Of the scalars only a plain one without text could stand for a record, and JSON has none.
    cases s with
    | written text plain tag => exact absurd rfl (hplain text plain tag)
    | _ => simp [Document.record?, Document.entries?, Document.untagged, Document.isEmptyPlain] at hf
  | @sequence items ds rest hi =>
    simp only [Document.record?, Document.untagged, Option.ite_none_right_eq_some] at hf
    exact .inr ⟨items.length, hf.1, _, _, hs, hi, hrest⟩
  | mapping hm => exact .inl ⟨_, _, hs, hm, hrest⟩

theorem eq_of_space {c : Char} {cs ds : List Char} (h : Space (c :: cs) ds)
    (hc : isSpace c = false) : ds = c :: cs := by
  cases h with
  | none => rfl
  | cons hspace _ =>
    rcases hspace with rfl | rfl | rfl | rfl
    all_goals exact absurd hc (by decide)

theorem not_isRecord_cons {n : Nat} {c : Char} {cs : List Char} (hc : isSpace c = false)
    (hbrace : c ≠ '\x7b') (hbracket : c ≠ '[') : ¬IsRecord n (c :: cs) := by
  intro h
  cases h with
  | inl h =>
    obtain ⟨ds, _, hs, -⟩ := h
    cases eq_of_space hs hc
    exact hbrace rfl
  | inr h =>
    obtain ⟨_, _, ds, _, hs, -⟩ := h
    cases eq_of_space hs hc
    exact hbracket rfl

end Grammar
end PoolPlan.Json
