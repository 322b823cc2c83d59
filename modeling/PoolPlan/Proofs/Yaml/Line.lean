import PoolPlan.Json.Writer
import PoolPlan.Proofs.Json.Quotation
import PoolPlan.Yaml.Scalar.Plain
import PoolPlan.Yaml.Scalar.Quoted

namespace PoolPlan.Yaml

def isInline (c : Char) : Bool := isAllowed c && !isLineFeed c && !isSeparator c

/-- A character that JSON text either escapes or may hand to YAML as it is. -/
def isQuotable (c : Char) : Bool := c.toNat < 0x20 || isInline c

def inLine (column : Nat) : List Char → List Glyph
  | [] => []
  | c :: cs => ⟨c, 0, column⟩ :: inLine (column + 1) cs

@[simp] theorem length_inLine (column : Nat) (cs : List Char) :
    (inLine column cs).length = cs.length := by
  induction cs generalizing column with
  | nil => rfl
  | cons c cs ih => simp [inLine, ih]

theorem place_eq_inLine {cs : List Char} (h : ∀ c ∈ cs, isInline c) (column : Nat) :
    place 0 column cs = inLine column cs := by
  induction cs generalizing column with
  | nil => rfl
  | cons c cs ih =>
    obtain ⟨hc, hcs⟩ := List.forall_mem_cons.1 h
    simp only [isInline, Bool.and_eq_true, Bool.not_eq_true'] at hc
    obtain ⟨⟨-, hfeed⟩, hseparator⟩ := hc
    have hreturn : c ≠ '\r' := by
      rintro rfl
      contradiction
    rw [place, if_neg (by simp [hfeed]), if_neg (by simp [hseparator]), inLine, ih hcs]
    rintro rest rfl
    contradiction

/-- The glyphs of text on one line, if no byte order mark is in front of it. -/
theorem glyphs?_eq_inLine {c : Char} {cs : List Char} (h : ∀ d ∈ c :: cs, isInline d)
    (hmark : c ≠ '\uFEFF') : glyphs? (c :: cs) = some (inLine 0 (c :: cs)) := by
  have hallowed : (c :: cs).all isAllowed := by
    rw [List.all_eq_true]
    intro d hd
    have hd := h d hd
    simp only [isInline, Bool.and_eq_true] at hd
    exact hd.1.1
  rw [glyphs?, if_pos hallowed, place_eq_inLine h, inLine]
  split
  · rename_i heq
    cases heq
    exact absurd rfl hmark
  · rfl

theorem isInline_escape {c : Char} (h : isQuotable c) : ∀ d ∈ Json.escape c, isInline d := by
  rcases Json.escape_cases c with hs | ⟨-, hlt, he⟩ | ⟨hge, -, -, he⟩
  · simp only [Json.shortEscaped, List.mem_cons, List.not_mem_nil, or_false] at hs
    rcases hs with rfl | rfl | rfl | rfl | rfl | rfl | rfl <;> exact List.all_eq_true.1 (by decide)
  · have hcontrol : ∀ n : Fin 32, ['\\', 'u', '0', '0', Nat.digitChar (n.val / 16),
        Nat.digitChar (n.val % 16)].all isInline := by decide
    rw [he]
    exact List.all_eq_true.1 (hcontrol ⟨c.toNat, hlt⟩)
  · rw [he]
    simpa [isQuotable, Nat.not_lt.2 hge] using h

/-- The marks of documents stand at the start of a line. -/
theorem atMark_of_column {c : Char} {g : Glyph} {gs : List Glyph} (h : 0 < g.column) :
    atMark c (g :: gs) = false := by
  rcases gs with _ | ⟨g₂, _ | ⟨g₃, gs⟩⟩
  · rfl
  · rfl
  · simp [atMark, Nat.ne_of_gt h]

theorem atDocumentMark_of_column {g : Glyph} {gs : List Glyph} (h : 0 < g.column) :
    atDocumentMark (g :: gs) = false := by
  simp [atDocumentMark, atMark_of_column h]

/-- The digits that a control character is written with. -/
theorem digitIn?_control {n : Nat} (h : n < 0x20) :
    digitIn? 16 (Nat.digitChar (n / 16)) = some (n / 16) ∧
      digitIn? 16 (Nat.digitChar (n % 16)) = some (n % 16) :=
  (by decide : ∀ n : Fin 32, digitIn? 16 (Nat.digitChar (n.val / 16)) = some (n.val / 16) ∧
    digitIn? 16 (Nat.digitChar (n.val % 16)) = some (n.val % 16)) ⟨n, h⟩

theorem charOfCode?_toNat {c : Char} (h : c.toNat < 0xD800) : charOfCode? c.toNat = some c := by
  rw [charOfCode?, if_pos (.inl h), Char.ofNat_toNat]

/-- What is written for one character is read as that character. -/
theorem scanDouble_escape {c : Char} (h : isQuotable c) (rev blanks : List Char) {column : Nat}
    (hcolumn : 0 < column) (rest : List Char) :
    ∃ rev' blanks', blanks' ++ rev' = c :: blanks ++ rev ∧
      scanDouble rev (.text (.blanks blanks)) (inLine column (Json.escape c ++ rest)) =
        scanDouble rev' (.text (.blanks blanks'))
          (inLine (column + (Json.escape c).length) rest) := by
  rcases Json.escape_cases c with hs | ⟨-, hlt, he⟩ | ⟨hge, hquote, hback, he⟩
  · refine ⟨c :: blanks ++ rev, [], rfl, ?_⟩
    simp only [Json.shortEscaped, List.mem_cons, List.not_mem_nil, or_false] at hs
    rcases hs with rfl | rfl | rfl | rfl | rfl | rfl | rfl <;>
      simp [Json.escape, inLine, scanDouble, atDocumentMark_of_column, hcolumn, isBreak, isSeparator,
        isBlank, codeLength?, escaped?, Gap.folded, Gap.none]
  · refine ⟨c :: blanks ++ rev, [], rfl, ?_⟩
    obtain ⟨hhigh, hlow⟩ := digitIn?_control hlt
    have hzero : digitIn? 16 '0' = some 0 := by decide
    have hcode : charOfCode? (16 * (c.toNat / 16) + c.toNat % 16) = some c := by
      rw [Nat.div_add_mod]
      exact charOfCode?_toNat (by omega)
    simp [he, inLine, scanDouble, atDocumentMark_of_column, hcolumn, isBreak, isSeparator, isBlank,
      codeLength?, hzero, hhigh, hlow, hcode, Gap.folded, Gap.none]
  · have hinline : isInline c := by simpa [isQuotable, Nat.not_lt.2 hge] using h
    have hbreak : isBreak c = false := by
      simp only [isInline, isLineFeed, Bool.and_eq_true, Bool.not_eq_true', Bool.or_eq_false_iff]
        at hinline
      simp [isBreak, hinline]
    by_cases hblank : isBlank c
    · exact ⟨rev, c :: blanks, rfl, by simp [he, inLine, scanDouble, hbreak, hblank, Gap.addBlank]⟩
    · exact ⟨c :: blanks ++ rev, [], rfl, by simp [he, inLine, scanDouble, hbreak, hblank,
        atDocumentMark_of_column, hcolumn, hquote, hback, Gap.folded, Gap.none]⟩

/-- What is written between quotes is read as itself. -/
theorem scanDouble_quoted {cs : List Char} (h : ∀ c ∈ cs, isQuotable c) (rev blanks : List Char)
    {column : Nat} (hcolumn : 0 < column) (rest : List Char) :
    scanDouble rev (.text (.blanks blanks)) (inLine column (cs.flatMap Json.escape ++ '"' :: rest)) =
      some (cs.reverse ++ blanks ++ rev,
        inLine (column + (cs.flatMap Json.escape).length + 1) rest) := by
  induction cs generalizing rev blanks column with
  | nil =>
    simp [inLine, scanDouble, atDocumentMark_of_column, hcolumn, isBreak, isSeparator, isBlank,
      Gap.folded]
  | cons c cs ih =>
    obtain ⟨hc, hcs⟩ := List.forall_mem_cons.1 h
    obtain ⟨rev', blanks', hrev, hscan⟩ :=
      scanDouble_escape hc rev blanks hcolumn (cs.flatMap Json.escape ++ '"' :: rest)
    rw [List.flatMap_cons, List.append_assoc, hscan, ih hcs rev' blanks' (by omega)]
    simp [hrev, Nat.add_assoc]

def isWord (c : Char) : Bool := c.isAlphanum || c == '-'

def isFlowEnd (c : Char) : Bool := c == ',' || c == ']' || c == '\x7d'

theorem ne_of_isWord {c : Char} (hc : isWord c) (d : Char) (hd : isWord d = false) : c ≠ d := by
  rintro rfl
  exact absurd hc (by simp [hd])

theorem isWord_spec {c : Char} (h : isWord c) :
    isBreak c = false ∧ isBlank c = false ∧ c ≠ ':' ∧ isFlowIndicator c = false := by
  simp only [isBreak, isSeparator, isBlank, isFlowIndicator, Bool.or_eq_false_iff, beq_eq_false_iff_ne]
  refine ⟨⟨?_, ?_, ?_⟩, ⟨?_, ?_⟩, ?_, ⟨⟨⟨?_, ?_⟩, ?_⟩, ?_⟩, ?_⟩ <;> exact ne_of_isWord h _ (by decide)

theorem isAmbiguous_of_ne {g : Glyph} (h : g.char ≠ ':') (gs : List Glyph) :
    isAmbiguous (g :: gs) = false := by
  unfold isAmbiguous
  split
  · rename_i heq
    obtain ⟨rfl, -⟩ := List.cons.inj heq
    exact absurd rfl h
  · rfl

theorem endsPlain_of_ne {g : Glyph} (h : g.char ≠ ':') (flow : Bool) (gs : List Glyph) :
    endsPlain flow (g :: gs) = (flow && isFlowIndicator g.char) := by
  unfold endsPlain
  split
  · rename_i heq
    obtain ⟨rfl, -⟩ := List.cons.inj heq
    exact absurd rfl h
  · rename_i heq
    obtain ⟨rfl, -⟩ := List.cons.inj heq
    rfl
  · contradiction

/-- A word inside a flow collection is read up to the end of the value. -/
theorem scanPlain_word {cs : List Char} (h : ∀ c ∈ cs, isWord c) (indent : Nat) (rev : List Char)
    (column : Nat) {d : Char} (hd : isFlowEnd d) (rest : List Char) :
    scanPlain true indent rev .none (inLine column (cs ++ d :: rest)) =
      some ⟨cs.reverse ++ rev, false, inLine (column + cs.length) (d :: rest)⟩ := by
  induction cs generalizing rev column with
  | nil =>
    simp only [isFlowEnd, Bool.or_eq_true, beq_iff_eq] at hd
    rcases hd with (rfl | rfl) | rfl <;>
      simp [inLine, scanPlain, isBreak, isSeparator, isBlank, isAmbiguous, endsPlain, isFlowIndicator,
        Gap.isNone, Gap.isBroken, Gap.none]
  | cons c cs ih =>
    obtain ⟨hc, hcs⟩ := List.forall_mem_cons.1 h
    obtain ⟨hbreak, hblank, hcolon, hflow⟩ := isWord_spec hc
    have hread : scanPlain true indent rev .none (inLine column (c :: cs ++ d :: rest)) =
        scanPlain true indent (c :: rev) .none (inLine (column + 1) (cs ++ d :: rest)) := by
      simp [inLine, scanPlain, hbreak, hblank, isAmbiguous_of_ne (g := ⟨c, 0, column⟩) hcolon,
        endsPlain_of_ne (g := ⟨c, 0, column⟩) hcolon, hflow, Gap.isNone, Gap.none, Gap.folded]
    rw [hread, ih hcs]
    simp [Nat.add_assoc, Nat.add_comm 1]

end PoolPlan.Yaml
