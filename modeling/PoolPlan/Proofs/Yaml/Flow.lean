import PoolPlan.Proofs.Yaml.Line
import PoolPlan.Yaml.Token.Lexer

namespace PoolPlan
namespace Yaml.Lexer

/-- Inside `level` flow collections, with no block collection open: a key may be given up at any time. -/
structure Within (s : Lexer) (level : Nat) (tokens : List Token) (allowed : Bool) : Prop where
  indents : s.indents = []
  key : ∀ k ∈ s.key, k.required = false
  outerKeys : ∀ o ∈ s.outerKeys, ∀ k ∈ o, k.required = false
  level : s.outerKeys.length = level
  tokens : s.tokens = tokens
  keyAllowed : s.keyAllowed = allowed

theorem within_start : start.Within 0 [] true := ⟨rfl, nofun, nofun, rfl, rfl, rfl⟩

variable {s : Lexer} {level : Nat} {token : Token} {tokens : List Token} {allowed : Bool}

theorem Within.inFlow (h : s.Within (level + 1) tokens allowed) : s.inFlow = true := by
  obtain ⟨k, ks, hkeys⟩ := List.exists_cons_of_length_eq_add_one h.level
  simp [Lexer.inFlow, hkeys]

theorem Within.closeBlocks (h : s.Within level tokens allowed) (closes : Nat → Bool) :
    s.closeBlocks closes = s := by
  obtain ⟨tokens, count, indents, key, outerKeys, keyAllowed⟩ := s
  obtain rfl : indents = [] := h.indents
  simp [Lexer.closeBlocks]

theorem exists_expire (g : Glyph) {o : Option PossibleKey} (h : ∀ k ∈ o, k.required = false) :
    ∃ o', expire g o = some o' ∧ ∀ k ∈ o', k.required = false := by
  cases o with
  | none => exact ⟨none, rfl, nofun⟩
  | some k =>
    have hk : k.required = false := h k rfl
    by_cases hfar : k.line < g.line ∨ k.column + 1024 < g.column
    · exact ⟨none, by simp [expire, hfar, hk], nofun⟩
    · exact ⟨some k, by simp [expire, hfar], h⟩

theorem exists_mapM_expire (g : Glyph) {os : List (Option PossibleKey)}
    (h : ∀ o ∈ os, ∀ k ∈ o, k.required = false) :
    ∃ os', os.mapM (expire g) = some os' ∧ os'.length = os.length ∧
      ∀ o ∈ os', ∀ k ∈ o, k.required = false := by
  induction os with
  | nil => exact ⟨[], rfl, rfl, nofun⟩
  | cons o os ih =>
    obtain ⟨ho, hos⟩ := List.forall_mem_cons.1 h
    obtain ⟨o', hexpire, ho'⟩ := exists_expire g ho
    obtain ⟨os', hexpires, hlength, hos'⟩ := ih hos
    exact ⟨o' :: os', by simp [List.mapM_cons, hexpire, hexpires], by simp [hlength],
      List.forall_mem_cons.2 ⟨ho', hos'⟩⟩

/-- Time passes: possible keys may be forgotten, but not the last one while it is near. -/
theorem Within.exists_expireKeys (h : s.Within level tokens allowed) (g : Glyph) :
    ∃ s', s.expireKeys g = some s' ∧ s'.Within level tokens allowed ∧ s'.count = s.count ∧
      ∀ k, s.key = some k → g.line ≤ k.line → g.column ≤ k.column + 1024 → s'.key = some k := by
  obtain ⟨outerKeys, houter, hlength, houters⟩ := exists_mapM_expire g h.outerKeys
  obtain ⟨key, hexpire, hkey⟩ := exists_expire g h.key
  refine ⟨{ s with key := key, outerKeys := outerKeys }, by simp [expireKeys, houter, hexpire],
    ⟨h.indents, hkey, houters, hlength.trans h.level, h.tokens, h.keyAllowed⟩, rfl, ?_⟩
  intro k hk hline hcolumn
  have hnear : ¬(k.line < g.line ∨ k.column + 1024 < g.column) := by omega
  rw [hk, expire, if_neg hnear] at hexpire
  exact (Option.some.inj hexpire).symm

theorem Within.exists_dropKey (h : s.Within level tokens allowed) :
    ∃ s', s.dropKey = some s' ∧ s'.Within level tokens allowed ∧ s'.count = s.count := by
  unfold dropKey
  cases hkey : s.key with
  | none => exact ⟨s, rfl, h, rfl⟩
  | some k =>
    have hk : k.required = false := h.key k hkey
    exact ⟨{ s with key := none }, by simp [hk],
      ⟨h.indents, nofun, h.outerKeys, h.level, h.tokens, h.keyAllowed⟩, rfl⟩

/-- Where a key is allowed, what starts here may be one. -/
theorem Within.exists_saveKey (h : s.Within level tokens allowed) (g : Glyph) :
    ∃ s', s.saveKey g = some s' ∧ s'.Within level tokens allowed ∧ s'.count = s.count ∧
      (allowed = true → s'.key = some ⟨false, s.count, g.line, g.column⟩) := by
  unfold saveKey
  cases allowed with
  | false =>
    rw [if_neg (by simp [h.keyAllowed])]
    exact ⟨s, rfl, h, rfl, nofun⟩
  | true =>
    obtain ⟨s', hdrop, h', hcount⟩ := h.exists_dropKey
    rw [if_pos h.keyAllowed, hdrop]
    refine ⟨{ s' with key := some ⟨false, s'.count, g.line, g.column⟩ }, ?_,
      ⟨h'.indents, ?_, h'.outerKeys, h'.level, h'.tokens, h'.keyAllowed⟩, hcount,
      fun _ => by rw [hcount]⟩
    · simp [h'.indents]
    · rintro k ⟨⟩
      rfl

theorem Within.exists_node (h : s.Within level tokens allowed) (g : Glyph) (token : Token) :
    ∃ s', s.node g token = some s' ∧ s'.Within level (token :: tokens) false ∧
      (allowed = true → s'.key = some ⟨false, s.count, g.line, g.column⟩ ∧ s'.count = s.count + 1) := by
  obtain ⟨e, hsave, he, hcount, hkey⟩ := h.exists_saveKey g
  refine ⟨(e.allowKey false).emit token, by simp [node, hsave],
    ⟨he.indents, he.key, he.outerKeys, he.level, congrArg (token :: ·) he.tokens, rfl⟩, ?_⟩
  intro hallowed
  exact ⟨hkey hallowed, congrArg (· + 1) hcount⟩

/-- Reading comes from one place to another, with a step for each glyph at most. -/
def Reaches (s : Lexer) (gs : List Glyph) (s' : Lexer) (gs' : List Glyph) : Prop :=
  ∃ n, n + gs'.length ≤ gs.length ∧ ∀ fuel, s.run (fuel + n) gs = s'.run fuel gs'

theorem Reaches.trans {s₁ s₂ s₃ : Lexer} {gs₁ gs₂ gs₃ : List Glyph} (h : Reaches s₁ gs₁ s₂ gs₂)
    (h' : Reaches s₂ gs₂ s₃ gs₃) : Reaches s₁ gs₁ s₃ gs₃ := by
  obtain ⟨n, hn, hrun⟩ := h
  obtain ⟨n', hn', hrun'⟩ := h'
  refine ⟨n' + n, by omega, fun fuel => ?_⟩
  rw [← Nat.add_assoc, hrun, hrun']

def startsToken (c : Char) : Bool := !isBreak c && c != ' ' && c != '\t' && c != '#'

/-- One step reads one token. -/
theorem Within.reaches_of_token {s e s' : Lexer} (he : e.Within level tokens allowed) {c : Char}
    {column : Nat} {rest : List Char} {gs : List Glyph} (hc : startsToken c)
    (hexpire : s.expireKeys ⟨c, 0, column⟩ = some e)
    (htoken : e.token ⟨c, 0, column⟩ (inLine (column + 1) rest) = some (s', gs))
    (hless : gs.length ≤ rest.length) : Reaches s (inLine column (c :: rest)) s' gs := by
  have hskip : s.skip false (inLine column (c :: rest)) = (s, inLine column (c :: rest)) := by
    simp only [startsToken, Bool.and_eq_true, Bool.not_eq_true', bne_iff_ne] at hc
    obtain ⟨⟨⟨hbreak, hspace⟩, htab⟩, hcomment⟩ := hc
    simp [inLine, skip, hbreak, hspace, htab, hcomment]
  refine ⟨1, by simp only [length_inLine, List.length_cons]; omega, fun fuel => ?_⟩
  rw [run, hskip]
  simp only [inLine, hexpire, he.closeBlocks, htoken, bind, Option.bind_some]

theorem atMark_of_ne {c : Char} {g : Glyph} (h : g.char ≠ c) (gs : List Glyph) :
    atMark c (g :: gs) = false := by
  rcases gs with _ | ⟨g₂, _ | ⟨g₃, gs⟩⟩
  · rfl
  · rfl
  · simp [atMark, h]

theorem Within.reaches_opened (h : s.Within level tokens allowed) (column : Nat) {c : Char}
    (hc : c = '[' ∧ token = .flowSequence ∨ c = '\x7b' ∧ token = .flowMapping) (rest : List Char) :
    ∃ s', s'.Within (level + 1) (token :: tokens) true ∧
      Reaches s (inLine column (c :: rest)) s' (inLine (column + 1) rest) := by
  obtain ⟨e, hexpire, he, -⟩ := h.exists_expireKeys ⟨c, 0, column⟩
  obtain ⟨k, hsave, hk, -⟩ := he.exists_saveKey ⟨c, 0, column⟩
  let inner : Lexer := { k with key := none, outerKeys := k.key :: k.outerKeys }
  refine ⟨(inner.allowKey true).emit token,
    ⟨hk.indents, nofun, List.forall_mem_cons.2 ⟨hk.key, hk.outerKeys⟩, congrArg (· + 1) hk.level,
      congrArg (token :: ·) hk.tokens, rfl⟩, ?_⟩
  rcases hc with ⟨rfl, rfl⟩ | ⟨rfl, rfl⟩
  all_goals
    refine he.reaches_of_token (by decide) hexpire ?_ (by simp)
    simp [inner, Lexer.token, atMark_of_ne, openFlow, hsave]

theorem Within.reaches_closed (h : s.Within (level + 1) tokens allowed) (column : Nat) {c : Char}
    (hc : c = ']' ∧ token = .flowSequenceEnd ∨ c = '\x7d' ∧ token = .flowMappingEnd)
    (rest : List Char) :
    ∃ s', s'.Within level (token :: tokens) false ∧
      Reaches s (inLine column (c :: rest)) s' (inLine (column + 1) rest) := by
  obtain ⟨e, hexpire, he, -⟩ := h.exists_expireKeys ⟨c, 0, column⟩
  obtain ⟨d, hdrop, hd, -⟩ := he.exists_dropKey
  obtain ⟨k, ks, hkeys⟩ := List.exists_cons_of_length_eq_add_one hd.level
  obtain ⟨hk, hks⟩ := List.forall_mem_cons.1 (hkeys ▸ hd.outerKeys)
  have hlevel : ks.length = level := by
    have hlength := hd.level
    rw [hkeys] at hlength
    exact Nat.succ.inj hlength
  refine ⟨(({ d with key := k, outerKeys := ks } : Lexer).allowKey false).emit token,
    ⟨hd.indents, hk, hks, hlevel, congrArg (token :: ·) hd.tokens, rfl⟩, ?_⟩
  rcases hc with ⟨rfl, rfl⟩ | ⟨rfl, rfl⟩
  all_goals
    refine he.reaches_of_token (by decide) hexpire ?_ (by simp)
    simp [Lexer.token, atMark_of_ne, closeFlow, hdrop, hkeys]

theorem Within.reaches_separated (h : s.Within level tokens allowed) (column : Nat)
    (rest : List Char) :
    ∃ s', s'.Within level (.flowEntry :: tokens) true ∧
      Reaches s (inLine column (',' :: rest)) s' (inLine (column + 1) rest) := by
  obtain ⟨e, hexpire, he, -⟩ := h.exists_expireKeys ⟨',', 0, column⟩
  obtain ⟨d, hdrop, hd, -⟩ := he.exists_dropKey
  refine ⟨(d.allowKey true).emit .flowEntry,
    ⟨hd.indents, hd.key, hd.outerKeys, hd.level, congrArg (_ :: ·) hd.tokens, rfl⟩, ?_⟩
  refine he.reaches_of_token (by decide) hexpire ?_ (by simp)
  simp [Lexer.token, atMark_of_ne, flowEntry, hdrop]

/-- A quoted text, which may be a key where one is allowed. -/
theorem Within.reaches_quoted (h : s.Within level tokens allowed) {text : String}
    (htext : ∀ c ∈ text.toList, isQuotable c) (column : Nat) (rest : List Char) :
    ∃ s', s'.Within level (.scalar text .quoted :: tokens) false ∧
      (allowed = true → ∃ before, s'.key = some ⟨false, before, 0, column⟩ ∧ s'.count = before + 1) ∧
      Reaches s (inLine column (Json.quotedChars text.toList ++ rest)) s'
        (inLine (column + (Json.quotedChars text.toList).length) rest) := by
  obtain ⟨e, hexpire, he, -⟩ := h.exists_expireKeys ⟨'"', 0, column⟩
  obtain ⟨s', hnode, hs', hkey⟩ := he.exists_node ⟨'"', 0, column⟩ (.scalar text .quoted)
  refine ⟨s', hs', fun hallowed => ⟨e.count, hkey hallowed⟩, ?_⟩
  have hquoted : Json.quotedChars text.toList ++ rest =
      '"' :: (text.toList.flatMap Json.escape ++ '"' :: rest) := by simp [Json.quotedChars]
  have hlength : (Json.quotedChars text.toList).length =
      (text.toList.flatMap Json.escape).length + 2 := by simp [Json.quotedChars]
  have hend : column + 1 + (text.toList.flatMap Json.escape).length + 1 =
      column + ((text.toList.flatMap Json.escape).length + 2) := by omega
  have hscan := scanDouble_quoted htext [] [] (Nat.succ_pos column) rest
  rw [Nat.succ_eq_add_one, hend, List.append_nil, List.append_nil] at hscan
  rw [hquoted, hlength]
  refine he.reaches_of_token (by decide) hexpire ?_ ?_
  · simp [Lexer.token, atMark_of_ne, quoted, Gap.none, hscan, hnode]
  · simp only [length_inLine, List.length_append, List.length_cons]
    omega

theorem startsToken_of_isWord {c : Char} (h : isWord c) : startsToken c := by
  obtain ⟨hbreak, hblank, -⟩ := isWord_spec h
  simp only [isBlank, Bool.or_eq_false_iff] at hblank
  simp [startsToken, hbreak, bne, hblank, ne_of_isWord h '#' (by decide)]

theorem isReserved_of_isWord {c : Char} (h : isWord c) : isReserved c = false := by
  have hreserved : ",[]\x7b\x7d#&*!|>'\"%@\x60".toList.any isWord = false := by decide
  rw [isReserved, List.contains_eq_mem, decide_eq_false_iff_not]
  exact fun hmem => List.any_eq_false.1 hreserved c hmem h

/-- No blank follows a character of a word inside a collection. -/
theorem atWordEnd_word {cs : List Char} (h : ∀ c ∈ cs, isWord c) (column : Nat) {d : Char}
    (hd : isFlowEnd d) (rest : List Char) : atWordEnd (inLine column (cs ++ d :: rest)) = false := by
  cases cs with
  | nil =>
    simp only [isFlowEnd, Bool.or_eq_true, beq_iff_eq] at hd
    rcases hd with (rfl | rfl) | rfl <;> rfl
  | cons c cs =>
    obtain ⟨hbreak, hblank, -⟩ := isWord_spec (h c List.mem_cons_self)
    simp [inLine, atWordEnd, hbreak, hblank]

theorem token_of_isWord (s : Lexer) {c : Char} {cs : List Char} (h : ∀ d ∈ c :: cs, isWord d)
    {column : Nat} (hcolumn : 0 < column) {d : Char} (hd : isFlowEnd d) (rest : List Char) :
    s.token ⟨c, 0, column⟩ (inLine (column + 1) (cs ++ d :: rest)) =
      s.plain ⟨c, 0, column⟩ (inLine column (c :: (cs ++ d :: rest))) := by
  obtain ⟨hc, hcs⟩ := List.forall_mem_cons.1 h
  have hne := ne_of_isWord hc
  obtain ⟨-, hblank, -⟩ := isWord_spec hc
  have hmark (e : Char) : atMark e (⟨c, 0, column⟩ :: inLine (column + 1) (cs ++ d :: rest)) = false :=
    atMark_of_column hcolumn
  simp only [Lexer.token, Nat.ne_of_gt hcolumn, false_and, if_false, hmark, Bool.false_eq_true,
    hne '[' (by decide), hne ']' (by decide), hne '\x7b' (by decide), hne '\x7d' (by decide),
    hne ',' (by decide), hne '?' (by decide), hne ':' (by decide), hne '*' (by decide),
    hne '&' (by decide), hne '!' (by decide), hne '|' (by decide), hne '>' (by decide),
    hne '\'' (by decide), hne '"' (by decide), atWordEnd_word hcs (column + 1) hd rest, and_false,
    hblank, isReserved_of_isWord hc, Bool.or_self, inLine]

/-- A word. It has to stand inside a collection: outside of one it would go on behind a comma. -/
theorem Within.reaches_word (h : s.Within (level + 1) tokens allowed) {word : List Char}
    (hne : word ≠ []) (hword : ∀ c ∈ word, isWord c) {column : Nat} (hcolumn : 0 < column) {d : Char}
    (hd : isFlowEnd d) (rest : List Char) :
    ∃ s', s'.Within (level + 1) (.scalar (String.ofList word) .plain :: tokens) false ∧
      Reaches s (inLine column (word ++ d :: rest)) s'
        (inLine (column + word.length) (d :: rest)) := by
  obtain ⟨c, cs, rfl⟩ := List.exists_cons_of_ne_nil hne
  obtain ⟨e, hexpire, he, -⟩ := h.exists_expireKeys ⟨c, 0, column⟩
  obtain ⟨n, hnode, hn, -⟩ := he.exists_node ⟨c, 0, column⟩ (.scalar (String.ofList (c :: cs)) .plain)
  have hscan := scanPlain_word hword 0 [] column hd rest
  refine ⟨n.allowKey false, ⟨hn.indents, hn.key, hn.outerKeys, hn.level, hn.tokens, rfl⟩, ?_⟩
  rw [List.cons_append] at hscan ⊢
  refine he.reaches_of_token (startsToken_of_isWord (hword c List.mem_cons_self)) hexpire ?_ (by simp)
  rw [token_of_isWord e hword hcolumn hd rest]
  simp only [plain, he.inFlow, he.indents, List.head?_nil, Option.elim_none, hscan, List.append_nil,
    List.reverse_reverse, bind, Option.bind_some, hnode, pure]

/-- A colon makes a key of what stands before it, if that is near enough. -/
theorem Within.reaches_colon (h : s.Within (level + 1) (token :: tokens) allowed) {k : PossibleKey}
    (hkey : s.key = some k) (hcount : s.count = k.before + 1) {column : Nat}
    (hnear : column ≤ k.column + 1024) (rest : List Char) :
    ∃ s', s'.Within (level + 1) (.value :: token :: .key :: tokens) false ∧
      Reaches s (inLine column (':' :: rest)) s' (inLine (column + 1) rest) := by
  obtain ⟨e, hexpire, he, hecount, hnot⟩ := h.exists_expireKeys ⟨':', 0, column⟩
  have hekey : e.key = some k := hnot k hkey (Nat.zero_le _) hnear
  have hflow : (e.insert k.before .key).inFlow = true := he.inFlow
  -- the key goes behind the one token that was read since it was thought possible
  let named : Lexer := { e.insert k.before .key with key := none }
  refine ⟨(named.allowKey false).emit .value, ?_, ?_⟩
  · refine ⟨he.indents, nofun, he.outerKeys, he.level, ?_, rfl⟩
    simp [named, allowKey, emit, Lexer.insert, insertBehind, he.tokens, hecount, hcount]
  · refine he.reaches_of_token (by decide) hexpire ?_ (by simp)
    simp [named, Lexer.token, atMark_of_ne, valueMark, hekey, openBlock, hflow, he.inFlow]

/-- A key and its colon. -/
theorem Within.reaches_key (h : s.Within (level + 1) tokens true) {text : String}
    (htext : ∀ c ∈ text.toList, isQuotable c)
    (hlength : (Json.quotedChars text.toList).length ≤ 1024) (column : Nat) (rest : List Char) :
    ∃ s', s'.Within (level + 1) (.value :: .scalar text .quoted :: .key :: tokens) false ∧
      Reaches s (inLine column (Json.quotedChars text.toList ++ ':' :: rest)) s'
        (inLine (column + (Json.quotedChars text.toList).length + 1) rest) := by
  obtain ⟨k, hk, hkey, hquoted⟩ := h.reaches_quoted htext column (':' :: rest)
  obtain ⟨before, hpossible, hcount⟩ := hkey rfl
  have hnear : column + (Json.quotedChars text.toList).length ≤ column + 1024 := by omega
  obtain ⟨s', hs', hcolon⟩ := hk.reaches_colon hpossible hcount hnear rest
  exact ⟨s', hs', hquoted.trans hcolon⟩

end Yaml.Lexer
end PoolPlan
