import PoolPlan.Proofs.Class.Fingerprint
import PoolPlan.Proofs.Reconcile
import PoolPlan.Proofs.Text.Blank

namespace PoolPlan

namespace VersionMarker

/-- ASCII digits that stand for a number below 2^64, leading zeros allowed. -/
structure Denotes (digits : List Char) (n : Nat) : Prop where
  nonempty : digits ≠ []
  ascii : ∀ c ∈ digits, c.isDigit = true
  value : Nat.ofDigitChars 10 digits 0 = n
  bound : n < UInt64.size

/-- The text is a version with the given numbers: beside white space at both ends it is a `v` or
nothing, two or three numbers with dots between them, and whatever a dash or a plus sign begins. -/
def Spells (version : String) (numbers : List Nat) : Prop :=
  ∃ mark parts rest, Text.trim version.toList = mark ++ (['.'].intercalate parts ++ rest) ∧
    (mark = [] ∨ mark = ['v']) ∧
    (parts.length = 2 ∨ parts.length = 3) ∧ List.Forall₂ Denotes parts numbers ∧
    ∀ c ∈ rest.head?, c = '-' ∨ c = '+'

theorem number?_eq_some_iff {cs : List Char} {n : Nat} : number? cs = some n ↔ Denotes cs n := by
  rw [number?, Option.ite_none_right_eq_some, Option.some.injEq, List.all_eq_true]
  constructor
  · intro h
    obtain ⟨⟨hne, hdigits, hbound⟩, rfl⟩ := h
    exact ⟨hne, hdigits, rfl, hbound⟩
  · intro h
    exact ⟨⟨h.nonempty, h.ascii, h.value ▸ h.bound⟩, h.value⟩

theorem numbers_eq_ok_iff {parts : List (List Char)} {ns : List Nat} :
    numbers parts = .ok ns ↔ List.Forall₂ Denotes parts ns := by
  induction parts generalizing ns with
  | nil => simp [numbers, eq_comm]
  | cons part parts ih =>
    rw [numbers, List.forall₂_cons_left_iff]
    cases hn : number? part with
    | none =>
      simp only [reduceCtorEq, false_iff, not_exists, not_and]
      intro n rest h
      rw [number?_eq_some_iff.2 h] at hn
      contradiction
    | some n =>
      have hsame (m : Nat) : Denotes part m ↔ n = m := by
        rw [← number?_eq_some_iff, hn, Option.some.injEq]
      cases hrest : numbers parts with
      | error fault =>
        have hnone (rest : List Nat) : ¬List.Forall₂ Denotes parts rest := by
          rw [← ih, hrest]
          exact nofun
        simp [Except.map, hnone]
      | ok rest =>
        have hall (others : List Nat) : List.Forall₂ Denotes parts others ↔ rest = others := by
          rw [← ih, hrest, Except.ok.injEq]
        simp [Except.map, hsame, hall, eq_comm]

/-- The mark and the numbers of a trimmed text, and what comes after them. -/
theorem exists_mark (cs : List Char) : ∃ mark, cs = mark ++ stripV cs ∧ (mark = [] ∨ mark = ['v']) := by
  unfold stripV
  split
  · exact ⟨['v'], rfl, .inr rfl⟩
  · exact ⟨[], rfl, .inl rfl⟩

theorem exists_rest (cs : List Char) :
    ∃ rest, cs = core cs ++ rest ∧ ∀ c ∈ rest.head?, c = '-' ∨ c = '+' := by
  refine ⟨cs.dropWhile (fun c => c != '-' && c != '+'), List.takeWhile_append_dropWhile.symm, ?_⟩
  intro c hc
  have hmark := List.head?_dropWhile_not (fun c => c != '-' && c != '+') cs
  rw [Option.mem_def.1 hc] at hmark
  simpa [or_iff_not_imp_left] using hmark

theorem core_append {cs rest : List Char} (hcs : ∀ c ∈ cs, c ≠ '-' ∧ c ≠ '+')
    (hrest : ∀ c ∈ rest.head?, c = '-' ∨ c = '+') : core (cs ++ rest) = cs := by
  have hempty : rest.takeWhile (fun c => c != '-' && c != '+') = [] := by
    cases rest with
    | nil => rfl
    | cons c rest =>
      apply List.takeWhile_cons_of_neg
      have hc := hrest c rfl
      simp only [Bool.and_eq_true, bne_iff_ne, ne_eq, not_and_or, not_not]
      exact hc
  rw [core, List.takeWhile_append_of_pos, hempty, List.append_nil]
  intro c hc
  obtain ⟨hdash, hplus⟩ := hcs c hc
  simp [hdash, hplus]

section Numbers
variable {parts : List (List Char)} {ns : List Nat}

theorem mem_intercalate {c : Char} (h : c ∈ ['.'].intercalate parts) :
    c = '.' ∨ ∃ part ∈ parts, c ∈ part := by
  induction parts with
  | nil => contradiction
  | cons part parts ih =>
    cases parts with
    | nil =>
      rw [List.intercalate_singleton] at h
      exact .inr ⟨part, List.mem_cons_self, h⟩
    | cons next parts =>
      rw [List.intercalate_cons_cons, List.append_assoc, List.mem_append, List.mem_append,
        List.mem_singleton] at h
      rcases h with h | h | h
      · exact .inr ⟨part, List.mem_cons_self, h⟩
      · exact .inl h
      · rcases ih h with hdot | ⟨other, hother, hc⟩
        · exact .inl hdot
        · exact .inr ⟨other, List.mem_cons_of_mem _ hother, hc⟩

/-- Numbers with dots between them have no other characters. -/
theorem isDigit_of_mem (h : List.Forall₂ Denotes parts ns) {c : Char}
    (hc : c ∈ ['.'].intercalate parts) : c = '.' ∨ c.isDigit = true := by
  rcases mem_intercalate hc with hdot | ⟨part, hpart, hmem⟩
  · exact .inl hdot
  · obtain ⟨n, -, hn⟩ := h.flip.exists_of_mem hpart
    exact .inr (hn.ascii c hmem)

theorem dot_not_mem (h : List.Forall₂ Denotes parts ns) {part : List Char} (hpart : part ∈ parts) :
    '.' ∉ part := by
  intro hdot
  obtain ⟨n, -, hn⟩ := h.flip.exists_of_mem hpart
  exact absurd (hn.ascii '.' hdot) (by decide)

theorem core_numbers (h : List.Forall₂ Denotes parts ns) {rest : List Char}
    (hrest : ∀ c ∈ rest.head?, c = '-' ∨ c = '+') :
    core (['.'].intercalate parts ++ rest) = ['.'].intercalate parts := by
  refine core_append ?_ hrest
  intro c hc
  rcases isDigit_of_mem h hc with rfl | hdigit
  · decide
  · constructor
    · rintro rfl
      contradiction
    · rintro rfl
      contradiction

/-- Numbers do not begin with a mark, so none is taken away from them. -/
theorem stripV_numbers (h : List.Forall₂ Denotes parts ns) (hne : parts ≠ []) (rest : List Char) :
    stripV (['.'].intercalate parts ++ rest) = ['.'].intercalate parts ++ rest := by
  cases h with
  | nil => contradiction
  | @cons part n parts ns hn h =>
    obtain ⟨c, cs, rfl⟩ := List.exists_cons_of_ne_nil hn.nonempty
    have hc : c ≠ 'v' := by
      rintro rfl
      exact absurd (hn.ascii 'v' List.mem_cons_self) (by decide)
    rw [List.intercalate_cons_cons_left, List.cons_append, stripV]
    exact fun _ he => hc (List.cons.inj he).1

end Numbers

/-- A trimmed text taken apart: its numbers are two or three, and of them two are kept. -/
theorem ofChars_eq_ok_iff {cs : List Char} {parts : List (List Char)} {m : VersionMarker}
    (hparts : Text.split '.' (core (stripV (Text.trim cs))) = parts) :
    ofChars cs = .ok m ↔ (parts.length = 2 ∨ parts.length = 3) ∧
      ∃ ns, List.Forall₂ Denotes parts ns ∧ ns.take 2 = [m.major, m.minor] := by
  simp only [ofChars, hparts, ← numbers_eq_ok_iff]
  constructor
  · intro h
    split at h
    · contradiction
    · rename_i hlength
      split at h
      · contradiction
      · rename_i major minor rest hnumbers
        cases h
        exact ⟨by omega, major :: minor :: rest, hnumbers, rfl⟩
      · contradiction
  · intro h
    obtain ⟨hlength, ns, hnumbers, htake⟩ := h
    rw [if_neg (by omega), hnumbers]
    match ns, htake with
    | major :: minor :: rest, htake =>
      simp only [List.take_succ_cons, List.take_zero, List.cons.injEq, and_true] at htake
      obtain ⟨rfl, rfl⟩ := htake
      rfl

/-- Exactly the versions of the grammar are accepted, and their first two numbers are kept. -/
theorem ofVersion_eq_ok_iff {version : String} {m : VersionMarker} :
    ofVersion version = .ok m ↔
      ∃ numbers, Spells version numbers ∧ numbers.take 2 = [m.major, m.minor] := by
  constructor
  · intro h
    obtain ⟨mark, hmark, hv⟩ := exists_mark (Text.trim version.toList)
    obtain ⟨rest, hrest, hends⟩ := exists_rest (stripV (Text.trim version.toList))
    obtain ⟨hlength, ns, hnumbers, htake⟩ := (ofChars_eq_ok_iff rfl).1 h
    refine ⟨ns, ⟨mark, _, rest, ?_, hv, hlength, hnumbers, hends⟩, htake⟩
    rw [Text.split_eq_splitOn, List.intercalate_splitOn, ← hrest, ← hmark]
  · intro h
    obtain ⟨ns, ⟨mark, parts, rest, htext, hv, hlength, hnumbers, hends⟩, htake⟩ := h
    have hne : parts ≠ [] := by
      rintro rfl
      simp at hlength
    have hstrip : stripV (Text.trim version.toList) = ['.'].intercalate parts ++ rest := by
      rw [htext]
      rcases hv with rfl | rfl
      · exact stripV_numbers hnumbers hne rest
      · rfl
    refine (ofChars_eq_ok_iff ?_).2 ⟨hlength, ns, hnumbers, htake⟩
    rw [hstrip, core_numbers hnumbers hends, Text.split_eq_splitOn]
    exact List.splitOn_intercalate '.' (fun part hpart => dot_not_mem hnumbers hpart) hne

theorem exists_take_two {numbers : List Nat} {version : String} (h : Spells version numbers) :
    ∃ m : VersionMarker, numbers.take 2 = [m.major, m.minor] := by
  obtain ⟨mark, parts, rest, -, -, hlength, hnumbers, -⟩ := h
  have hsame := hnumbers.length_eq
  match numbers with
  | major :: minor :: _ => exact ⟨⟨major, minor⟩, rfl⟩
  | [] | [_] =>
    simp only [List.length_cons, List.length_nil] at hsame
    omega

theorem denotes_toDigits {n : Nat} (h : n < UInt64.size) : Denotes (Nat.toDigits 10 n) n where
  nonempty := Nat.toDigits_ne_nil
  ascii _ hc := Nat.isDigit_of_mem_toDigits (by decide) (by decide) hc
  value := Nat.ofDigitChars_ten_toDigits
  bound := h

/-- What is kept of a version is a version, of its two numbers. -/
theorem spells_text {m : VersionMarker} (hmajor : m.major < UInt64.size)
    (hminor : m.minor < UInt64.size) : Spells m.text [m.major, m.minor] := by
  have hnumbers : List.Forall₂ Denotes [Nat.toDigits 10 m.major, Nat.toDigits 10 m.minor]
      [m.major, m.minor] := .cons (denotes_toDigits hmajor) (.cons (denotes_toDigits hminor) .nil)
  have htext : m.text.toList =
      ['.'].intercalate [Nat.toDigits 10 m.major, Nat.toDigits 10 m.minor] := by
    rw [toList_text, List.intercalate_cons_cons, List.intercalate_singleton, List.append_assoc]
    rfl
  refine ⟨[], _, [], ?_, .inl rfl, .inl rfl, hnumbers, nofun⟩
  have hblank (c : Char) (hc : c ∈ m.text.toList) : Text.isBlank c = false := by
    rw [htext] at hc
    rcases isDigit_of_mem hnumbers hc with rfl | hdigit
    · decide
    · exact Text.isBlank_of_isDigit hdigit
  rw [List.nil_append, List.append_nil, ← htext]
  apply Text.trim_eq_self
  · intro c hc
    exact hblank c (List.mem_of_mem_head? hc)
  · intro c hc
    exact hblank c (List.mem_of_mem_getLast? hc)

/-- A marker that was kept is kept as it is. -/
theorem ofVersion_text {version : String} {m : VersionMarker} (h : ofVersion version = .ok m) :
    ofVersion m.text = .ok m := by
  obtain ⟨numbers, ⟨mark, parts, rest, -, -, -, hnumbers, -⟩, htake⟩ := ofVersion_eq_ok_iff.1 h
  have hbound (n : Nat) (hn : n ∈ [m.major, m.minor]) : n < UInt64.size := by
    rw [← htake] at hn
    obtain ⟨digits, -, hd⟩ := hnumbers.exists_of_mem (List.mem_of_mem_take hn)
    exact hd.bound
  have hmajor := hbound m.major List.mem_cons_self
  have hminor := hbound m.minor (List.mem_cons_of_mem _ List.mem_cons_self)
  exact ofVersion_eq_ok_iff.2 ⟨_, spells_text hmajor hminor, rfl⟩

/-- The first two numbers of an accepted text are those that are kept. -/
theorem take_two_eq {version : String} {numbers : List Nat} {m : VersionMarker}
    (hs : Spells version numbers) (h : ofVersion version = .ok m) :
    numbers.take 2 = [m.major, m.minor] := by
  obtain ⟨n, hn⟩ := exists_take_two hs
  have hsame : ofVersion version = .ok n := ofVersion_eq_ok_iff.2 ⟨numbers, hs, hn⟩
  rw [h, Except.ok.injEq] at hsame
  rw [hn, hsame]

theorem text_eq_intercalate {numbers : List Nat} {m : VersionMarker}
    (h : numbers.take 2 = [m.major, m.minor]) :
    m.text = ".".intercalate ((numbers.take 2).map toString) := by
  rw [h]
  rfl

end VersionMarker

namespace ClusterInfo
open VersionMarker

/-- A version is accepted exactly if its text is one of the grammar, and else it is reported as it
was given. What is kept is the text of the first two numbers: it tells versions apart by them alone, and
is itself kept as it is. -/
theorem markers_follow_grammar (c d : ClusterInfo) :
    ((∃ m, c.marker = .ok m) ↔ ∃ numbers, Spells c.version numbers) ∧
      ((¬∃ numbers, Spells c.version numbers) →
        ∃ detail, c.marker = .error (.invalidVersion c.version detail)) ∧
      (∀ numbers, Spells c.version numbers → ∃ m, c.marker = .ok m ∧
        m.text = ".".intercalate ((numbers.take 2).map toString) ∧
          marker ⟨m.text, c.podNetworkCidr⟩ = .ok m) ∧
      ∀ numbers others m n, Spells c.version numbers → Spells d.version others →
        c.marker = .ok m → d.marker = .ok n →
          (m.text = n.text ↔ numbers.take 2 = others.take 2) := by
  have haccepted (numbers : List Nat) (hs : Spells c.version numbers) :
      ∃ m, c.marker = .ok m ∧ numbers.take 2 = [m.major, m.minor] := by
    obtain ⟨m, hm⟩ := exists_take_two hs
    exact ⟨m, marker_eq_ok_iff.2 (ofVersion_eq_ok_iff.2 ⟨numbers, hs, hm⟩), hm⟩
  have hspelled (m : VersionMarker) (h : c.marker = .ok m) : ∃ numbers, Spells c.version numbers := by
    obtain ⟨numbers, hs, -⟩ := ofVersion_eq_ok_iff.1 (marker_eq_ok_iff.1 h)
    exact ⟨numbers, hs⟩
  refine ⟨⟨?_, ?_⟩, ?_, ?_, ?_⟩
  · intro h
    obtain ⟨m, hm⟩ := h
    exact hspelled m hm
  · intro h
    obtain ⟨numbers, hs⟩ := h
    obtain ⟨m, hm, -⟩ := haccepted numbers hs
    exact ⟨m, hm⟩
  · intro hnone
    cases hmarker : VersionMarker.ofVersion c.version with
    | ok m => exact absurd (hspelled m (marker_eq_ok_iff.2 hmarker)) hnone
    | error fault => exact ⟨fault.message, by simp only [marker, hmarker, Failure.ofVersionFault]⟩
  · intro numbers hs
    obtain ⟨m, hm, htake⟩ := haccepted numbers hs
    refine ⟨m, hm, text_eq_intercalate htake, ?_⟩
    exact marker_eq_ok_iff.2 (ofVersion_text (marker_eq_ok_iff.1 hm))
  · intro numbers others m n hs ho hm hn
    rw [take_two_eq hs (marker_eq_ok_iff.1 hm), take_two_eq ho (marker_eq_ok_iff.1 hn)]
    constructor
    · intro h
      rw [text_injective h]
    · intro h
      simp only [List.cons.injEq, and_true] at h
      exact congrArg VersionMarker.text (congr (congrArg VersionMarker.mk h.1) h.2)

end ClusterInfo

namespace Sample

theorem spells_marked : VersionMarker.Spells " v01.0029.3-rc.1\n" [1, 29, 3] := by
  have hnumbers : List.Forall₂ VersionMarker.Denotes
      [['0', '1'], ['0', '0', '2', '9'], ['3']] [1, 29, 3] := VersionMarker.numbers_eq_ok_iff.1 rfl
  refine ⟨['v'], _, '-' :: "rc.1".toList, by decide, .inr rfl, .inr rfl, hnumbers, ?_⟩
  intro c hc
  exact .inl (Option.some.inj hc).symm

theorem spells_short : VersionMarker.Spells "1.29+build" [1, 29] := by
  have hnumbers : List.Forall₂ VersionMarker.Denotes [['1'], ['2', '9']] [1, 29] :=
    VersionMarker.numbers_eq_ok_iff.1 rfl
  refine ⟨[], _, '+' :: "build".toList, by decide, .inl rfl, .inl rfl, hnumbers, ?_⟩
  intro c hc
  exact .inr (Option.some.inj hc).symm

/-- Neither a mark nor zeros in front nor what comes after the second number make a difference. -/
theorem marked_version_same_as_short :
    ∃ m n, ClusterInfo.marker ⟨" v01.0029.3-rc.1\n", none⟩ = .ok m ∧
      ClusterInfo.marker ⟨"1.29+build", none⟩ = .ok n ∧ m.text = "1.29" ∧ m.text = n.text := by
  obtain ⟨-, -, hmarked, hsame⟩ :=
    ClusterInfo.markers_follow_grammar ⟨" v01.0029.3-rc.1\n", none⟩ ⟨"1.29+build", none⟩
  obtain ⟨-, -, hshort, -⟩ :=
    ClusterInfo.markers_follow_grammar ⟨"1.29+build", none⟩ ⟨"1.29+build", none⟩
  obtain ⟨m, hm, htext, -⟩ := hmarked [1, 29, 3] spells_marked
  obtain ⟨n, hn, -, -⟩ := hshort [1, 29] spells_short
  exact ⟨m, n, hm, hn, htext, (hsame _ _ m n spells_marked spells_short hm hn).2 rfl⟩

end Sample
end PoolPlan
