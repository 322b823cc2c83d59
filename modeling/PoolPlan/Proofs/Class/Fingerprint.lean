import PoolPlan.Class.Fingerprint
import PoolPlan.Proofs.Class.Spec
import PoolPlan.Proofs.Lists

namespace PoolPlan

namespace Utf8

theorem encode_append (s t : String) : encode (s ++ t) = encode s ++ encode t := by
  simp [encode, String.toByteArray_append]

theorem encode_injective {s t : String} (h : encode s = encode t) : s = t := by
  have hd := decode_encode s
  rw [h, decode_encode] at hd
  exact (Except.ok.inj hd).symm

end Utf8

namespace VersionMarker

theorem toList_text (m : VersionMarker) :
    m.text.toList = Nat.toDigits 10 m.major ++ '.' :: Nat.toDigits 10 m.minor := by
  simp [text, toString, Nat.toList_repr]

theorem not_mem_toDigits {c : Char} (hc : c.isDigit = false) (n : Nat) : c ∉ Nat.toDigits 10 n := by
  intro hm
  rw [Nat.isDigit_of_mem_toDigits (by decide) (by decide) hm] at hc
  contradiction

theorem toDigits_injective {m n : Nat} (h : Nat.toDigits 10 m = Nat.toDigits 10 n) : m = n := by
  have hm := Nat.ofDigitChars_ten_toDigits (n := m)
  rw [h, Nat.ofDigitChars_ten_toDigits] at hm
  exact hm.symm

theorem text_injective {m n : VersionMarker} (h : m.text = n.text) : m = n := by
  have hl := congrArg String.toList h
  rw [toList_text, toList_text] at hl
  obtain ⟨hmajor, hminor⟩ := List.append_cons_inj_of_not_mem (not_mem_toDigits (by decide) m.major)
    (not_mem_toDigits (by decide) n.major) hl
  exact congr (congrArg mk (toDigits_injective hmajor)) (toDigits_injective hminor)

theorem nul_not_mem_text (m : VersionMarker) : '\x00' ∉ m.text.toList := by
  rw [toList_text]
  simp [not_mem_toDigits]

end VersionMarker

namespace ClassSpec

/-- The hashed bytes as one text, in which a null character stands between the two parts. -/
theorem hashedBytes_eq_encode (spec : ClassSpec) (version : VersionMarker) :
    spec.hashedBytes version =
      Utf8.encode (version.text ++ "\x00" ++ (spec.erase nameField).canonicalText) := by
  rw [hashedBytes, Utf8.encode_append, Utf8.encode_append, List.append_assoc]
  rfl

theorem hashedBytes_inj {a b : ClassSpec} {v w : VersionMarker} (ha : a.Exact) (hb : b.Exact)
    (h : a.hashedBytes v = b.hashedBytes w) : v = w ∧ a.erase nameField = b.erase nameField := by
  rw [hashedBytes_eq_encode, hashedBytes_eq_encode] at h
  have hl := congrArg String.toList (Utf8.encode_injective h)
  simp only [String.toList_append, List.append_assoc] at hl
  obtain ⟨hversion, htext⟩ :=
    List.append_cons_inj_of_not_mem v.nul_not_mem_text w.nul_not_mem_text hl
  refine ⟨VersionMarker.text_injective (String.toList_injective hversion), ?_⟩
  exact eq_of_canonicalText (exact_erase ha _) (exact_erase hb _) (String.toList_injective htext)

def suffix (bytes : Bytes) : String :=
  String.ofList (Hex.encode ((Sha256.digest bytes).take fingerprintLength))

theorem fingerprint_eq_suffix (spec : ClassSpec) (version : VersionMarker) :
    spec.fingerprint version = suffix (spec.hashedBytes version) := rfl

theorem length_digest (bytes : Bytes) : (Sha256.digest bytes).length = 32 := by
  simp [Sha256.digest, Sha256.State.words, Sha256.bigEndian]

theorem length_encode (bytes : Bytes) : (Hex.encode bytes).length = 2 * bytes.length := by
  induction bytes with
  | nil => rfl
  | cons b bytes ih =>
    simp only [Hex.encode, List.flatMap_cons, List.length_append, List.length_cons,
      List.length_nil] at ih ⊢
    omega

theorem length_suffix (bytes : Bytes) : (suffix bytes).length = 16 := by
  rw [suffix, String.length_ofList, length_encode, List.length_take, length_digest]
  rfl

/-- Suffixes are equal only if what is kept of the digests is. -/
theorem suffix_eq_iff {a b : Bytes} :
    suffix a = suffix b ↔
      (Sha256.digest a).take fingerprintLength = (Sha256.digest b).take fingerprintLength := by
  constructor
  · intro h
    have hl : Hex.encode ((Sha256.digest a).take fingerprintLength) =
        Hex.encode ((Sha256.digest b).take fingerprintLength) := by
      simpa [suffix] using congrArg String.toList h
    have hd := Hex.decode?_encode ((Sha256.digest a).take fingerprintLength)
    rw [hl, Hex.decode?_encode] at hd
    exact (Option.some.inj hd).symm
  · intro h
    rw [suffix, suffix, h]

end ClassSpec
end PoolPlan
