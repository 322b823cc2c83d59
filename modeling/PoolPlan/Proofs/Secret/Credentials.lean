import PoolPlan.Proofs.Traced
import PoolPlan.Secret.Credentials

namespace PoolPlan

namespace Credentials

inductive Faulty (data : SecretData) (key : String) : KeyFault → Prop where
  | missing (h : data.get? key = none) : Faulty data key .missing
  | empty (h : data.get? key = some []) : Faulty data key .empty
  | notText {bytes : Bytes} (h : data.get? key = some bytes)
      (hbytes : ∀ text, bytes ≠ Utf8.encode text) : Faulty data key .notText

theorem text_eq_error_iff {data : SecretData} {key : String} {fault : KeyFault} :
    text data key = .error fault ↔ Faulty data key fault := by
  constructor
  · intro h
    unfold text at h
    split at h
    · rename_i hnone
      cases h
      exact .missing hnone
    · rename_i bytes hbytes
      split at h
      · rename_i hempty
        cases h
        rw [List.isEmpty_iff] at hempty
        exact .empty (hempty ▸ hbytes)
      · split at h
        · cases h
        · rename_i utf hbad
          cases h
          refine .notText hbytes fun text heq => ?_
          rw [Utf8.decode_eq_ok_iff.2 heq] at hbad
          cases hbad
  · intro h
    cases h with
    | missing h => simp only [text, h]
    | empty h => simp only [text, h, List.isEmpty_nil, if_true]
    | @notText bytes h hbytes =>
      have hne : bytes.isEmpty = false := by
        cases bytes with
        | nil => exact absurd (show [] = Utf8.encode "" from rfl) (hbytes "")
        | cons b bs => rfl
      simp only [text, h, hne, Bool.false_eq_true, if_false]
      split
      · rename_i t ht
        exact absurd (Utf8.decode_eq_ok_iff.1 ht) (hbytes t)
      · rfl

theorem get?_of_text {data : SecretData} {key t : String} (h : text data key = .ok t) :
    data.get? key = some (Utf8.encode t) := by
  unfold text at h
  split at h
  · cases h
  · rename_i bytes hbytes
    split at h
    · cases h
    · split at h
      · rename_i decoded hd
        cases h
        rw [hbytes, Utf8.decode_eq_ok_iff.1 hd]
      · cases h

theorem required_eq_ok_iff {secret key t : String} {data : SecretData} :
    required secret data key = .ok t ↔ text data key = .ok t := by
  unfold required
  cases text data key with
  | ok other => simp
  | error fault => simp

theorem required_eq_error_iff {secret key : String} {data : SecretData} {failure : Failure} :
    required secret data key = .error failure ↔
      ∃ fault, Faulty data key fault ∧ failure = .credentials secret (fault.message key) := by
  simp only [← text_eq_error_iff]
  unfold required
  cases text data key with
  | ok other => simp
  | error fault => simp [eq_comm]

theorem ofSecretData_eq_ok_iff {secret : String} {data : SecretData} {c : Credentials} :
    ofSecretData secret data = .ok c ↔
      text data "kubeconfig" = .ok c.kubeconfig ∧ text data "namespace" = .ok c.ns := by
  simp only [ofSecretData, bind_eq_ok_iff, required_eq_ok_iff, pure, Except.pure, Except.ok.injEq]
  constructor
  · rintro ⟨kubeconfig, hk, ns, hn, rfl⟩
    exact ⟨hk, hn⟩
  · rintro ⟨hk, hn⟩
    exact ⟨c.kubeconfig, hk, c.ns, hn, rfl⟩

theorem ofSecretData_eq_error_iff {secret : String} {data : SecretData} {failure : Failure} :
    ofSecretData secret data = .error failure ↔
      (∃ fault, Faulty data "kubeconfig" fault ∧
        failure = .credentials secret (fault.message "kubeconfig")) ∨
      ∃ kubeconfig, text data "kubeconfig" = .ok kubeconfig ∧
        ∃ fault, Faulty data "namespace" fault ∧
          failure = .credentials secret (fault.message "namespace") := by
  simp only [ofSecretData, bind_eq_error_iff, required_eq_ok_iff, required_eq_error_iff, pure,
    Except.pure, reduceCtorEq, and_false, exists_false, or_false, kubeconfigKey, namespaceKey]

end Credentials
end PoolPlan
