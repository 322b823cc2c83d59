import PoolPlan.Proofs.Document.Respelling
import PoolPlan.Worker.Basic

namespace PoolPlan
open Document Fields

theorem Tolerance.steady : Document.Steady Tolerance.ofDocument? := by
  intro d e h t ht
  unfold ofDocument? at ht ⊢
  cases hd : d.value? with
  | none => simp [hd] at ht
  | some j => rwa [hd, ← steady_value? h hd] at ht

theorem PoolImage.steady : Document.Steady PoolImage.ofDocument? :=
  steady_record _ <|
    (steady_required? steady_text? "name").bind fun _ =>
    (steady_required? steady_text? "version").bind fun _ => steady_pure _

theorem Instant.steady : Document.Steady Instant.ofDocument? := steady_text?.andThen Instant.ofString?

theorem Taint.steady : Document.Steady Taint.ofDocument? :=
  steady_looseRecord <|
    (steady_last? steady_text? "effect").bind fun _ =>
    (steady_last? steady_text? "key").bind fun _ =>
    (steady_last? Instant.steady "timeAdded").bind fun _ =>
    (steady_last? steady_text? "value").bind fun _ => steady_pure _

theorem Pool.steady_bytes? : Document.Steady Pool.bytes? := by
  intro d e h bytes hbytes
  obtain ⟨read, hread, rfl⟩ := Option.map_eq_some_iff.1 hbytes
  have hsteady := (steady_text?.andThen Base64.ofString?).optional? h hread
  exact Option.map_eq_some_iff.2 ⟨read, hsteady, rfl⟩

theorem Pool.steady : Document.Steady Pool.ofDocument? :=
  steady_record _ <|
    (steady_required? steady_text? "name").bind fun _ =>
    (steady_required? steady_text? "machineType").bind fun _ =>
    (steady_required? PoolImage.steady "machineImage").bind fun _ =>
    (steady_required? steady_int32? "minimum").bind fun _ =>
    (steady_required? steady_int32? "maximum").bind fun _ =>
    (steady_required? Tolerance.steady "maxSurge").bind fun _ =>
    (steady_required? Tolerance.steady "maxUnavailable").bind fun _ =>
    (steady_withDefault? Pool.steady_bytes? "userData" []).bind fun _ =>
    (steady_required? steady_text?.list? "zones").bind fun _ =>
    (steady_withDefault? steady_text?.dict? "labels" []).bind fun _ =>
    (steady_withDefault? steady_text?.dict? "annotations" []).bind fun _ =>
    (steady_withDefault? Taint.steady.list? "taints" []).bind fun _ => steady_pure _

theorem SecretReference.steady : Document.Steady SecretReference.ofDocument? :=
  steady_looseRecord <|
    (steady_last? steady_text? "name").bind fun _ =>
    (steady_last? steady_text? "namespace").bind fun _ => steady_pure _

theorem OwnerReference.steady : Document.Steady OwnerReference.ofDocument? :=
  steady_looseRecord <|
    (steady_last? steady_text? "apiVersion").bind fun _ =>
    (steady_last? steady_bool? "blockOwnerDeletion").bind fun _ =>
    (steady_last? steady_bool? "controller").bind fun _ =>
    (steady_last? steady_text? "kind").bind fun _ =>
    (steady_last? steady_text? "name").bind fun _ =>
    (steady_last? steady_text? "uid").bind fun _ => steady_pure _

theorem ManagedFields.steady : Document.Steady ManagedFields.ofDocument? :=
  steady_looseRecord <|
    (steady_last? steady_text? "apiVersion").bind fun _ =>
    (steady_last? steady_text? "fieldsType").bind fun _ =>
    (steady_last? steady_value? "fieldsV1").bind fun _ =>
    (steady_last? steady_text? "manager").bind fun _ =>
    (steady_last? steady_text? "operation").bind fun _ =>
    (steady_last? steady_text? "subresource").bind fun _ =>
    (steady_last? Instant.steady "time").bind fun _ => steady_pure _

theorem Metadata.steady : Document.Steady Metadata.ofDocument? :=
  steady_looseRecord <|
    (steady_last? steady_text?.dict? "annotations").bind fun _ =>
    (steady_last? Instant.steady "creationTimestamp").bind fun _ =>
    (steady_last? steady_int64? "deletionGracePeriodSeconds").bind fun _ =>
    (steady_last? Instant.steady "deletionTimestamp").bind fun _ =>
    (steady_last? steady_text?.list? "finalizers").bind fun _ =>
    (steady_last? steady_text? "generateName").bind fun _ =>
    (steady_last? steady_int64? "generation").bind fun _ =>
    (steady_last? steady_text?.dict? "labels").bind fun _ =>
    (steady_last? ManagedFields.steady.list? "managedFields").bind fun _ =>
    (steady_last? steady_text? "name").bind fun _ =>
    (steady_last? steady_text? "namespace").bind fun _ =>
    (steady_last? OwnerReference.steady.list? "ownerReferences").bind fun _ =>
    (steady_last? steady_text? "resourceVersion").bind fun _ =>
    (steady_last? steady_text? "selfLink").bind fun _ =>
    (steady_last? steady_text? "uid").bind fun _ => steady_pure _

theorem WorkerSpec.steady : Document.Steady WorkerSpec.ofDocument? :=
  steady_record _ <|
    (steady_required? steady_text? "region").bind fun _ =>
    (steady_required? SecretReference.steady "secretRef").bind fun _ =>
    (Fields.steady_optional? steady_value? "infrastructureProviderStatus").bind fun _ =>
    (steady_withDefault? Pool.steady.list? "pools" []).bind fun _ => steady_pure _

theorem WorkerObjectStatus.steady : Document.Steady WorkerObjectStatus.ofDocument? :=
  steady_record _ <|
    (Fields.steady_optional? steady_value? "providerStatus").bind fun _ => steady_pure _

theorem Worker.steady : Document.Steady Worker.ofDocument? := by
  intro d e h w hw
  simp only [ofDocument?, bind, Option.bind_eq_some_iff, pure] at hw ⊢
  obtain ⟨f, hf, metadata, hmetadata, spec, hspec, status, hstatus, hw⟩ := hw
  obtain ⟨g, hg, hfg⟩ := h.exists_record hf
  refine ⟨g, hg, metadata, steady_required? Metadata.steady "metadata" hfg hmetadata, spec,
    steady_required? WorkerSpec.steady "spec" hfg hspec, status,
    Fields.steady_optional? WorkerObjectStatus.steady "status" hfg hstatus, ?_⟩
  -- a sequence would not have been read
  cases h with
  | scalar h => cases h <;> cases hf
  | sequence positional h => cases hf
  | mapping h => exact hw

end PoolPlan
