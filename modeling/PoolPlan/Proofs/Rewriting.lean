import PoolPlan.Proofs.Status.Written
import PoolPlan.Proofs.Worker.Spec

namespace PoolPlan

def Json.decode? {α : Type} (read : Document → Option α) (text : String) : Option α :=
  (document? text).bind read

/-- The text of a value is read as an equal value, whose text is the same. -/
def SurvivesRewriting {α : Type} (toJson : α → Json) (read : Document → Option α) (a : α) : Prop :=
  ∃ b, Json.decode? read (toJson a).text = some b ∧ b = a ∧ (toJson b).text = (toJson a).text

theorem Json.document?_text {j : Json} (h : j.Fits depthLimit) :
    document? j.text = some (.ofJson j) := by
  rw [document?, text, String.toList_ofList]
  exact read?_chars h.exact h.depth

theorem survivesRewriting_of_ofJson {α : Type} {toJson : α → Json} {read : Document → Option α}
    {a : α} (hfits : (toJson a).Fits Json.depthLimit) (hread : read (.ofJson (toJson a)) = some a) :
    SurvivesRewriting toJson read a := by
  refine ⟨a, ?_, rfl, rfl⟩
  rw [Json.decode?, Json.document?_text hfits, Option.bind_some, hread]

/-- Pools and specs without times of taints and without floats survive rewriting, and so does every
status of a worker or of an infrastructure. -/
theorem documents_survive_rewriting :
    (∀ text p, Json.decode? Pool.ofDocument? text = some p → (∀ t ∈ p.taints, t.timeAdded = none) →
      SurvivesRewriting Pool.toJson Pool.ofDocument? p) ∧
    (∀ text s, Json.decode? WorkerSpec.ofDocument? text = some s →
      (∀ j ∈ s.infrastructureProviderStatus, j.FloatFree) →
      (∀ p ∈ s.pools, ∀ t ∈ p.taints, t.timeAdded = none) →
      SurvivesRewriting WorkerSpec.toJson WorkerSpec.ofDocument? s) ∧
    (∀ text s, Json.decode? WorkerStatus.ofDocument? text = some s →
      SurvivesRewriting WorkerStatus.toJson WorkerStatus.ofDocument? s) ∧
    (∀ text s, Json.decode? InfrastructureStatus.ofDocument? text = some s →
      SurvivesRewriting InfrastructureStatus.toJson InfrastructureStatus.ofDocument? s) := by
  refine ⟨?_, ?_, ?_, ?_⟩
  · intro text p h htaints
    obtain ⟨d, -, hp⟩ := Option.bind_eq_some_iff.1 h
    have hs : Pool.Storable _ := ⟨Pool.bounded_of_ofDocument? hp, htaints⟩
    exact survivesRewriting_of_ofJson ((Pool.fits_toJson 0 hs).mono (by decide))
      (Pool.ofDocument?_toJson hs)
  · intro text s h hfloat htaints
    obtain ⟨d, hd, hread⟩ := Option.bind_eq_some_iff.1 h
    have hs := WorkerSpec.storable_of_ofDocument? (Json.limited_of_document? hd) hread hfloat htaints
    exact survivesRewriting_of_ofJson (WorkerSpec.fits_toJson hs) (WorkerSpec.ofDocument?_toJson hs)
  · intro text s _
    exact survivesRewriting_of_ofJson ((s.fits_toJson 0).mono (by decide)) s.ofDocument?_toJson
  · intro text s _
    exact survivesRewriting_of_ofJson ((s.fits_toJson 0).mono (by decide)) s.ofDocument?_toJson

namespace Sample

/-- A spec by position, with unknown fields and fields that come twice. -/
def positionalSpec : String :=
  "[\"eu\",\x7b\"namespace\":\"shoot\",\"x\":0.5\x7d,\x7b\"b\":[1,null],\"b\":[]\x7d," ++
  "[[\"p\",\"m\",[\"i\",\"1\"],1,2,\"10%\",0,\"AAEC\",[],\x7b\x7d,\x7b\"k\":\"\\u0001\"\x7d," ++
  "[\x7b\"key\":\"a\",\"key\":\"b\",\"timeAdded\":null\x7d]]]]"

theorem positionalSpec_survives :
    ∃ s, Json.decode? WorkerSpec.ofDocument? positionalSpec = some s ∧
      (∀ j ∈ s.infrastructureProviderStatus, j.FloatFree) ∧
      (∀ p ∈ s.pools, ∀ t ∈ p.taints, t.timeAdded = none) ∧
      s.infrastructureProviderStatus.isSome ∧ s.pools.map Pool.userData = [[0, 1, 2]] ∧
      SurvivesRewriting WorkerSpec.toJson WorkerSpec.ofDocument? s := by
  have heval : (Json.decode? WorkerSpec.ofDocument? positionalSpec).any (fun s =>
      (∀ j ∈ s.infrastructureProviderStatus, j.FloatFree) ∧
      (∀ p ∈ s.pools, ∀ t ∈ p.taints, t.timeAdded = none) ∧
      s.infrastructureProviderStatus.isSome ∧ s.pools.map Pool.userData = [[0, 1, 2]]) = true := by
    decide +kernel
  cases hs : Json.decode? WorkerSpec.ofDocument? positionalSpec with
  | none =>
    rw [hs] at heval
    contradiction
  | some s =>
    rw [hs] at heval
    obtain ⟨hfloat, htaints, hraw, hdata⟩ := of_decide_eq_true heval
    exact ⟨s, rfl, hfloat, htaints, hraw, hdata,
      documents_survive_rewriting.2.1 positionalSpec s hs hfloat htaints⟩

end Sample
end PoolPlan
