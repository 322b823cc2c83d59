import PoolPlan.Command.Compile
import PoolPlan.Proofs.Json.Layout
import PoolPlan.Proofs.Plan.Written

namespace PoolPlan

/-- A document of a plan: its deployments, its classes under their names, and the status to keep. -/
def Plan.ShownAs (plan : Plan) (document : Json) : Prop :=
  ∃ deployments status, List.Forall₂ Deployment.WrittenAs plan.deployments deployments ∧
    plan.status.WrittenAs status ∧
    document = .object [
      ("machineDeployments", .array (deployments.map .object)),
      ("machineClassValues", .object [("machineClasses", .array (plan.classes.map fun c =>
        .object (c.spec.insert "name" (.string c.name)).fields))]),
      ("providerStatus", .object status)]

theorem Plan.exists_writtenAs (deployments : List Deployment) :
    ∃ fields, List.Forall₂ Deployment.WrittenAs deployments fields ∧
      deployments.map Deployment.toJson = fields.map .object := by
  induction deployments with
  | nil => exact ⟨[], List.Forall₂.nil, rfl⟩
  | cons d ds ih =>
    obtain ⟨fields, hjson, hw⟩ := d.exists_writtenAs
    obtain ⟨others, hothers, hmap⟩ := ih
    exact ⟨fields :: others, List.Forall₂.cons hw hothers, by
      rw [List.map_cons, List.map_cons, hjson, hmap]⟩

namespace Command

/-- A text that shows a document in a format. From JSON the document is read back. -/
structure Prints (format : OutputFormat) (document : Json) (text : String) : Prop where
  yaml : format = .yaml → text = Yaml.text document
  json : format = .json → text = document.pretty ++ "\n"
  readBack : format = .json → Json.document? text = some (.ofJson document)

theorem shownAs_planJson (plan : Plan) : plan.ShownAs (planJson plan) := by
  obtain ⟨deployments, hdeployments, hmap⟩ := Plan.exists_writtenAs plan.deployments
  obtain ⟨status, hjson, hstatus⟩ := plan.status.exists_writtenAs
  refine ⟨deployments, status, hdeployments, hstatus, ?_⟩
  rw [planJson, hmap, hjson]
  rfl

theorem fits_planJson {p : Planner} {pools : List Pool} {plan : Plan}
    (hpools : ∀ pool ∈ pools, pool.Bounded) (h : (p.plan pools).result = .ok plan) :
    (planJson plan).Fits 5 := by
  have hbounded := Planner.bounded_of_mem_deployments hpools h
  have hdeployments : (Json.array (plan.deployments.map Deployment.toJson)).Fits 4 :=
    Json.fits_array_map fun d hd => Deployment.fits_toJson 0 (hbounded d hd)
  have hclasses : (Json.array (plan.classes.map MachineClass.toJson)).Fits 3 :=
    Json.fits_array_map (Planner.fits_of_mem_classes h)
  have hvalues : plan.classValues.Fits 4 := by
    apply Json.fits_object
    simpa using hclasses
  apply Json.fits_object
  simp only [List.forall_mem_cons]
  exact ⟨hdeployments, hvalues, plan.status.fits_toJson 1, List.forall_mem_nil _⟩

theorem prints_render (format : OutputFormat) {plan : Plan}
    (h : (planJson plan).Fits Json.depthLimit) : Prints format (planJson plan) (render format plan) := by
  cases format with
  | yaml => exact ⟨fun _ => rfl, nofun, nofun⟩
  | json => exact ⟨nofun, fun _ => rfl, fun _ => Json.document?_pretty h.exact h.depth⟩

end Command
end PoolPlan
