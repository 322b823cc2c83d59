import PoolPlan.Proofs.Command.Printed
import PoolPlan.Proofs.Command.WorkerFile
import PoolPlan.Proofs.Run.Stages
import PoolPlan.Proofs.Secret.Store

namespace PoolPlan

namespace Credentials

theorem KeyFault.message_ne_notFound (fault : KeyFault) :
    fault.message "kubeconfig" ≠ "secret not found" ∧ fault.message "namespace" ≠ "secret not found" := by
  cases fault <;> decide +kernel

end Credentials

namespace Run
variable {r : Run}

/-- A run that has credentials to complain about has them from its store. -/
theorem detail_of_credentials {secret detail : String}
    (h : r.outcome = .error (.credentials secret detail)) :
    r.answer.result = .error (.credentials secret detail) ∨
      ∃ fault : Credentials.KeyFault,
        detail = fault.message "kubeconfig" ∨ detail = fault.message "namespace" := by
  by_cases hpasses : ∀ stage, r.Passes stage
  · obtain ⟨s, -, hplan⟩ := outcome_of_passes hpasses
    rw [hplan] at h
    rcases Planner.failure_of_plan h with ⟨_, _, _, h⟩ | ⟨_, -, -, h⟩ | ⟨_, _, h⟩ <;> cases h
  · obtain ⟨stage, failure, hfails, houtcome⟩ := exists_failsAt_of_not_passes hpasses
    obtain rfl : failure = .credentials secret detail :=
      Except.error.inj (houtcome.symm.trans h)
    cases hfails with
    | secret h => exact .inl h
    | kubeconfig _ _ => exact .inr ⟨_, .inl rfl⟩
    | machineNamespace _ _ => exact .inr ⟨_, .inr rfl⟩

/-- What is planned are the pools of the worker. -/
theorem exists_planner_of_outcome {plan : Plan} (h : r.outcome = .ok plan) :
    ∃ p : Planner, (p.plan r.worker.spec.pools).result = .ok plan := by
  obtain ⟨s, -, resolver, -, hplan⟩ := Reconciler.plan_eq_ok_iff.1 h
  exact ⟨s.planner resolver, hplan⟩

/-- Nothing is planned with a secret that has no configuration for the cluster of the machines. -/
theorem exists_kubeconfig_of_outcome {plan : Plan} (h : r.outcome = .ok plan) :
    ∃ data, r.answer.result = .ok data ∧ data.get? "kubeconfig" ≠ none := by
  obtain ⟨s, hs, -⟩ := Reconciler.plan_eq_ok_iff.1 h
  obtain ⟨-, data, hdata, hc⟩ := exists_data_of_credentials (Reconciler.credentials_of_setting hs)
  obtain ⟨hkubeconfig, -⟩ := Credentials.ofSecretData_eq_ok_iff.1 hc
  exact ⟨data, hdata, by simp [Credentials.get?_of_text hkubeconfig]⟩

end Run

namespace Command
variable {files : Files} {args : CompileArguments} {worker : Worker} {config : ImageConfig}
  {data : SecretData}

/-- The run in a cluster that the arguments ask for. -/
def run (args : CompileArguments) (store : SecretStore) (config : ImageConfig) (worker : Worker) :
    Run where
  secrets := store
  config := config
  provider := args.provider
  cloudProfile := args.cloudProfile.getD args.provider.name
  worker := worker
  cluster := ⟨args.version, args.podNetwork⟩
  cancelled := false

def printed (format : OutputFormat) : Except Failure Plan → Except CompileFault String
  | .ok plan => .ok (render format plan)
  | .error failure => .error (.failed failure)

theorem printed_eq_ok_iff {format : OutputFormat} {outcome : Except Failure Plan} {text : String} :
    printed format outcome = .ok text ↔ ∃ plan, outcome = .ok plan ∧ render format plan = text := by
  cases outcome <;> simp [printed]

theorem printed_eq_error_iff {format : OutputFormat} {outcome : Except Failure Plan}
    {failure : Failure} :
    printed format outcome = .error (.failed failure) ↔ outcome = .error failure := by
  cases outcome <;> simp [printed]

/-- What the files hold that the arguments name. -/
structure Loaded (files : Files) (args : CompileArguments) (worker : Worker) (config : ImageConfig)
    (data : SecretData) : Prop where
  worker : readWorker files args.worker = .ok worker
  config : readConfig files args.config = .ok config
  data : readSecretData files args.credentials = .ok data

/-- The secret is found, whatever it is called. -/
theorem get_secretsFor (w : Worker) (data : SecretData) :
    (secretsFor w data).get w.spec.secretRef = .ok data := by
  have hkey : InsertedSecret.key ⟨w.spec.secretRef.nsOrDefault, w.spec.secretRef.nameOrEmpty, data⟩ =
      w.spec.secretRef.key := rfl
  exact (StaticSecrets.get_insert _ ⟨_, _, data⟩ _).trans (if_pos hkey)

theorem readSecrets_of_data (hcluster : args.secretsFromCluster = false)
    (hdata : readSecretData files args.credentials = .ok data) (w : Worker) :
    readSecrets files args w = .ok (secretsFor w data).store := by
  simp only [readSecrets, hcluster, hdata, Bool.false_eq_true, if_false]

theorem result_compile (hcluster : args.secretsFromCluster = false)
    (h : Loaded files args worker config data) :
    (compile files args).result =
      printed args.output (run args (secretsFor worker data).store config worker).outcome := by
  have hplan : (((reconciler args (secretsFor worker data).store config).plan worker
      (clusterInfo args) false).mapError CompileFault.failed).result =
        (run args (secretsFor worker data).store config worker).outcome.mapError .failed := rfl
  simp only [compile, Traced.result_bind, Traced.result_ofExcept, Traced.result_emit,
    Traced.result_pure, h.worker, h.config, readSecrets_of_data hcluster h.data, ok_bind, hplan]
  cases (run args (secretsFor worker data).store config worker).outcome <;> rfl

/-- Any store that has the data for the worker stands for the one of the command. -/
theorem result_compile_of_store (hcluster : args.secretsFromCluster = false)
    (h : Loaded files args worker config data) {store : SecretStore}
    (hstore : (store.get worker.spec.secretRef).result = .ok data) :
    (compile files args).result = printed args.output (run args store config worker).outcome := by
  have hanswer : (run args (secretsFor worker data).store config worker).answer.result = .ok data :=
    get_secretsFor worker data
  have hsame : ((run args (secretsFor worker data).store config worker).withSecrets store).outcome =
      (run args (secretsFor worker data).store config worker).outcome :=
    Run.outcome_withSecrets (hstore.trans hanswer.symm)
  rw [result_compile hcluster h, ← hsame]
  rfl

theorem bounded_of_readWorker {path : String} (h : readWorker files path = .ok worker) :
    ∀ pool ∈ worker.spec.pools, pool.Bounded := by
  unfold readWorker at h
  split at h
  · contradiction
  · rename_i text htext
    split at h
    · rename_i read hread
      obtain rfl := Except.ok.inj h
      obtain ⟨document, -, hdocument⟩ := Option.bind_eq_some_iff.1 hread
      obtain ⟨spec, hspec⟩ := Worker.exists_of_ofDocument? hdocument
      intro pool hpool
      obtain ⟨d, hd⟩ := WorkerSpec.exists_of_mem_pools hspec pool hpool
      exact Pool.bounded_of_ofDocument? hd
    · contradiction

/-- A plan for a worker from a file is shown in either format. -/
theorem prints_of_outcome (format : OutputFormat) {r : Run} {path : String} {plan : Plan}
    (hread : readWorker files path = .ok r.worker) (h : r.outcome = .ok plan) :
    plan.ShownAs (planJson plan) ∧ Prints format (planJson plan) (render format plan) := by
  obtain ⟨p, hplan⟩ := Run.exists_planner_of_outcome h
  have hfits := fits_planJson (bounded_of_readWorker hread) hplan
  exact ⟨shownAs_planJson plan, prints_render format (hfits.mono (by decide))⟩

theorem readConfig_of_document {path text : String} {document : Document}
    (hfile : files path = .ok text) (hdocument : Yaml.document? text = some document)
    (hread : ImageConfig.ofDocument? document = some config)
    (hvalid : config.validate path = .ok ()) : readConfig files path = .ok config := by
  simp only [readConfig, hfile, ImageConfig.ofYaml, hdocument, Option.bind_some, hread, hvalid,
    Except.mapError]

theorem readSecretData_eq_ok_iff {path : String} :
    readSecretData files (some path) = .ok data ↔
      ∃ text document texts, files path = .ok text ∧ Yaml.document? text = some document ∧
        document.dict? Document.text? = some texts ∧
          data = texts.map (fun (k, v) => (k, Utf8.encode v)) := by
  constructor
  · intro h
    simp only [readSecretData] at h
    split at h
    · cases h
    · rename_i text htext
      split at h
      · rename_i texts htexts
        obtain ⟨document, hdocument, hdict⟩ := Option.bind_eq_some_iff.1 htexts
        exact ⟨text, document, texts, htext, hdocument, hdict, (Except.ok.inj h).symm⟩
      · cases h
  · rintro ⟨text, document, texts, htext, hdocument, hdict, rfl⟩
    simp only [readSecretData, htext, hdocument, Option.bind_some, hdict]

/-- The credentials file has the texts of the secret, under their keys. -/
theorem data_of_readSecretData {path : String} (h : readSecretData files (some path) = .ok data) :
    ∃ text document texts, files path = .ok text ∧ Yaml.document? text = some document ∧
      document.dict? Document.text? = some texts ∧
        ∀ key, data.get? key = (texts.get? key).map Utf8.encode := by
  obtain ⟨text, document, texts, htext, hdocument, hdict, rfl⟩ := readSecretData_eq_ok_iff.1 h
  exact ⟨text, document, texts, htext, hdocument, hdict,
    fun key => List.lookup_map_snd Utf8.encode texts key⟩

theorem ne_notFound_of_loaded (hcluster : args.secretsFromCluster = false)
    (h : Loaded files args worker config data) (secret : String) :
    (compile files args).result ≠ .error (.failed (.credentials secret "secret not found")) := by
  rw [result_compile hcluster h, ne_eq, printed_eq_error_iff]
  intro houtcome
  have hfound : (run args (secretsFor worker data).store config worker).answer.result = .ok data :=
    get_secretsFor worker data
  rcases Run.detail_of_credentials houtcome with hanswer | ⟨fault, hdetail | hdetail⟩
  · rw [hfound] at hanswer
    cases hanswer
  · exact fault.message_ne_notFound.1 hdetail.symm
  · exact fault.message_ne_notFound.2 hdetail.symm

/-- Nothing is printed without the files. -/
theorem exists_loaded_of_result (hcluster : args.secretsFromCluster = false) {text : String}
    (h : (compile files args).result = .ok text) :
    ∃ worker config data, Loaded files args worker config data := by
  simp only [compile, Traced.result_bind, Traced.result_ofExcept, Traced.result_emit, ok_bind,
    bind_eq_ok_iff] at h
  obtain ⟨worker, hworker, config, hconfig, store, hstore, -⟩ := h
  cases hdata : readSecretData files args.credentials with
  | error fault =>
    simp only [readSecrets, hcluster, hdata, Bool.false_eq_true, if_false] at hstore
    cases hstore
  | ok data => exact ⟨worker, config, data, hworker, hconfig, hdata⟩

theorem not_printed_without_credentials (hcluster : args.secretsFromCluster = false)
    (hnone : args.credentials = none) (text : String) :
    (compile files args).result ≠ .ok text := by
  intro h
  obtain ⟨worker, config, data, hloaded⟩ := exists_loaded_of_result hcluster h
  obtain rfl : [] = data := by
    have hdata := hloaded.data
    rw [hnone] at hdata
    exact Except.ok.inj hdata
  rw [result_compile hcluster hloaded] at h
  obtain ⟨plan, houtcome, -⟩ := printed_eq_ok_iff.1 h
  obtain ⟨data, hanswer, hkubeconfig⟩ := Run.exists_kubeconfig_of_outcome houtcome
  obtain rfl : [] = data := Except.ok.inj ((get_secretsFor worker []).symm.trans hanswer)
  exact hkubeconfig rfl

/-- Once its files are loaded the command shows the plan of a run in the cluster that has the data of the
credentials file for its secret, in the format asked for, or else fails like that run. It never misses
the secret, and it never prints a plan without the file. -/
theorem offline_like_in_cluster (files : Files) (args : CompileArguments)
    (hcluster : args.secretsFromCluster = false) :
    (∀ worker config data, Loaded files args worker config data →
        (∃ store, readSecrets files args worker = .ok store ∧
          store.get worker.spec.secretRef = ⟨[], .ok data⟩) ∧
        (args.credentials = none → data = []) ∧
        (∀ path, args.credentials = some path →
          ∃ text document texts, files path = .ok text ∧ Yaml.document? text = some document ∧
            document.dict? Document.text? = some texts ∧
              ∀ key, data.get? key = (texts.get? key).map Utf8.encode) ∧
        (∀ store : SecretStore, (store.get worker.spec.secretRef).result = .ok data →
          (∀ plan, (run args store config worker).outcome = .ok plan →
            ∃ document text, (compile files args).result = .ok text ∧ plan.ShownAs document ∧
              Prints args.output document text) ∧
          ∀ failure, (run args store config worker).outcome = .error failure →
            (compile files args).result = .error (.failed failure)) ∧
        ∀ secret, (compile files args).result ≠
          .error (.failed (.credentials secret "secret not found"))) ∧
      (args.credentials = none → ∀ text, (compile files args).result ≠ .ok text) := by
  constructor
  · intro worker config data h
    have hdata := h.data
    refine ⟨⟨_, readSecrets_of_data hcluster hdata worker, ?_⟩, ?_, ?_, ?_, ?_⟩
    · exact congrArg Traced.ofExcept (get_secretsFor worker data)
    · intro hnone
      rw [hnone] at hdata
      exact (Except.ok.inj hdata).symm
    · intro path hpath
      rw [hpath] at hdata
      exact data_of_readSecretData hdata
    · intro store hstore
      have hresult := result_compile_of_store hcluster h hstore
      constructor
      · intro plan hplan
        obtain ⟨hshown, hprints⟩ := prints_of_outcome args.output h.worker hplan
        exact ⟨_, _, hresult.trans (printed_eq_ok_iff.2 ⟨plan, hplan, rfl⟩), hshown, hprints⟩
      · intro failure hfailure
        exact hresult.trans (printed_eq_error_iff.2 hfailure)
    · exact ne_notFound_of_loaded hcluster h
  · exact not_printed_without_credentials hcluster

end Command

namespace Sample

def secretFile : Json := .object [("kubeconfig", .string "config"), ("namespace", .string "machines")]

def files (path : String) : Except Command.FileFault String :=
  if path = "worker.json" then .ok (run config none).worker.toJson.text
  else if path = "config.json" then .ok config.toJson.text
  else if path = "credentials.json" then .ok secretFile.text
  else .error .notFound

def arguments : Command.CompileArguments where
  worker := "worker.json"
  config := "config.json"
  credentials := some "credentials.json"
  secretsFromCluster := false
  provider := .kubeVirt
  cloudProfile := some "cloud"
  version := "1.29.4"
  podNetwork := none
  output := .json

theorem exact_workerFile : (run config none).worker.toJson.Exact := by
  have hpool : pool.Storable := {
    minimum := rfl
    maximum := rfl
    maxSurge := rfl
    maxUnavailable := rfl
    labels := Dict.ascending_nil
    annotations := Dict.ascending_nil
    taints := nofun }
  have hspec : (run config none).worker.spec.Storable :=
    ⟨fun p hp => List.mem_singleton.1 hp ▸ hpool, nofun⟩
  exact ⟨trivial, trivial, ⟨trivial, trivial, trivial⟩, (WorkerSpec.fits_toJson hspec).exact, trivial⟩

theorem loaded_files :
    Command.Loaded files arguments (run config none).worker config (data "config" "machines") where
  worker := by
    have htext : Yaml.document? (run config none).worker.toJson.text =
        some (.ofYaml (run config none).worker.toJson) :=
      Yaml.document?_text trivial exact_workerFile (by decide +kernel) (by decide)
    have hread : Worker.ofDocument? (.ofYaml (run config none).worker.toJson) =
        some (run config none).worker := by rfl
    have hfile : files "worker.json" = .ok (run config none).worker.toJson.text := rfl
    exact Command.readWorker_of_document hfile htext hread
  config := by
    have hexact : config.toJson.Exact :=
      ⟨⟨⟨trivial, trivial, ⟨⟨trivial, trivial, trivial⟩, trivial⟩, trivial⟩, trivial⟩, trivial⟩
    have htext : Yaml.document? config.toJson.text = some (.ofYaml config.toJson) :=
      Yaml.document?_text trivial hexact (by decide +kernel) (by decide)
    have hread : ImageConfig.ofDocument? (.ofYaml config.toJson) = some config := by rfl
    have hvalid : config.validate "config.json" = .ok () := rfl
    have hfile : files "config.json" = .ok config.toJson.text := rfl
    exact Command.readConfig_of_document hfile htext hread hvalid
  data := by
    have htext : Yaml.document? secretFile.text = some (.ofYaml secretFile) :=
      Yaml.document?_text trivial ⟨trivial, trivial, trivial⟩ (by decide +kernel) (by decide)
    have hread : (Document.ofYaml secretFile).dict? Document.text? =
        some [("kubeconfig", "config"), ("namespace", "machines")] := by rfl
    have hfile : files "credentials.json" = .ok secretFile.text := rfl
    exact Command.readSecretData_eq_ok_iff.2 ⟨_, _, _, hfile, htext, hread, rfl⟩

/-- The sample run is printed as it would be planned with a secret that is in the cluster, and the JSON
text is read back. -/
theorem printed_with_files :
    (∃ plan document text, (run config none).outcome = .ok plan ∧
      (Command.compile files arguments).result = .ok text ∧ plan.ShownAs document ∧
        text = document.pretty ++ "\n" ∧ Json.document? text = some (.ofJson document)) ∧
    ∀ text, (Command.compile files { arguments with credentials := none }).result ≠ .ok text := by
  obtain ⟨hloaded, -⟩ := Command.offline_like_in_cluster files arguments rfl
  obtain ⟨-, hwithout⟩ :=
    Command.offline_like_in_cluster files { arguments with credentials := none } rfl
  refine ⟨?_, hwithout rfl⟩
  obtain ⟨-, -, -, hresult, -⟩ := hloaded _ _ _ loaded_files
  have hfound : (ImageResolver.mk config (ledgerIn none)).find? identity =
      some ⟨identity, "linux-1"⟩ := rfl
  obtain ⟨plan, hplan⟩ := succeeds_run config readable_none hfound
  obtain ⟨hprinted, -⟩ := hresult secrets.store rfl
  obtain ⟨document, text, htext, hshown, hprints⟩ := hprinted plan hplan
  exact ⟨plan, document, text, hplan, htext, hshown, hprints.json rfl, hprints.readBack rfl⟩

end Sample
end PoolPlan
