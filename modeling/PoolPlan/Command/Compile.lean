import PoolPlan.Command.Arguments
import PoolPlan.Reconcile
import PoolPlan.Yaml.Reader
import PoolPlan.Yaml.Writer

namespace PoolPlan

namespace ImageConfig

/-- Read a configuration from YAML text and check it; `path` names it in failures. -/
def ofYaml (path text : String) : Except Failure ImageConfig :=
  match (Yaml.document? text).bind ofDocument? with
  | none => .error (.config path "failed to parse: <yaml>")
  | some config =>
    match config.validate path with
    | .ok () => .ok config
    | .error failure => .error failure

end ImageConfig

namespace Command

inductive FileFault where
  | notFound | isDirectory | notDirectory | notText
deriving DecidableEq, Repr

def FileFault.message : FileFault → String
  | .notFound => "No such file or directory (os error 2)"
  | .isDirectory => "Is a directory (os error 21)"
  | .notDirectory => "Not a directory (os error 20)"
  | .notText => "stream did not contain valid UTF-8"

abbrev Files := String → Except FileFault String

inductive CompileFault where
  | failed (failure : Failure)
  | unreadable (path : String) (fault : FileFault)
  | invalidWorker (path : String)
  | invalidCredentials
  | noCluster
deriving DecidableEq, Repr

def CompileFault.message : CompileFault → String
  | .failed failure => failure.message
  | .unreadable path fault => s!"failed to read {path}: {fault.message}"
  | .invalidWorker path => s!"invalid Worker document {path}: <yaml>"
  | .invalidCredentials => "yaml error: <yaml>"
  | .noCluster => "kubernetes error: no cluster is configured"

def readWorker (files : Files) (path : String) : Except CompileFault Worker :=
  match files path with
  | .error fault => .error (.unreadable path fault)
  | .ok text =>
    match (Yaml.document? text).bind Worker.ofDocument? with
    | some worker => .ok worker
    | none => .error (.invalidWorker path)

def readConfig (files : Files) (path : String) : Except CompileFault ImageConfig :=
  match files path with
  | .error fault => .error (.failed (.config path s!"failed to read: {fault.message}"))
  | .ok text => (ImageConfig.ofYaml path text).mapError .failed

/-- The data of the secret that a worker refers to. Without a file it has none. -/
def readSecretData (files : Files) (path : Option String) : Except CompileFault SecretData :=
  match path with
  | none => .ok []
  | some path =>
    match files path with
    | .error fault => .error (.unreadable path fault)
    | .ok text =>
      match (Yaml.document? text).bind (Document.dict? Document.text?) with
      | some texts => .ok (texts.map (fun (k, v) => (k, Utf8.encode v)))
      | none => .error .invalidCredentials

def secretsFor (w : Worker) (data : SecretData) : StaticSecrets :=
  StaticSecrets.empty.insert w.spec.secretRef.nsOrDefault w.spec.secretRef.nameOrEmpty data

def readSecrets (files : Files) (args : CompileArguments) (w : Worker) :
    Except CompileFault SecretStore :=
  if args.secretsFromCluster then .error .noCluster
  else match readSecretData files args.credentials with
    | .ok data => .ok (secretsFor w data).store
    | .error fault => .error fault

def planJson (plan : Plan) : Json :=
  .object [
    ("machineDeployments", .array (plan.deployments.map Deployment.toJson)),
    ("machineClassValues", plan.classValues),
    ("providerStatus", plan.status.toJson)]

def render (format : OutputFormat) (plan : Plan) : String :=
  match format with
  | .yaml => Yaml.text (planJson plan)
  | .json => (planJson plan).pretty ++ "\n"

/-- The reconciler that the arguments ask for. The cloud profile is named after the provider unless it
is given. -/
def reconciler (args : CompileArguments) (secrets : SecretStore) (config : ImageConfig) :
    Reconciler where
  secrets := secrets
  decoder := .json
  config := config
  provider := args.provider
  cloudProfile := args.cloudProfile.getD args.provider.name

def clusterInfo (args : CompileArguments) : ClusterInfo := ⟨args.version, args.podNetwork⟩

def compile (files : Files) (args : CompileArguments) : Traced CompileFault String := do
  let worker ← Traced.ofExcept (readWorker files args.worker)
  Traced.emit (.workerLoaded (worker.metadata.name.getD "") worker.spec.pools.length)
  let config ← Traced.ofExcept (readConfig files args.config)
  let secrets ← Traced.ofExcept (readSecrets files args worker)
  let plan ← ((reconciler args secrets config).plan worker (clusterInfo args) false).mapError .failed
  return render args.output plan

end Command
end PoolPlan
