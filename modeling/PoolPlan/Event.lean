import PoolPlan.Image.Basic
import PoolPlan.Version

namespace PoolPlan

inductive Level where
  | debug | info | warn
deriving DecidableEq, Repr

def Level.name : Level → String
  | .debug => "DEBUG"
  | .info => "INFO"
  | .warn => "WARN"

/-- What is reported while a worker is planned. It never holds the data of a secret. -/
inductive Event where
  | workerLoaded (worker : String) (pools : Nat)
  | credentialsRead (secret : String)
  | secretFetched (ns name : String)
  | imageConfigured (image : ResolvedImage)
  /-- An image that is served only because pools were planned with it before. -/
  | imageRemembered (image : ResolvedImage)
  | deploymentPlanned (pool zone deployment className : String) (minimum maximum : Int)
  | poolsPlanned (ns : String) (pools deployments images : Nat) (version : VersionMarker)
  | workerPlanned (ns provider : String) (deployments : Nat)
deriving DecidableEq, Repr

namespace Event

def level : Event → Level
  | .imageRemembered _ => .warn
  | .poolsPlanned .. | .workerPlanned .. => .info
  | _ => .debug

def target : Event → String
  | .workerLoaded .. => "tessera_cli::commands::compile"
  | .credentialsRead _ | .workerPlanned .. => "tessera_worker::delegate"
  | .secretFetched .. => "tessera_worker::credentials"
  | .imageConfigured _ | .imageRemembered _ => "tessera_worker::images"
  | .deploymentPlanned .. | .poolsPlanned .. => "tessera_worker::compiler"

def message : Event → String
  | .workerLoaded .. => "loaded worker"
  | .credentialsRead _ => "reading provider credentials"
  | .secretFetched .. => "fetching credentials secret"
  | .imageConfigured _ => "resolved machine image from configuration"
  | .imageRemembered _ => "machine image not in configuration, using persisted worker status"
  | .deploymentPlanned .. => "compiled machine deployment"
  | .poolsPlanned .. => "compiled worker pools"
  | .workerPlanned .. => "worker compiled"

def imageFields (r : ResolvedImage) : List (String × Json) :=
  [("name", .string r.name), ("version", .string r.version),
    ("cloud_profile", .string r.cloudProfile), ("image", .string r.image)]

def fields : Event → List (String × Json)
  | .workerLoaded worker pools => [("worker", .string worker), ("pools", .integer pools)]
  | .credentialsRead secret => [("secret", .string secret)]
  | .secretFetched ns name => [("namespace", .string ns), ("name", .string name)]
  | .imageConfigured r | .imageRemembered r => imageFields r
  | .deploymentPlanned pool zone deployment className minimum maximum =>
    [("pool", .string pool), ("zone", .string zone), ("deployment", .string deployment),
      ("class", .string className), ("minimum", .integer minimum), ("maximum", .integer maximum)]
  | .poolsPlanned ns pools deployments images version =>
    [("namespace", .string ns), ("pools", .integer pools), ("deployments", .integer deployments),
      ("images", .integer images), ("version", .string version.text)]
  | .workerPlanned ns provider deployments =>
    [("namespace", .string ns), ("provider", .string provider), ("deployments", .integer deployments)]

def toJson (e : Event) : Json :=
  .object [
    ("level", .string e.level.name),
    ("target", .string e.target),
    ("fields", .object (("message", .string e.message) :: e.fields))]

end Event
end PoolPlan
