import PoolPlan.Json.Reader
import PoolPlan.Secret.Credentials
import PoolPlan.Traced
import PoolPlan.Worker.Basic

namespace PoolPlan

namespace SecretReference

def defaultNamespace : String := "default"

def nsOrDefault (r : SecretReference) : String := r.ns.getD defaultNamespace

def nameOrEmpty (r : SecretReference) : String := r.name.getD ""

/-- Namespace and name, for messages. -/
def key (r : SecretReference) : String := r.nsOrDefault ++ "/" ++ r.nameOrEmpty

end SecretReference

structure SecretStore where
  get : SecretReference → Traced Failure SecretData

/-- Secrets given beforehand, by namespace and name joined by a slash. -/
structure StaticSecrets where
  secrets : Dict SecretData

namespace StaticSecrets

def empty : StaticSecrets := ⟨[]⟩

def insert (s : StaticSecrets) (ns name : String) (data : SecretData) : StaticSecrets :=
  ⟨s.secrets.insert (ns ++ "/" ++ name) data⟩

def get (s : StaticSecrets) (r : SecretReference) : Except Failure SecretData :=
  match s.secrets.get? r.key with
  | some data => .ok data
  | none => .error (.credentials r.key "secret not found")

def store (s : StaticSecrets) : SecretStore := ⟨fun r => .ofExcept (s.get r)⟩

end StaticSecrets

structure ApiAnswer where
  status : Nat
  body : String

namespace ApiAnswer

def isError (a : ApiAnswer) : Bool := 400 ≤ a.status && a.status < 600

/-- The code that an error is reported under in the body. -/
def bodyCode? (a : ApiAnswer) : Option Nat := do
  let d ← Json.document? a.body
  let f ← d.record? ["status", "message", "reason", "code"]
  let _ ← f.required? "status" Document.text?
  let _ ← f.withDefault? "message" "" Document.text?
  let _ ← f.withDefault? "reason" "" Document.text?
  let code ← f.required? "code" Document.integer?
  if 0 ≤ code ∧ code < UInt16.size then some code.toNat else none

def exactly? (expected : String) (d : Document) : Option Unit :=
  if d.text? = some expected then some () else none

/-- The data of a secret document. One that says it is something else is none. -/
def secretData? (d : Document) : Option SecretData := do
  let f ← d.looseRecord?
  let _ ← (f.filter (fun e => e.1 == "apiVersion")).mapM (fun e => exactly? "v1" e.2)
  let _ ← (f.filter (fun e => e.1 == "kind")).mapM (fun e => exactly? "Secret" e.2)
  let _ ← f.last? "immutable" Document.bool?
  let _ ← f.last? "metadata" Metadata.ofDocument?
  let _ ← f.last? "stringData" (Document.dict? Document.text?)
  let _ ← f.last? "type" Document.text?
  let data ← f.last? "data" (Document.dict? Pool.bytes?)
  return data.getD []

def secretData (a : ApiAnswer) : Except Failure SecretData :=
  if a.isError then .error (.api (some (a.bodyCode?.getD a.status)))
  else match (Json.document? a.body).bind secretData? with
    | some data => .ok data
    | none => .error (.api none)

end ApiAnswer

namespace SecretStore

def path (ns name : String) : String := "/api/v1/namespaces/" ++ ns ++ "/secrets/" ++ name

def isUnsendable (c : Char) : Bool := c.toNat ≤ 0x20 || c == '<' || c == '>' || c == '\x60'

def path? (r : SecretReference) : Option String :=
  let p := path r.nsOrDefault r.nameOrEmpty
  if r.nameOrEmpty = "" ∨ p.toList.any isUnsendable then none else some p

def ofApi (answer : String → ApiAnswer) : SecretStore where
  get r :=
    if r.nameOrEmpty = "" then Traced.fail (.credentials r.key "secret reference has no name")
    else do
      Traced.emit (.secretFetched r.nsOrDefault r.nameOrEmpty)
      match path? r with
      | some p => Traced.ofExcept (answer p).secretData
      | none => Traced.fail (.api none)

end SecretStore
end PoolPlan
