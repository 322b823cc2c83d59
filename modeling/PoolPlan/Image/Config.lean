import PoolPlan.Failure
import PoolPlan.Image.Basic
import PoolPlan.Worker.Pool

namespace PoolPlan

structure ProfileImage where
  name : String
  image : String
deriving DecidableEq, Repr

structure ImageMapping where
  name : String
  version : String
  cloudProfiles : List ProfileImage
deriving DecidableEq, Repr

structure ImageConfig where
  apiVersion : Option String
  kind : Option String
  machineImages : List ImageMapping
deriving DecidableEq, Repr

namespace ProfileImage

def toJson (p : ProfileImage) : Json := .object [("name", .string p.name), ("image", .string p.image)]

def ofDocument? (d : Document) : Option ProfileImage := do
  let f ← d.record? ["name", "image"]
  return ⟨← f.required? "name" Document.text?, ← f.required? "image" Document.text?⟩

end ProfileImage

namespace ImageMapping

def toJson (m : ImageMapping) : Json :=
  .object [
    ("name", .string m.name),
    ("version", .string m.version),
    ("cloudProfiles", .array (m.cloudProfiles.map ProfileImage.toJson))]

def ofDocument? (d : Document) : Option ImageMapping := do
  let f ← d.record? ["name", "version", "cloudProfiles"]
  return {
    name := ← f.required? "name" Document.text?
    version := ← f.required? "version" Document.text?
    cloudProfiles := ← f.withDefault? "cloudProfiles" [] (Document.list? ProfileImage.ofDocument?) }

def images (m : ImageMapping) : List ResolvedImage :=
  m.cloudProfiles.map (fun p => ⟨⟨m.name, m.version, p.name⟩, p.image⟩)

end ImageMapping

namespace ImageConfig

def empty : ImageConfig := ⟨none, none, []⟩

def toJson (c : ImageConfig) : Json :=
  .object (Json.optionalField "apiVersion" c.apiVersion .string ++
    Json.optionalField "kind" c.kind .string ++
    [("machineImages", .array (c.machineImages.map ImageMapping.toJson))])

def ofDocument? (d : Document) : Option ImageConfig := do
  let f ← d.record? ["apiVersion", "kind", "machineImages"]
  return {
    apiVersion := ← f.optional? "apiVersion" Document.text?
    kind := ← f.optional? "kind" Document.text?
    machineImages := ← f.withDefault? "machineImages" [] (Document.list? ImageMapping.ofDocument?) }

def images (c : ImageConfig) : List ResolvedImage := c.machineImages.flatMap ImageMapping.images

/-- The provider image of an identity; the first mapping that has one wins. -/
def find? (c : ImageConfig) (identity : ImageIdentity) : Option String :=
  (c.images.find? (fun r => r.identity == identity)).map (·.image)

inductive Fault where
  | emptyName (mapping : Nat)
  | emptyVersion (mapping : Nat)
  | incompleteProfile (mapping profile : Nat)
  | duplicate (identity : ImageIdentity)
deriving DecidableEq, Repr

def Fault.message : Fault → String
  | .emptyName i => s!"machineImages[{i}].name cannot be empty"
  | .emptyVersion i => s!"machineImages[{i}].version cannot be empty"
  | .incompleteProfile i j => s!"machineImages[{i}].cloudProfiles[{j}] needs a name and an image"
  | .duplicate id => s!"duplicate machine image {id.name}/{id.version}/{id.cloudProfile}"

/-- Check the profiles of mapping `i` from the `j`-th on, with the identities seen before. -/
def checkProfiles (i : Nat) (m : ImageMapping) (seen : List ImageIdentity) (j : Nat) :
    List ProfileImage → Except Fault (List ImageIdentity)
  | [] => .ok seen
  | p :: ps =>
    let identity : ImageIdentity := ⟨m.name, m.version, p.name⟩
    if p.name = "" ∨ p.image = "" then .error (.incompleteProfile i j)
    else if identity ∈ seen then .error (.duplicate identity)
    else checkProfiles i m (identity :: seen) (j + 1) ps

def checkMappings (seen : List ImageIdentity) (i : Nat) : List ImageMapping → Except Fault Unit
  | [] => .ok ()
  | m :: ms =>
    if m.name = "" then .error (.emptyName i)
    else if m.version = "" then .error (.emptyVersion i)
    else match checkProfiles i m seen 0 m.cloudProfiles with
      | .error fault => .error fault
      | .ok seen => checkMappings seen (i + 1) ms

def check (c : ImageConfig) : Except Fault Unit := checkMappings [] 0 c.machineImages

/-- The path by which a configuration is named that does not come from a file. -/
def inlinePath : String := "inline"

def validate (c : ImageConfig) (path : String) : Except Failure Unit :=
  match c.check with
  | .error fault => .error (.config path fault.message)
  | .ok () => .ok ()

end ImageConfig
end PoolPlan
