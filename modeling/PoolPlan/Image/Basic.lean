import PoolPlan.Document.Record
import PoolPlan.Json.Basic

namespace PoolPlan

/-- A logical image in one cloud profile. -/
structure ImageIdentity where
  name : String
  version : String
  cloudProfile : String
deriving DecidableEq, Repr

structure ResolvedImage extends ImageIdentity where
  image : String
deriving DecidableEq, Repr

namespace ResolvedImage

abbrev identity (r : ResolvedImage) : ImageIdentity := r.toImageIdentity

def toJson (r : ResolvedImage) : Json :=
  .object [
    ("name", .string r.name),
    ("version", .string r.version),
    ("cloudProfile", .string r.cloudProfile),
    ("image", .string r.image)]

def ofDocument? (d : Document) : Option ResolvedImage := do
  let f ← d.record? ["name", "version", "cloudProfile", "image"]
  return {
    name := ← f.required? "name" Document.text?
    version := ← f.required? "version" Document.text?
    cloudProfile := ← f.required? "cloudProfile" Document.text?
    image := ← f.required? "image" Document.text? }

end ResolvedImage
end PoolPlan
