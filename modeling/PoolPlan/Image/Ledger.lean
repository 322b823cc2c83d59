import PoolPlan.Status.Basic

namespace PoolPlan

/-- The images that pools were planned with, each identity once and in the order of first use. None is ever
removed, so a pool can be planned again whatever has become of the configuration. -/
structure ImageLedger where
  images : List ResolvedImage
  distinct : (images.map ResolvedImage.identity).Nodup
deriving DecidableEq

namespace ImageLedger

def empty : ImageLedger := ⟨[], List.nodup_nil⟩

def identities (l : ImageLedger) : List ImageIdentity := l.images.map ResolvedImage.identity

def size (l : ImageLedger) : Nat := l.images.length

def isEmpty (l : ImageLedger) : Bool := l.images.isEmpty

def find? (l : ImageLedger) (identity : ImageIdentity) : Option ResolvedImage :=
  l.images.find? (fun r => r.identity == identity)

theorem nodup_append_identity {images : List ResolvedImage} {r : ResolvedImage}
    (distinct : (images.map ResolvedImage.identity).Nodup)
    (h : r.identity ∉ images.map ResolvedImage.identity) :
    ((images ++ [r]).map ResolvedImage.identity).Nodup := by
  rw [List.map_append, List.nodup_append]
  refine ⟨distinct, by simp, ?_⟩
  intro a ha b hb heq
  simp only [List.map_cons, List.map_nil, List.mem_singleton] at hb
  exact h (hb ▸ heq ▸ ha)

def push (l : ImageLedger) (r : ResolvedImage) (h : r.identity ∉ l.identities) : ImageLedger :=
  ⟨l.images ++ [r], nodup_append_identity l.distinct h⟩

/-- Give an identity that is already there a new image, in place. -/
def replaceIn (r : ResolvedImage) (images : List ResolvedImage) : List ResolvedImage :=
  images.map (fun e => if e.identity = r.identity then r else e)

theorem identities_replaceIn (r : ResolvedImage) (images : List ResolvedImage) :
    (replaceIn r images).map ResolvedImage.identity = images.map ResolvedImage.identity := by
  simp only [replaceIn, List.map_map]
  apply List.map_congr_left
  intro e _
  simp only [Function.comp_apply]
  split
  · rename_i h
    exact h.symm
  · rfl

def replace (l : ImageLedger) (r : ResolvedImage) : ImageLedger :=
  ⟨replaceIn r l.images, (identities_replaceIn r l.images).symm ▸ l.distinct⟩

/-- Add an image unless its identity is there, and tell whether it was added. -/
def record (l : ImageLedger) (r : ResolvedImage) : ImageLedger × Bool :=
  if h : r.identity ∈ l.identities then (l, false) else (l.push r h, true)

/-- Add an image, or give its identity this image, and tell whether it was added. -/
def refresh (l : ImageLedger) (r : ResolvedImage) : ImageLedger × Bool :=
  if h : r.identity ∈ l.identities then (l.replace r, false) else (l.push r h, true)

/-- Of images with one identity the first counts. -/
def ofList (images : List ResolvedImage) : ImageLedger :=
  images.foldl (fun l r => (l.record r).1) empty

def refreshAll (l : ImageLedger) (images : List ResolvedImage) : ImageLedger :=
  images.foldl (fun l r => (l.refresh r).1) l

def toStatus (l : ImageLedger) : WorkerStatus := .ofImages l.images

end ImageLedger
end PoolPlan
