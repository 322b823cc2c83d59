namespace PoolPlan.Zone

/-- A pool with this many zones or more is not split: its zones have no share at all. -/
def countLimit : Nat := 2147483648

/-- Share of `total` for the zone at `index` of `count` zones; nothing where there is no zone. -/
def share (index : Nat) (total : Int) (count : Nat) : Int :=
  if count = 0 ∨ countLimit ≤ count then 0
  else if (index : Int) < total % count then total / count + 1
  else total / count

end PoolPlan.Zone

namespace PoolPlan

/-- How far a rolling update may go above or below the desired number of machines. -/
inductive Tolerance where
  | count (machines : Int)
  /-- A text such as `25%`, relative to the size of whatever group it is applied to. -/
  | relative (text : String)
deriving DecidableEq, Repr

/-- A count is split like any other number of machines. A relative tolerance refers to the zone's own
group already, so it is the same in every zone. -/
def Tolerance.share (index : Nat) (tolerance : Tolerance) (zones : Nat) : Tolerance :=
  match tolerance with
  | .count n => .count (Zone.share index n zones)
  | .relative text => .relative text

end PoolPlan
