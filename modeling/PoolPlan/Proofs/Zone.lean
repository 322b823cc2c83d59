import Mathlib.Algebra.Ring.Int.Defs
import PoolPlan.Zone

namespace PoolPlan.Zone

theorem share_eq {count : Nat} (hpos : 0 < count) (hlimit : count < countLimit) (index : Nat)
    (total : Int) :
    share index total count = total / count + if (index : Int) < total % count then 1 else 0 := by
  unfold share
  rw [if_neg (by omega)]
  split
  · rfl
  · rw [Int.add_zero]

/-- What the first zones have together. -/
theorem sum_share_range {count : Nat} (hpos : 0 < count) (hlimit : count < countLimit)
    (total : Int) (first : Nat) :
    ((List.range first).map (fun index => share index total count)).sum =
      first * (total / count) + min (first : Int) (total % count) := by
  have hrest : 0 ≤ total % count := Int.emod_nonneg total (by omega)
  induction first with
  | zero =>
    rw [List.range_zero, List.map_nil, List.sum_nil]
    omega
  | succ first ih =>
    rw [List.range_succ, List.map_append, List.sum_append, ih, List.map_singleton,
      List.sum_singleton, share_eq hpos hlimit, Int.natCast_add, Int.natCast_one, Int.add_mul,
      Int.one_mul]
    -- The next zone has one more exactly as long as there is something left of the remainder.
    split <;> omega

/-- No machine is lost or counted twice, whatever the number of zones. -/
theorem sum_share {count : Nat} (hpos : 0 < count) (hlimit : count < countLimit) (total : Int) :
    ((List.range count).map (fun index => share index total count)).sum = total := by
  have hrest : total % count < count := Int.emod_lt_of_pos total (by omega)
  rw [sum_share_range hpos hlimit, Int.min_eq_right (Int.le_of_lt hrest), Int.mul_ediv_add_emod]

theorem share_eq_zero {count : Nat} (h : count = 0 ∨ countLimit ≤ count) (index : Nat) (total : Int) :
    share index total count = 0 := if_pos h

/-- The remainder is not monotone by itself, but the quotient is, and where that stays the same the
remainder is too. -/
theorem share_mono {s t : Int} (h : s ≤ t) (index count : Nat) :
    share index s count ≤ share index t count := by
  by_cases hzones : count = 0 ∨ countLimit ≤ count
  · simp only [share_eq_zero hzones, Int.le_refl]
  · have hpos : (0 : Int) < count := by omega
    have hquotient : s / count ≤ t / count := Int.ediv_le_ediv hpos h
    rw [share_eq (by omega) (by omega), share_eq (by omega) (by omega)]
    rcases Int.lt_or_eq_of_le hquotient with hlt | heq
    · split <;> split <;> omega
    · have hs := Int.mul_ediv_add_emod s count
      have ht := Int.mul_ediv_add_emod t count
      rw [heq] at hs
      have hrest : s % count ≤ t % count := by omega
      split <;> split <;> omega

/-- A later zone has no more than an earlier one. -/
theorem share_antitone {i j : Nat} (h : i ≤ j) (total : Int) (count : Nat) :
    share j total count ≤ share i total count := by
  by_cases hzones : count = 0 ∨ countLimit ≤ count
  · simp only [share_eq_zero hzones, Int.le_refl]
  · rw [share_eq (by omega) (by omega), share_eq (by omega) (by omega)]
    split <;> split <;> omega

theorem natAbs_share_sub_le (i j : Nat) (total : Int) (count : Nat) :
    (share i total count - share j total count).natAbs ≤ 1 := by
  by_cases hzones : count = 0 ∨ countLimit ≤ count
  · simp [share_eq_zero hzones]
  · rw [share_eq (by omega) (by omega), share_eq (by omega) (by omega)]
    split <;> split <;> omega

theorem share_nonneg {total : Int} (h : 0 ≤ total) (index count : Nat) :
    0 ≤ share index total count := by
  have hzero : share index 0 count = 0 := by simp [share]
  calc 0 = share index 0 count := hzero.symm
    _ ≤ share index total count := share_mono h index count

end PoolPlan.Zone
