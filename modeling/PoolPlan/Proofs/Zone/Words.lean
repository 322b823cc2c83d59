import PoolPlan.Document
import PoolPlan.Proofs.Zone

namespace PoolPlan

theorem int32Of?_eq_self_iff {n : Int} :
    int32Of? n = some n ↔ -2147483648 ≤ n ∧ n < 2147483648 := by
  simp [int32Of?]

namespace Zone

/-- Quotient and remainder by a number of zones, rounded down, from a division that rounds towards
zero. Nothing if there is no zone, or if 32 bits do not hold a value on the way. -/
def divide? (total : Int) (count : Nat) : Option (Int × Int) :=
  if count = 0 then none
  else do
    let quotient ← int32Of? (total.tdiv count)
    let rest ← int32Of? (total.tmod count)
    if rest < 0 then
      let quotient ← int32Of? (quotient - 1)
      let rest ← int32Of? (rest + count)
      return (quotient, rest)
    else return (quotient, rest)

/-- The share of a zone, worked out in 32 bits. Indices and numbers of zones are longer; those that
32 bits do not hold are sorted out beforehand. -/
def shareInWords? (index : Nat) (total : Int) (count : Nat) : Option Int :=
  if countLimit ≤ count then some 0
  else if count = 0 then some 0
  else do
    let (quotient, rest) ← divide? total count
    if index < countLimit ∧ (index : Int) < rest then int32Of? (quotient + 1) else return quotient

variable {total : Int} {count : Nat}

theorem int32Of?_quotient (hpos : 0 < count) (htotal : int32Of? total = some total) :
    int32Of? (total / count) = some (total / count) := by
  rw [int32Of?_eq_self_iff] at htotal ⊢
  constructor
  · apply Int.le_ediv_of_mul_le <;> omega
  · apply Int.ediv_lt_of_lt_mul <;> omega

/-- A divisor that leaves a remainder is at least two, so the quotient has room for one more. -/
theorem int32Of?_quotient_succ (htotal : int32Of? total = some total) (hrest : 0 < total % count)
    (hlt : total % count < count) :
    int32Of? (total / count + 1) = some (total / count + 1) := by
  have hpos : 0 < count := by omega
  have hquotient := int32Of?_quotient hpos htotal
  rw [int32Of?_eq_self_iff] at htotal hquotient ⊢
  have hle : total / count < 2147483647 := by
    apply Int.ediv_lt_of_lt_mul <;> omega
  omega

theorem divide?_eq (hpos : 0 < count) (hlimit : count < countLimit)
    (htotal : int32Of? total = some total) :
    divide? total count = some (total / count, total % count) := by
  have hlt : total % count < count := Int.emod_lt_of_pos total (by omega)
  have hnonneg : 0 ≤ total % count := Int.emod_nonneg total (by omega)
  have hzero : count ≠ 0 := Nat.ne_of_gt hpos
  have hquotient := int32Of?_quotient hpos htotal
  rw [countLimit] at hlimit
  have hrest : int32Of? (total % count) = some (total % count) := by
    rw [int32Of?_eq_self_iff]
    omega
  by_cases h : 0 ≤ total ∨ (count : Int) ∣ total
  · have hdiv : total.tdiv count = total / count := by
      rw [Int.tdiv_eq_ediv, if_pos h, Int.add_zero]
    have hmod : total.tmod count = total % count := by simp [Int.tmod_eq_emod, h]
    simp [divide?, hzero, hdiv, hmod, hquotient, hrest, Int.not_lt.2 hnonneg]
  · -- Towards zero is up here, so the quotient is one too high and less than nothing is left.
    have hdiv : total.tdiv count = total / count + 1 := by
      rw [Int.tdiv_eq_ediv, if_neg h, Int.sign_eq_one_of_pos (by omega)]
    have hmod : total.tmod count = total % count - count := by
      rw [Int.tmod_eq_emod, if_neg h, Int.natAbs_natCast]
    have hne : total % count ≠ 0 := fun he => h (.inr (Int.dvd_of_emod_eq_zero he))
    have htruncated := int32Of?_quotient_succ htotal (by omega) hlt
    have hneg : total % count - count < 0 := by omega
    have hleft : int32Of? (total % count - count) = some (total % count - count) := by
      rw [int32Of?_eq_self_iff]
      omega
    simp [divide?, hzero, hdiv, hmod, htruncated, hneg, hleft, hquotient, hrest]

theorem shareInWords?_eq (htotal : int32Of? total = some total) (index count : Nat) :
    shareInWords? index total count = some (share index total count) := by
  by_cases hlimit : countLimit ≤ count
  · rw [shareInWords?, if_pos hlimit, share_eq_zero (.inr hlimit)]
  by_cases hzero : count = 0
  · rw [shareInWords?, if_neg hlimit, if_pos hzero, share_eq_zero (.inl hzero)]
  have hpos : 0 < count := Nat.pos_of_ne_zero hzero
  have hcount : count < countLimit := Nat.lt_of_not_le hlimit
  have hlt : total % count < count := Int.emod_lt_of_pos total (by omega)
  rw [shareInWords?, if_neg hlimit, if_neg hzero, divide?_eq hpos hcount htotal,
    share_eq hpos hcount]
  simp only [bind, Option.bind_some]
  by_cases h : (index : Int) < total % count
  · have hindex : index < countLimit := by omega
    rw [if_pos ⟨hindex, h⟩, if_pos h, int32Of?_quotient_succ htotal (by omega) hlt]
  · rw [if_neg (fun hand => h hand.2), if_neg h, Int.add_zero]
    rfl

/-- A share has 32 bits if the whole has. -/
theorem int32Of?_share (htotal : int32Of? total = some total) (index count : Nat) :
    int32Of? (share index total count) = some (share index total count) := by
  by_cases hnone : count = 0 ∨ countLimit ≤ count
  · rw [share_eq_zero hnone]
    rfl
  have hpos : 0 < count := Nat.pos_of_ne_zero fun hzero => hnone (.inl hzero)
  have hcount : count < countLimit := Nat.lt_of_not_le fun hlimit => hnone (.inr hlimit)
  have hlt : total % count < count := Int.emod_lt_of_pos total (by omega)
  rw [share_eq hpos hcount]
  by_cases h : (index : Int) < total % count
  · rw [if_pos h, int32Of?_quotient_succ htotal (by omega) hlt]
  · rw [if_neg h, Int.add_zero, int32Of?_quotient hpos htotal]

/-- A split loses nothing and is as even as it can be, the larger shares first. No value on the way to
a share has more than 32 bits, and nothing is divided by zero, whatever the index and the number of
zones are. -/
theorem split_exact_and_even :
    (∀ (total : Int) (count : Nat), 0 < count → count < countLimit →
      ((List.range count).map (fun index => share index total count)).sum = total ∧
        (∀ i j, i ≤ j → share j total count ≤ share i total count) ∧
        ∀ i j, (share i total count - share j total count).natAbs ≤ 1) ∧
    ∀ (total : Int) (index count : Nat), int32Of? total = some total →
      shareInWords? index total count = some (share index total count) := by
  constructor
  · intro total count hpos hlimit
    refine ⟨sum_share hpos hlimit total, ?_, ?_⟩
    · intro i j h
      exact share_antitone h total count
    · intro i j
      exact natAbs_share_sub_le i j total count
  · intro total index count htotal
    exact shareInWords?_eq htotal index count

/-- The lowest number, split over as many zones as can be, is minus one for each and once more for the
last. -/
theorem lowest_over_most_zones :
    ((List.range 2147483647).map (fun index => share index (-2147483648) 2147483647)).sum =
        -2147483648 ∧
      share 2147483646 (-2147483648) 2147483647 = -2 ∧
      shareInWords? 2147483645 (-2147483648) 2147483647 = some (-1) := by
  obtain ⟨hsplit, hwords⟩ := split_exact_and_even
  obtain ⟨hsum, -, -⟩ := hsplit (-2147483648) 2147483647 (by decide) (by decide)
  exact ⟨hsum, by decide, hwords (-2147483648) 2147483645 2147483647 (by decide)⟩

end Zone
end PoolPlan
