import Mathlib.Data.List.Nodup
import PoolPlan.Worker.Validation

namespace PoolPlan

def Tolerance.NotNegative : Tolerance → Prop
  | .count n => 0 ≤ n
  | .relative text => (Text.trimStart text.toList).head? ≠ some '-'

theorem Tolerance.negative?_eq_none_iff {t : Tolerance} : t.negative? = none ↔ t.NotNegative := by
  cases t with
  | count n => simp [negative?, NotNegative]
  | relative text =>
    simp only [negative?, NotNegative]
    split
    · rename_i rest htrim
      simp [htrim]
    · rename_i hminus
      simp only [true_iff]
      intro hhead
      obtain ⟨rest, hrest⟩ := List.head?_eq_some_iff.1 hhead
      exact hminus rest hrest

namespace Pool

/-- A pool has no fault if it has a name, zones, bounds in order and no negative tolerance. -/
theorem fault?_eq_none_iff {p : Pool} :
    p.fault? = none ↔ p.name ≠ "" ∧ p.zones ≠ [] ∧ 0 ≤ p.minimum ∧ p.minimum ≤ p.maximum ∧
      p.maxSurge.NotNegative ∧ p.maxUnavailable.NotNegative := by
  simp only [← Tolerance.negative?_eq_none_iff, fault?]
  by_cases hname : p.name = ""
  · simp [hname]
  by_cases hzones : p.zones = []
  · simp [hname, hzones]
  by_cases hminimum : p.minimum < 0
  · simp [hname, hzones, hminimum, Int.not_le.2 hminimum]
  by_cases hmaximum : p.maximum < p.minimum
  · simp [hname, hzones, hminimum, hmaximum, Int.not_le.2 hmaximum]
  · cases p.maxSurge.negative? with
    | some shown => simp [hname, hzones, hminimum, hmaximum]
    | none => simp [hname, hzones, hminimum, hmaximum, Int.not_lt.1 hminimum, Int.not_lt.1 hmaximum]

/-- After the names `seen`, the pools pass that have no fault and have new names, each another one. -/
theorem validateAfter_eq_ok_iff {seen : List String} {pools : List Pool} (h : seen.Nodup) :
    validateAfter seen pools = .ok () ↔
      (∀ p ∈ pools, p.fault? = none) ∧ (seen ++ pools.map Pool.name).Nodup := by
  induction pools generalizing seen with
  | nil => simp [validateAfter, h]
  | cons p ps ih =>
    rw [validateAfter, List.forall_mem_cons, List.map_cons, List.nodup_middle]
    cases hp : p.fault? with
    | some fault => simp
    | none =>
      by_cases hs : p.name ∈ seen
      · have hdup : ¬ (p.name :: (seen ++ ps.map Pool.name)).Nodup := fun hd =>
          (List.nodup_cons.1 hd).1 (List.mem_append_left _ hs)
        simp [hs, hdup]
      · simp only [if_neg hs, true_and]
        exact ih (List.nodup_cons.2 ⟨hs, h⟩)

/-- A list of pools is fit if every pool is and no two share a name. -/
theorem validateAll_eq_ok_iff {pools : List Pool} :
    validateAll pools = .ok () ↔
      (∀ p ∈ pools, p.fault? = none) ∧ (pools.map Pool.name).Nodup :=
  validateAfter_eq_ok_iff List.nodup_nil

/-- No two pools of a valid list share a name. -/
theorem nodup_of_validateAll {pools : List Pool} (h : validateAll pools = .ok ()) :
    (pools.map Pool.name).Nodup := (validateAll_eq_ok_iff.1 h).2

theorem zones_ne_nil_of_validateAll {pools : List Pool} (h : validateAll pools = .ok ()) :
    ∀ p ∈ pools, p.zones ≠ [] :=
  fun p hp => (fault?_eq_none_iff.1 ((validateAll_eq_ok_iff.1 h).1 p hp)).2.1

/-- Pools of a fit list, in any order, are fit as long as none is taken twice. -/
theorem validateAll_of_subset {pools others : List Pool} (h : validateAll pools = .ok ())
    (hsub : others ⊆ pools) (hn : (others.map Pool.name).Nodup) : validateAll others = .ok () :=
  validateAll_eq_ok_iff.2 ⟨fun p hp => (validateAll_eq_ok_iff.1 h).1 p (hsub hp), hn⟩

theorem validateAll_of_append {before after : List Pool}
    (h : validateAll (before ++ after) = .ok ()) :
    validateAll before = .ok () ∧ validateAll after = .ok () := by
  have hnames := nodup_of_validateAll h
  rw [List.map_append, List.nodup_append] at hnames
  obtain ⟨hbefore, hafter, -⟩ := hnames
  exact ⟨validateAll_of_subset h (List.subset_append_left _ _) hbefore,
    validateAll_of_subset h (List.subset_append_right _ _) hafter⟩

theorem validateAfter_eq_error {seen : List String} {pools : List Pool} {failure : Failure}
    (h : validateAfter seen pools = .error failure) :
    ∃ p ∈ pools, ∃ fault, failure = Fault.failure p.name fault := by
  induction pools generalizing seen with
  | nil => contradiction
  | cons p ps ih =>
    simp only [validateAfter] at h
    split at h
    · rename_i fault _
      exact ⟨p, List.mem_cons_self, fault, (Except.error.inj h).symm⟩
    · split at h
      · exact ⟨p, List.mem_cons_self, .repeatedName, (Except.error.inj h).symm⟩
      · obtain ⟨q, hq, hf⟩ := ih h
        exact ⟨q, List.mem_cons_of_mem _ hq, hf⟩

theorem validateAll_eq_error {pools : List Pool} {failure : Failure}
    (h : validateAll pools = .error failure) :
    ∃ p ∈ pools, ∃ fault, failure = Fault.failure p.name fault := validateAfter_eq_error h

end Pool
end PoolPlan
