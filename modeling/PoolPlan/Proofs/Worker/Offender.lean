import PoolPlan.Proofs.Text.Blank
import PoolPlan.Proofs.Worker.Validation

namespace PoolPlan

/-- A negative tolerance, and the text that it is shown as. -/
inductive Tolerance.Negative : Tolerance → String → Prop where
  | count {n : Int} (h : n < 0) : Negative (.count n) (toString n)
  | relative {text : String} {blanks rest : List Char} (hblanks : ∀ c ∈ blanks, Text.isBlank c = true)
      (h : text.toList = blanks ++ '-' :: rest) : Negative (.relative text) text

theorem Tolerance.negative?_eq_some_iff {t : Tolerance} {shown : String} :
    t.negative? = some shown ↔ t.Negative shown := by
  constructor
  · intro h
    cases t with
    | count n =>
      obtain ⟨hn, hshown⟩ := Option.ite_none_right_eq_some.1 h
      exact Option.some.inj hshown ▸ .count hn
    | relative text =>
      simp only [negative?] at h
      split at h
      · rename_i rest htrim
        obtain rfl := Option.some.inj h
        obtain ⟨blanks, hblanks, htext⟩ := Text.exists_blanks text.toList
        rw [htrim] at htext
        exact .relative hblanks htext
      · contradiction
  · intro h
    cases h with
    | count hn => exact if_pos hn
    | relative hblanks htext =>
      have hminus : Text.isBlank '-' = false := by decide
      simp only [negative?, htext, Text.trimStart_blanks hblanks hminus]

theorem Tolerance.Negative.unique {t : Tolerance} {shown other : String} (h : t.Negative shown)
    (ho : t.Negative other) : shown = other := by
  rw [← negative?_eq_some_iff] at h ho
  exact Option.some.inj (h.symm.trans ho)

namespace Pool

/-- What is wrong with a pool, whatever else may be. -/
inductive HasFault (earlier : List Pool) (p : Pool) : Fault → Prop where
  | noName (h : p.name = "") : HasFault earlier p .noName
  | noZones (h : p.zones = []) : HasFault earlier p .noZones
  | negativeMinimum (h : p.minimum < 0) : HasFault earlier p (.negativeMinimum p.minimum)
  | maximumBelowMinimum (h : p.maximum < p.minimum) :
      HasFault earlier p (.maximumBelowMinimum p.maximum p.minimum)
  | negativeSurge {shown : String} (h : p.maxSurge.Negative shown) :
      HasFault earlier p (.negativeSurge shown)
  | negativeUnavailable {shown : String} (h : p.maxUnavailable.Negative shown) :
      HasFault earlier p (.negativeUnavailable shown)
  | repeatedName (h : p.name ∈ earlier.map Pool.name) : HasFault earlier p .repeatedName

/-- The field that holds a fault. A fault of the name is told without it. -/
inductive Fault.InField : Fault → Option String → Prop where
  | noName : InField .noName none
  | noZones : InField .noZones (some "zones")
  | negativeMinimum (n : Int) : InField (.negativeMinimum n) (some "minimum")
  | maximumBelowMinimum (maximum minimum : Int) :
      InField (.maximumBelowMinimum maximum minimum) (some "maximum")
  | negativeSurge (shown : String) : InField (.negativeSurge shown) (some "maxSurge")
  | negativeUnavailable (shown : String) :
      InField (.negativeUnavailable shown) (some "maxUnavailable")
  | repeatedName : InField .repeatedName none

theorem Fault.inField_iff {fault : Fault} {field : Option String} :
    fault.InField field ↔ fault.field? = field := by
  constructor
  · intro h
    cases h <;> rfl
  · rintro rfl
    cases fault <;> constructor

def Fault.rank : Fault → Nat
  | .noName => 0
  | .noZones => 1
  | .negativeMinimum _ => 2
  | .maximumBelowMinimum .. => 3
  | .negativeSurge _ => 4
  | .negativeUnavailable _ => 5
  | .repeatedName => 6

structure FirstFault (earlier : List Pool) (p : Pool) (fault : Fault) : Prop where
  has : HasFault earlier p fault
  first : ∀ other, HasFault earlier p other → fault.rank ≤ other.rank

variable {earlier : List Pool} {p : Pool} {fault other : Fault}

/-- Of each kind a pool has one fault at most. -/
theorem HasFault.eq_of_rank (hf : HasFault earlier p fault) (ho : HasFault earlier p other)
    (h : fault.rank = other.rank) : fault = other := by
  cases hf with
  | negativeSurge hs =>
    cases ho with
    | negativeSurge ht => rw [hs.unique ht]
    | _ => simp [Fault.rank] at h
  | negativeUnavailable hs =>
    cases ho with
    | negativeUnavailable ht => rw [hs.unique ht]
    | _ => simp [Fault.rank] at h
  | _ => cases ho <;> first | rfl | simp [Fault.rank] at h

theorem FirstFault.unique (hf : FirstFault earlier p fault) (ho : FirstFault earlier p other) :
    fault = other :=
  hf.has.eq_of_rank ho.has (Nat.le_antisymm (hf.first other ho.has) (ho.first fault hf.has))

theorem hasFault_of_fault? (h : p.fault? = some fault) : HasFault earlier p fault := by
  rw [fault?] at h
  split_ifs at h with hname hzones hminimum hmaximum
  · exact Option.some.inj h ▸ .noName hname
  · exact Option.some.inj h ▸ .noZones hzones
  · exact Option.some.inj h ▸ .negativeMinimum hminimum
  · exact Option.some.inj h ▸ .maximumBelowMinimum hmaximum
  · cases hsurge : p.maxSurge.negative? with
    | some shown =>
      rw [hsurge] at h
      exact Option.some.inj h ▸ .negativeSurge (Tolerance.negative?_eq_some_iff.1 hsurge)
    | none =>
      rw [hsurge, Option.map_eq_some_iff] at h
      obtain ⟨shown, hshown, rfl⟩ := h
      exact .negativeUnavailable (Tolerance.negative?_eq_some_iff.1 hshown)

/-- A failure names its pool, unless that has no name, which is then the first fault. -/
theorem FirstFault.failure_eq (h : FirstFault earlier p fault) :
    fault.failure p.name =
      .validation (if p.name = "" then "unknown" else p.name) fault.field? fault.message := by
  by_cases hname : p.name = ""
  · have hle : fault.rank ≤ Fault.noName.rank := h.first .noName (.noName hname)
    obtain rfl := h.has.eq_of_rank (.noName hname) (Nat.le_zero.1 hle)
    rw [if_pos hname]
    rfl
  · rw [if_neg hname]
    cases h.has with
    | noName hempty => exact absurd hempty hname
    | _ => rfl

def faultAfter? (earlier : List Pool) (p : Pool) : Option Fault :=
  p.fault?.or (if p.name ∈ earlier.map Pool.name then some .repeatedName else none)

theorem hasFault_of_faultAfter? (h : p.faultAfter? earlier = some fault) :
    HasFault earlier p fault := by
  rw [faultAfter?, Option.or_eq_some_iff] at h
  obtain h | ⟨-, h⟩ := h
  · exact hasFault_of_fault? h
  · obtain ⟨hname, h⟩ := Option.ite_none_right_eq_some.1 h
    exact Option.some.inj h ▸ .repeatedName hname

/-- The checks are made in the order of the faults, so what a pool has is found, unless something
before it is. -/
theorem HasFault.exists_faultAfter?_le (h : HasFault earlier p other) :
    ∃ fault, p.faultAfter? earlier = some fault ∧ fault.rank ≤ other.rank := by
  rw [faultAfter?, fault?]
  cases h with
  | noName h => exact ⟨.noName, by rw [if_pos h, Option.some_or], Nat.le_refl _⟩
  | noZones h => split_ifs <;> simp [Fault.rank]
  | negativeMinimum h => split_ifs <;> simp [Fault.rank]
  | maximumBelowMinimum h => split_ifs <;> simp [Fault.rank]
  | negativeSurge h =>
    rw [Tolerance.negative?_eq_some_iff.2 h]
    split_ifs <;> simp [Fault.rank]
  | negativeUnavailable h =>
    rw [Tolerance.negative?_eq_some_iff.2 h]
    cases p.maxSurge.negative? <;> split_ifs <;> simp [Fault.rank]
  | repeatedName h =>
    rw [if_pos h]
    cases p.maxSurge.negative? <;> cases p.maxUnavailable.negative? <;> split_ifs <;>
      simp [Fault.rank]

theorem faultAfter?_eq_none_iff :
    p.faultAfter? earlier = none ↔ ∀ fault, ¬HasFault earlier p fault := by
  constructor
  · intro h fault hf
    obtain ⟨found, hfound, -⟩ := hf.exists_faultAfter?_le
    rw [h] at hfound
    contradiction
  · intro h
    exact Option.eq_none_iff_forall_ne_some.2 fun fault hf => h fault (hasFault_of_faultAfter? hf)

theorem faultAfter?_eq_some_iff : p.faultAfter? earlier = some fault ↔ FirstFault earlier p fault := by
  constructor
  · intro h
    refine ⟨hasFault_of_faultAfter? h, fun other ho => ?_⟩
    obtain ⟨found, hfound, hle⟩ := ho.exists_faultAfter?_le
    obtain rfl := Option.some.inj (hfound.symm.trans h)
    exact hle
  · intro h
    obtain ⟨found, hfound, hle⟩ := h.has.exists_faultAfter?_le
    have hfirst := h.first found (hasFault_of_faultAfter? hfound)
    rw [hfound, (hasFault_of_faultAfter? hfound).eq_of_rank h.has (Nat.le_antisymm hle hfirst)]

/-- The pool at `i`, the first of `pools` to have a fault, and the first fault that it has. Names are
taken by the pools `earlier` too. -/
structure FirstOffender (earlier pools : List Pool) (i : Nat) (p : Pool) (fault : Fault) : Prop where
  here : pools[i]? = some p
  fault : FirstFault (earlier ++ pools.take i) p fault
  before : ∀ j < i, ∀ q, pools[j]? = some q → ∀ other, ¬HasFault (earlier ++ pools.take j) q other

variable {q : Pool} {ps : List Pool} {i : Nat}

theorem firstOffender_cons_zero :
    FirstOffender earlier (q :: ps) 0 p fault ↔ q = p ∧ FirstFault earlier p fault := by
  constructor
  · intro h
    exact ⟨Option.some.inj h.here, by simpa using h.fault⟩
  · rintro ⟨rfl, h⟩
    exact ⟨rfl, by simpa using h, fun j hj => absurd hj (Nat.not_lt_zero j)⟩

theorem firstOffender_cons_succ :
    FirstOffender earlier (q :: ps) (i + 1) p fault ↔
      (∀ other, ¬HasFault earlier q other) ∧ FirstOffender (earlier ++ [q]) ps i p fault := by
  constructor
  · intro h
    refine ⟨by simpa using h.before 0 (Nat.succ_pos i) q rfl, h.here, by simpa using h.fault, ?_⟩
    intro j hj r hr
    simpa using h.before (j + 1) (Nat.succ_lt_succ hj) r hr
  · rintro ⟨hq, h⟩
    refine ⟨h.here, by simpa using h.fault, ?_⟩
    rintro (_ | j) hj r hr
    · obtain rfl := Option.some.inj hr
      simpa using hq
    · simpa using h.before j (Nat.lt_of_succ_lt_succ hj) r hr

theorem validateAfter_cons :
    validateAfter (earlier.map Pool.name).reverse (p :: ps) =
      match p.faultAfter? earlier with
      | some fault => .error (fault.failure p.name)
      | none => validateAfter ((earlier ++ [p]).map Pool.name).reverse ps := by
  rw [validateAfter, faultAfter?]
  cases p.fault? with
  | some fault => rfl
  | none =>
    rw [Option.none_or, List.map_append, List.reverse_append]
    simp only [List.mem_reverse]
    split_ifs <;> rfl

theorem validateAfter_eq_error_iff {failure : Failure} :
    validateAfter (earlier.map Pool.name).reverse ps = .error failure ↔
      ∃ i p fault, FirstOffender earlier ps i p fault ∧ failure = Fault.failure p.name fault := by
  induction ps generalizing earlier with
  | nil =>
    constructor
    · intro h
      contradiction
    · rintro ⟨i, p, fault, h, -⟩
      exact absurd h.here (by simp)
  | cons q ps ih =>
    rw [validateAfter_cons]
    cases hq : q.faultAfter? earlier with
    | some found =>
      have hfirst := faultAfter?_eq_some_iff.1 hq
      constructor
      · intro h
        exact ⟨0, q, found, firstOffender_cons_zero.2 ⟨rfl, hfirst⟩, (Except.error.inj h).symm⟩
      · rintro ⟨_ | i, p, fault, h, rfl⟩
        · obtain ⟨rfl, h⟩ := firstOffender_cons_zero.1 h
          rw [hfirst.unique h]
        · exact absurd hfirst.has ((firstOffender_cons_succ.1 h).1 found)
    | none =>
      have hnone := faultAfter?_eq_none_iff.1 hq
      rw [ih]
      constructor
      · rintro ⟨i, p, fault, h, rfl⟩
        exact ⟨i + 1, p, fault, firstOffender_cons_succ.2 ⟨hnone, h⟩, rfl⟩
      · rintro ⟨_ | i, p, fault, h, rfl⟩
        · obtain ⟨rfl, h⟩ := firstOffender_cons_zero.1 h
          exact absurd h.has (hnone fault)
        · exact ⟨i, p, fault, (firstOffender_cons_succ.1 h).2, rfl⟩

/-- Pools are refused for the first of them that is unfit or takes the name of one before it, and
for the first fault of that one. The failure tells the field and the pool, as far as it has a name. -/
theorem first_offender_reported (pools : List Pool) :
    (validateAll pools = .ok () ↔
      (∀ p ∈ pools, p.name ≠ "" ∧ p.zones ≠ [] ∧ 0 ≤ p.minimum ∧ p.minimum ≤ p.maximum ∧
        p.maxSurge.NotNegative ∧ p.maxUnavailable.NotNegative) ∧
      (pools.map Pool.name).Nodup) ∧
    ∀ failure, validateAll pools = .error failure ↔
      ∃ i p fault field, FirstOffender [] pools i p fault ∧ fault.InField field ∧
        failure =
          .validation (if p.name = "" then "unknown" else p.name) field fault.message ∧
        failure.pool? = some (if p.name = "" then "unknown" else p.name) := by
  refine ⟨by simp only [validateAll_eq_ok_iff, fault?_eq_none_iff], fun failure => ?_⟩
  refine Iff.trans (@validateAfter_eq_error_iff [] pools failure) ?_
  constructor
  · rintro ⟨i, p, fault, h, rfl⟩
    have hfailure := h.fault.failure_eq
    exact ⟨i, p, fault, fault.field?, h, Fault.inField_iff.2 rfl, hfailure,
      by rw [hfailure, Failure.pool?]⟩
  · rintro ⟨i, p, fault, field, h, hfield, hfailure, -⟩
    obtain rfl := Fault.inField_iff.1 hfield
    exact ⟨i, p, fault, h, hfailure.trans h.fault.failure_eq.symm⟩

end Pool

namespace Sample

def poolOf (name : String) (minimum : Int) (maxSurge : Tolerance) : Pool where
  name := name
  machineType := "large"
  machineImage := ⟨"ubuntu", "22.04"⟩
  minimum := minimum
  maximum := 3
  maxSurge := maxSurge
  maxUnavailable := .count 0
  userData := []
  zones := ["z1"]
  labels := []
  annotations := []
  taints := []

def faultyPools : List Pool :=
  [poolOf "a" 0 (.count 1), poolOf "a" (-1) (.relative " -5%"), poolOf "" 4 (.count 1)]

/-- The second pool is told for its minimum alone, although its surge and its name are faults as well
and the pool after it has no name. -/
theorem second_pool_reported :
    (∃ p, faultyPools[1]? = some p ∧ p.HasFault (faultyPools.take 1) (.negativeSurge " -5%") ∧
      p.HasFault (faultyPools.take 1) .repeatedName) ∧
    (∃ p, faultyPools[2]? = some p ∧ p.HasFault (faultyPools.take 2) .noName ∧
      p.HasFault (faultyPools.take 2) (.maximumBelowMinimum 3 4)) ∧
    Pool.validateAll faultyPools =
      .error (.validation "a" (some "minimum") "minimum must not be negative, got -1") := by
  have hsurge : Tolerance.Negative (.relative " -5%") " -5%" :=
    .relative (fun c hc => List.mem_singleton.1 hc ▸ rfl) (rfl : _ = [' '] ++ '-' :: ['5', '%'])
  refine ⟨⟨_, rfl, .negativeSurge hsurge, .repeatedName List.mem_cons_self⟩,
    ⟨_, rfl, .noName rfl, .maximumBelowMinimum (by decide)⟩, ?_⟩
  have hfirst : Pool.FirstOffender [] faultyPools 1 (poolOf "a" (-1) (.relative " -5%"))
      (.negativeMinimum (-1)) := by
    refine Pool.firstOffender_cons_succ.2 ⟨?_, Pool.firstOffender_cons_zero.2 ⟨rfl, ?_⟩⟩
    · exact Pool.faultAfter?_eq_none_iff.1 rfl
    · exact Pool.faultAfter?_eq_some_iff.1 rfl
  exact ((Pool.first_offender_reported faultyPools).2 _).2
    ⟨1, _, _, _, hfirst, .negativeMinimum (-1), rfl, rfl⟩

end Sample
end PoolPlan
