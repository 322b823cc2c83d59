import PoolPlan.Plan.Planner
import PoolPlan.Proofs.Class.Spec

namespace PoolPlan

namespace Credentials

/-- A secret with credentials beside what it held, or in place of older ones. -/
structure PutBeside (c : Credentials) (secret merged : Dict Json) : Prop where
  kubeconfig : merged.get? "kubeconfig" = some (.string c.kubeconfig)
  ns : merged.get? "namespace" = some (.string c.ns)
  others : ∀ key, key ≠ "kubeconfig" → key ≠ "namespace" → merged.get? key = secret.get? key

def putInto (c : Credentials) (secret : Dict Json) : Dict Json :=
  Dict.insert namespaceKey (.string c.ns) (Dict.insert kubeconfigKey (.string c.kubeconfig) secret)

theorem get?_putInto (c : Credentials) (secret : Dict Json) (key : String) :
    (c.putInto secret).get? key =
      if key = namespaceKey then some (.string c.ns)
      else if key = kubeconfigKey then some (.string c.kubeconfig)
      else secret.get? key := by
  rw [putInto, Dict.get?_insert, Dict.get?_insert]

theorem putBeside_putInto (c : Credentials) (secret : Dict Json) :
    c.PutBeside secret (c.putInto secret) := by
  constructor
  · simp [get?_putInto, kubeconfigKey, namespaceKey]
  · simp [get?_putInto, namespaceKey]
  · intro key hkubeconfig hns
    simp [get?_putInto, kubeconfigKey, namespaceKey, hkubeconfig, hns]

theorem sorted_putInto (c : Credentials) {secret : Dict Json} (h : (Json.object secret).Sorted) :
    (Json.object (c.putInto secret)).Sorted := by
  simp only [Json.Sorted] at h ⊢
  obtain ⟨hkeys, hvalues⟩ := h
  have htext (s : String) : (Json.string s).Sorted := by simp [Json.Sorted]
  constructor
  · exact Dict.ascending_insert (Dict.ascending_insert hkeys)
  · exact Json.sortedFields_insert (htext _) (Json.sortedFields_insert (htext _) hvalues)

variable {c d : Credentials} {secret merged other : Dict Json}

theorem PutBeside.unique (hm : c.PutBeside secret merged) (ho : c.PutBeside secret other)
    (hmerged : merged.Ascending) (hother : other.Ascending) : merged = other := by
  apply Dict.ext hmerged hother
  intro key
  by_cases hkubeconfig : key = "kubeconfig"
  · rw [hkubeconfig, hm.kubeconfig, ho.kubeconfig]
  · by_cases hns : key = "namespace"
    · rw [hns, hm.ns, ho.ns]
    · rw [hm.others key hkubeconfig hns, ho.others key hkubeconfig hns]

/-- Both keys are set each time, so the first credentials are gone after the second. -/
theorem PutBeside.trans (hc : c.PutBeside secret merged) (hd : d.PutBeside merged other) :
    d.PutBeside secret other := by
  refine ⟨hd.kubeconfig, hd.ns, ?_⟩
  intro key hkubeconfig hns
  rw [hd.others key hkubeconfig hns, hc.others key hkubeconfig hns]

end Credentials

namespace ClassSpec
variable {spec before after other : ClassSpec}

theorem attachCredentials_of_absent (h : spec.get? "secret" = none) (c : Credentials) :
    spec.attachCredentials c = spec.insert "secret" (.object (c.putInto [])) := by
  simp only [attachCredentials, secretField, h, Option.getD_none, Credentials.putInto]

theorem attachCredentials_of_object {secret : Dict Json}
    (h : spec.get? "secret" = some (.object secret)) (c : Credentials) :
    spec.attachCredentials c = spec.insert "secret" (.object (c.putInto secret)) := by
  simp only [attachCredentials, secretField, h, Option.getD_some, Credentials.putInto]

theorem attachCredentials_of_not_object {value : Json} (h : spec.get? "secret" = some value)
    (hvalue : ∀ secret, value ≠ .object secret) (c : Credentials) :
    spec.attachCredentials c = spec := by
  simp only [attachCredentials, secretField, h, Option.getD_some]

/-- What credentials make of the fields of a class. -/
structure Attachment (before : ClassSpec) (c : Credentials) (after : ClassSpec) : Prop where
  others : ∀ key, key ≠ "secret" → after.get? key = before.get? key
  absent : before.get? "secret" = none → after.get? "secret" =
    some (.object [("kubeconfig", .string c.kubeconfig), ("namespace", .string c.ns)])
  object : ∀ secret, before.get? "secret" = some (.object secret) →
    ∃ merged, after.get? "secret" = some (.object merged) ∧ c.PutBeside secret merged
  /-- There is no place for credentials, and nothing is put elsewhere. -/
  notObject : ∀ value, before.get? "secret" = some value → (∀ secret, value ≠ .object secret) →
    after = before

theorem secret_cases (spec : ClassSpec) :
    spec.get? "secret" = none ∨ (∃ secret, spec.get? "secret" = some (.object secret)) ∨
      ∃ value, spec.get? "secret" = some value ∧ ∀ secret, value ≠ .object secret := by
  cases hvalue : spec.get? "secret" with
  | none => exact .inl rfl
  | some value =>
    by_cases hobject : ∃ secret, value = .object secret
    · obtain ⟨secret, rfl⟩ := hobject
      exact .inr (.inl ⟨secret, rfl⟩)
    · exact .inr (.inr ⟨value, rfl, not_exists.1 hobject⟩)

theorem attachment_attachCredentials (spec : ClassSpec) (c : Credentials) :
    Attachment spec c (spec.attachCredentials c) := by
  constructor
  · intro key hkey
    rcases spec.secret_cases with h | ⟨secret, h⟩ | ⟨value, h, hvalue⟩
    · rw [attachCredentials_of_absent h, get?_insert, if_neg hkey]
    · rw [attachCredentials_of_object h, get?_insert, if_neg hkey]
    · rw [attachCredentials_of_not_object h hvalue]
  · intro h
    have hsorted := c.sorted_putInto empty.sorted
    rw [attachCredentials_of_absent h]
    exact get?_insert_of_sorted hsorted
  · intro secret h
    have hsorted := c.sorted_putInto (sorted_of_get? h)
    rw [attachCredentials_of_object h]
    exact ⟨c.putInto secret, get?_insert_of_sorted hsorted, c.putBeside_putInto secret⟩
  · intro value h hvalue
    exact attachCredentials_of_not_object h hvalue c

namespace Attachment
variable {c d : Credentials}

/-- The description leaves nothing open. -/
theorem unique (ha : Attachment before c after) (ho : Attachment before c other) :
    after = other := by
  have hothers (key : String) (hkey : key ≠ "secret") : after.get? key = other.get? key := by
    rw [ha.others key hkey, ho.others key hkey]
  rcases before.secret_cases with h | ⟨secret, h⟩ | ⟨value, h, hvalue⟩
  · apply eq_of_get?_eq hothers
    rw [ha.absent h, ho.absent h]
  · obtain ⟨merged, hmerged, hput⟩ := ha.object secret h
    obtain ⟨merged', hmerged', hput'⟩ := ho.object secret h
    have hsame : merged = merged' :=
      hput.unique hput' (sorted_of_get? hmerged).1 (sorted_of_get? hmerged').1
    apply eq_of_get?_eq hothers
    rw [hmerged, hmerged', hsame]
  · rw [ha.notObject value h hvalue, ho.notObject value h hvalue]

/-- Credentials make of a class that holds others what they would have made of it before. -/
theorem trans (hc : Attachment before c after) (hd : Attachment after d other) :
    Attachment before d other := by
  constructor
  · intro key hkey
    rw [hd.others key hkey, hc.others key hkey]
  · intro h
    obtain ⟨merged, hmerged, hput⟩ := hd.object _ (hc.absent h)
    -- The first credentials made the secret, so the second ones find an object and not nothing.
    have hsame : merged = d.putInto [] :=
      ((c.putBeside_putInto []).trans hput).unique (d.putBeside_putInto [])
        (sorted_of_get? hmerged).1 (d.sorted_putInto empty.sorted).1
    rw [hmerged, hsame]
    rfl
  · intro secret h
    obtain ⟨middle, hmiddle, hfirst⟩ := hc.object secret h
    obtain ⟨merged, hmerged, hsecond⟩ := hd.object middle hmiddle
    exact ⟨merged, hmerged, hfirst.trans hsecond⟩
  · intro value h hvalue
    obtain rfl : after = before := hc.notObject value h hvalue
    exact hd.notObject value h hvalue

end Attachment

/-- What is described is all that becomes of a class when credentials are put in, whatever provider it is
for. If that is done again with other credentials, the first ones might as well never have been there. -/
theorem attachment_exact_and_last_stays (spec : ClassSpec) (c d : Credentials) :
    (∀ after, Attachment spec c after ↔ after = spec.attachCredentials c) ∧
      (spec.attachCredentials c).attachCredentials d = spec.attachCredentials d ∧
      ∀ (p : Planner) (pool : Pool) (index : Nat) (zone : String),
        Attachment spec p.credentials (p.zoneOf pool index zone spec).machineClass.spec ∧
          (p.zoneOf pool index zone (spec.attachCredentials c)).machineClass.spec =
            (p.zoneOf pool index zone spec).machineClass.spec := by
  have hlast (e : Credentials) :
      (spec.attachCredentials c).attachCredentials e = spec.attachCredentials e := by
    have hboth := (attachment_attachCredentials spec c).trans
      (attachment_attachCredentials (spec.attachCredentials c) e)
    exact hboth.unique (attachment_attachCredentials spec e)
  refine ⟨?_, hlast d, ?_⟩
  · intro after
    constructor
    · intro h
      exact h.unique (attachment_attachCredentials spec c)
    · rintro rfl
      exact attachment_attachCredentials spec c
  · intro p pool index zone
    exact ⟨attachment_attachCredentials spec p.credentials, hlast p.credentials⟩

/-- A secret with an older kubeconfig keeps everything else. -/
example :
    ((ofFields [("region", .string "west"), ("secret", .object [("kubeconfig", .string "older"),
      ("cloudConfig", .string "script")])]).attachCredentials ⟨"newer", "machines"⟩).fields =
    [("region", .string "west"), ("secret", .object [("cloudConfig", .string "script"),
      ("kubeconfig", .string "newer"), ("namespace", .string "machines")])] := rfl

end ClassSpec
end PoolPlan
