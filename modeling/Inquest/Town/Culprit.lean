import Inquest.Random.Seeded
import Inquest.Town.Error

/-! # Who is the culprit

A `CulpritPolicy` says how the culprit is picked among the profiles of a town. The same profiles and
the same policy always give the same culprit.

* `select?`: the culprit's place, or nothing if nobody satisfies the policy.
* `suits_of_select?`: the culprit satisfies the policy.
-/

namespace Inquest

/-- How the culprit is picked. -/
inductive CulpritPolicy
  /-- The first with a role. -/
  | fixedRole (role : String)
  /-- Anyone without a role, chosen by a seed. -/
  | excludeRole (role : String) (seed : UInt64)
  /-- The one with a name. -/
  | named (name : String)
  deriving DecidableEq

namespace CulpritPolicy

/-- The policy unless another is given. -/
def default : CulpritPolicy := .fixedRole "innkeeper"

/-- The policy in words. -/
def describe : CulpritPolicy → String
  | .fixedRole role => s!"role '{role}'"
  | .excludeRole role seed => s!"anyone but role '{role}' (seed {seed.toNat})"
  | .named name => s!"name '{name}'"

/-- Whether a profile satisfies the policy. -/
def suits : CulpritPolicy → Profile → Bool
  | .fixedRole role, p => p.hasRole role
  | .excludeRole role _, p => !p.hasRole role
  | .named name, p => p.name == name

/-- The places of the profiles that satisfy the policy, in order. -/
def eligible (policy : CulpritPolicy) (profiles : List Profile) : List (Fin profiles.length) :=
  (List.finRange profiles.length).filter fun i => policy.suits profiles[i]

/-- The place of the culprit. -/
def select? (policy : CulpritPolicy) (profiles : List Profile) : Option (Fin profiles.length) :=
  match policy with
  | .excludeRole _ seed =>
    let places := policy.eligible profiles
    if h : 0 < places.length then some places[Random.choose seed places.length h] else none
  | _ => (policy.eligible profiles).head?

/-- The culprit satisfies the policy. -/
theorem suits_of_select? {policy : CulpritPolicy} {profiles : List Profile}
    {i : Fin profiles.length} (h : policy.select? profiles = some i) :
    policy.suits profiles[i] = true := by
  have hm : i ∈ policy.eligible profiles := by
    unfold select? at h
    split at h
    · next role seed =>
      simp only [Option.dite_none_right_eq_some, Option.some.injEq] at h
      obtain ⟨_, h⟩ := h
      exact h ▸ List.getElem_mem _
    · exact List.mem_of_mem_head? h
  exact (List.mem_filter.1 hm).2

/-- The place of the culprit, or the reason why there is none. -/
def select (policy : CulpritPolicy) (profiles : List Profile) :
    Except TownError (Fin profiles.length) :=
  match policy.select? profiles with
  | some i => .ok i
  | none => .error (.noEligibleCulprit policy.describe)

end CulpritPolicy

end Inquest
