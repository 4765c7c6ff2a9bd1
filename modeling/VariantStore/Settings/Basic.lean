/-!
# Settings

A store is bounded twice: by the number of resources and by the number of variants of each. A store
with a bound of zero could not keep anything, so both bounds have to be at least one.
-/

namespace VariantStore

/-- The bounds that a store is to have. -/
structure Settings where
  capacity : Nat := 1000
  variantCapacity : Nat := 10
deriving DecidableEq

/-- The names of the bounds. -/
inductive Bound
  | capacity
  | variantCapacity
deriving DecidableEq

def Bound.name : Bound → String
  | .capacity => "capacity"
  | .variantCapacity => "vary_capacity"

/-- A bound that is zero. -/
structure ZeroBound where
  bound : Bound
deriving DecidableEq

def ZeroBound.message (e : ZeroBound) : String := s!"{e.bound.name} must be at least 1"

namespace Settings

/-- Both bounds, or the first one that is zero. -/
def bounds (s : Settings) : Except ZeroBound (Nat × Nat) :=
  if s.capacity = 0 then .error ⟨.capacity⟩
  else if s.variantCapacity = 0 then .error ⟨.variantCapacity⟩
  else .ok (s.capacity, s.variantCapacity)

theorem bounds_eq_ok_iff {s : Settings} {b : Nat × Nat} :
    s.bounds = .ok b ↔
      1 ≤ s.capacity ∧ 1 ≤ s.variantCapacity ∧ b = (s.capacity, s.variantCapacity) := by
  unfold bounds
  split
  · simp_all
  · split
    · simp_all
    · simp only [Except.ok.injEq]
      constructor
      · rintro rfl
        exact ⟨by omega, by omega, rfl⟩
      · rintro ⟨_, _, rfl⟩
        rfl

end Settings

end VariantStore
