import Onramp.Library.Keyed

/-!
Leases: a key is taken by an owner for a while and nobody takes it again before that
time has passed. The owner does not give it back. `setNx` is `SET key owner NX EX ttl`.
-/
namespace Onramp.Library.Leasing
open Onramp.Library.Keyed (Table find upsert find_upsert_self find_upsert_other)

variable {κ ω : Type} [DecidableEq κ]

/-- Who took a key, and when the key is free again. -/
structure Lease (ω : Type) where
  owner : ω
  expiresAt : Nat

abbrev Leases (κ ω : Type) : Type := Table κ (Lease ω)

/-- The key is taken at `now`. -/
def held (key : κ) (now : Nat) (leases : Leases κ ω) : Bool :=
  (find key leases).any (fun lease => decide (now < lease.expiresAt))

/-- The owner takes the key for `ttl` from `now`, unless it is taken. -/
def setNx (key : κ) (owner : ω) (now ttl : Nat) (leases : Leases κ ω) : Option (Leases κ ω) :=
  if held key now leases then none else some (upsert key ⟨owner, now + ttl⟩ leases)

variable {key other : κ} {owner : ω} {now ttl : Nat} {leases granted : Leases κ ω}

theorem held_of_lease {lease : Lease ω} (found : find key leases = some lease) (early : now < lease.expiresAt) :
    held key now leases = true := by
  simp [held, found, early]

theorem free_of_setNx (taken : setNx key owner now ttl leases = some granted) : held key now leases = false := by
  unfold setNx at taken
  split at taken
  · cases taken
  · next free => exact Bool.eq_false_iff.mpr free

theorem find_setNx_self (taken : setNx key owner now ttl leases = some granted) :
    find key granted = some ⟨owner, now + ttl⟩ := by
  unfold setNx at taken
  split at taken
  · cases taken
  · cases taken
    exact find_upsert_self key _ leases

theorem find_setNx_other (taken : setNx key owner now ttl leases = some granted) (differs : other ≠ key) :
    find other granted = find other leases := by
  unfold setNx at taken
  split at taken
  · cases taken
  · cases taken
    exact find_upsert_other differs _ leases

/-- A lease that has run out leaves the key free. -/
theorem held_upsert_expired {expiresAt : Nat} (expired : expiresAt ≤ now) :
    held key now (upsert key ⟨owner, expiresAt⟩ leases) = false := by
  simp [held, expired]

/-- A key is granted only after its lease has run out. -/
theorem expired_of_setNx {lease : Lease ω} (taken : setNx key owner now ttl leases = some granted)
    (found : find key leases = some lease) : lease.expiresAt ≤ now := by
  by_contra late
  have taken' := taken
  rw [setNx, held_of_lease found (Nat.lt_of_not_le late)] at taken'
  cases taken'

end Onramp.Library.Leasing
