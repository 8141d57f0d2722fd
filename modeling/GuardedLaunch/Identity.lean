/-!
# Identities

A process acts under user and group ids. A program that was given the rights of
its owner starts with effective ids that differ from the real ones, the ids of
the caller.

- `Identity`: the real and the effective ids.
- `Identity.isSplit`: whether they differ.
-/

namespace GuardedLaunch

/-- A user or group id. -/
abbrev Id := UInt32

/-- The real and effective ids of a process. -/
structure Identity where
  realUid : Id
  effectiveUid : Id
  realGid : Id
  effectiveGid : Id
  deriving DecidableEq

/-- Whether a process acts with rights that its caller does not have. -/
def Identity.isSplit (identity : Identity) : Bool :=
  identity.realUid != identity.effectiveUid || identity.realGid != identity.effectiveGid

end GuardedLaunch
