import GuardedLaunch.Failure
import GuardedLaunch.Kernel.Basic

/-!
# Giving up the caller's ids

The effective ids become the only ids of the process. A call that reports
success is not taken at its word: the ids are read back and compared.

- `Kernel.identity`: the ids as the process sees them.
- `Kernel.assignIds`, `Kernel.confirmIds`: the two halves.
- `Kernel.normalizeIdentity`: both, with the identity seen before.
-/

namespace GuardedLaunch.Kernel

/-- The real and effective ids of the process. Reading them cannot fail. -/
def identity (kernel : Kernel) : Identity where
  realUid := kernel.process.uid.real
  effectiveUid := kernel.process.uid.effective
  realGid := kernel.process.gid.real
  effectiveGid := kernel.process.gid.effective

/-- Set every slot of both kinds. The group comes first, since a process that
has given up its user may no longer be allowed to change its group. -/
def assignIds (uid gid : Id) : EStateM Failure Kernel Unit := do
  (setresgid (.all gid)).adaptExcept fun cause => .idsNotSettled cause s!"setresgid({gid})"
  (setresuid (.all uid)).adaptExcept fun cause => .idsNotSettled cause s!"setresuid({uid})"

/-- The failure for ids that are not what they were set to; `kind` says which
ids. -/
def mismatch (kind : String) (found : IdSlots) (wanted : Id) : Failure :=
  let real := found.real
  let effective := found.effective
  let saved := found.saved
  .idsDiffer s!"{kind} are {real}/{effective}/{saved}, wanted {wanted}"

/-- Read every slot of both kinds back, then compare, the user ids first. -/
def confirmIds (uid gid : Id) : EStateM Failure Kernel Unit := do
  let uids ← getresuid.adaptExcept fun cause => .idsNotSettled cause "getresuid"
  let gids ← getresgid.adaptExcept fun cause => .idsNotSettled cause "getresgid"
  if uids ≠ .all uid then throw (mismatch "uids" uids uid)
  if gids ≠ .all gid then throw (mismatch "gids" gids gid)

/-- Make the effective ids the only ids, and make sure of it. The answer is the
identity seen before the change. -/
def normalizeIdentity : EStateM Failure Kernel Identity := do
  let before := (← get).identity
  assignIds before.effectiveUid before.effectiveGid
  confirmIds before.effectiveUid before.effectiveGid
  return before

end GuardedLaunch.Kernel
