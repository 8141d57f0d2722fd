import GuardedLaunch.Proofs.Retry

/-!
# Ids that can be settled

Without faults every call does what it says, and yet a normalization may fail: to set a slot
to the number that is no id is to leave it alone, while a reading takes that number as it
takes any other. Whether a normalization succeeds can be told from the slots beforehand.

- `IdSlots.Settleable`: slots that can be made to hold their effective id and no other.
- `IdSlots.normalized_eq_all_iff`: setting them does so exactly if they are of this kind.
- `ProcessState.mismatch?_eq_none_iff`: the same of both kinds of ids together.
- `Kernel.Settles`: what a normalization that succeeds has done.
- `Kernel.settles_iff_settleable`: when it succeeds, and what it reports otherwise. A saved id
  does not show in the identity, and it is replaced all the same.
-/

namespace GuardedLaunch

open IdSlots (noId)

/-! ## Slots -/

namespace IdSlots

/-- Every slot can be made to hold the effective id: it is an id, or there is no id in any
slot. -/
def Settleable (slots : IdSlots) : Prop :=
  slots.effective ≠ noId ∨ slots = .all noId

instance (slots : IdSlots) : Decidable slots.Settleable :=
  inferInstanceAs (Decidable (slots.effective ≠ noId ∨ slots = .all noId))

/-- Where the effective id is one, every slot takes it. -/
theorem normalized_of_ne {slots : IdSlots} (h : slots.effective ≠ noId) :
    slots.normalized = .all slots.effective := by
  have taken (old : Id) : assignSlot old slots.effective = slots.effective := if_neg h
  simp only [normalized, assign, all, taken]

/-- Where it is none, every slot is left alone. -/
theorem normalized_of_eq {slots : IdSlots} (h : slots.effective = noId) :
    slots.normalized = slots := by
  have kept (old : Id) : assignSlot old slots.effective = old := if_pos h
  simp only [normalized, assign, all, kept]

theorem normalized_eq_all_iff (slots : IdSlots) :
    slots.normalized = .all slots.effective ↔ slots.Settleable := by
  by_cases h : slots.effective = noId
  · rw [normalized_of_eq h, Settleable, h]
    exact (or_iff_right (not_not_intro rfl)).symm
  · exact iff_of_true (normalized_of_ne h) (Or.inl h)

/-- Slots that cannot be settled are not changed by the attempt. -/
theorem normalized_of_not_settleable {slots : IdSlots} (h : ¬ slots.Settleable) :
    slots.normalized = slots :=
  normalized_of_eq (Decidable.byContradiction fun hne => h (Or.inl hne))

end IdSlots

/-! ## Processes -/

namespace ProcessState

variable {process : ProcessState}

theorem mismatch?_of_users (users : ¬ process.uid.Settleable) :
    process.mismatch?
      = some (.idsDiffer (process.uid.differenceText "uids" process.uid.effective)) := by
  have differ := mt process.uid.normalized_eq_all_iff.mp users
  rw [mismatch?, if_pos differ, IdSlots.normalized_of_not_settleable users, Kernel.mismatch_eq]

theorem mismatch?_of_groups (users : process.uid.Settleable)
    (groups : ¬ process.gid.Settleable) :
    process.mismatch?
      = some (.idsDiffer (process.gid.differenceText "gids" process.gid.effective)) := by
  have agree := process.uid.normalized_eq_all_iff.mpr users
  have differ := mt process.gid.normalized_eq_all_iff.mp groups
  rw [mismatch?, if_neg (not_not_intro agree), if_pos differ,
    IdSlots.normalized_of_not_settleable groups, Kernel.mismatch_eq]

/-- Nothing is found to be different exactly if both kinds of ids can be settled. -/
theorem mismatch?_eq_none_iff :
    process.mismatch? = none ↔ process.uid.Settleable ∧ process.gid.Settleable := by
  by_cases users : process.uid.Settleable
  · by_cases groups : process.gid.Settleable
    · have agree := process.uid.normalized_eq_all_iff.mpr users
      have agree' := process.gid.normalized_eq_all_iff.mpr groups
      rw [mismatch?, if_neg (not_not_intro agree), if_neg (not_not_intro agree')]
      exact iff_of_true rfl ⟨users, groups⟩
    · rw [mismatch?_of_groups users groups]
      exact iff_of_false (Option.some_ne_none _) fun h => groups h.2
  · rw [mismatch?_of_users users]
    exact iff_of_false (Option.some_ne_none _) fun h => users h.1

end ProcessState

theorem Identity.isSplit_eq_false_iff {identity : Identity} :
    identity.isSplit = false ↔
      identity.realUid = identity.effectiveUid ∧ identity.realGid = identity.effectiveGid := by
  rw [isSplit, Bool.or_eq_false_iff, bne_eq_false_iff_eq, bne_eq_false_iff_eq]

namespace Kernel

/-! ## Success -/

/-- A normalization that succeeded with an identity has settled the ids. -/
structure Settles (kernel : Kernel) (before : Identity) (after : Kernel) : Prop where
  seen : before = kernel.identity
  uid : after.process.uid = .all kernel.process.uid.effective
  gid : after.process.gid = .all kernel.process.gid.effective
  unsplit : after.identity.isSplit = false
  /-- Doing it once more succeeds, too, and does nothing but make the same calls. -/
  again : normalizeIdentity after
    = .ok after.identity (after.recalling (after.trace ++ after.process.idSettings))

section

variable {kernel : Kernel} (faultless : kernel.Faultless)

include faultless

/-- Ids of both kinds that can be settled are settled. -/
theorem Faultless.normalizes (users : kernel.process.uid.Settleable)
    (groups : kernel.process.gid.Settleable) :
    normalizeIdentity kernel = .ok kernel.identity kernel.normalized :=
  faultless.normalizeIdentity_ok_iff.mpr
    ⟨ProcessState.mismatch?_eq_none_iff.mpr ⟨users, groups⟩, rfl, rfl⟩

theorem Faultless.settles {before : Identity} {after : Kernel}
    (h : normalizeIdentity kernel = .ok before after) : kernel.Settles before after := by
  obtain ⟨agree, seen, rfl⟩ := faultless.normalizeIdentity_ok_iff.mp h
  obtain ⟨users, groups⟩ := ProcessState.mismatch?_eq_none_iff.mp agree
  have uid : kernel.normalized.process.uid = .all kernel.process.uid.effective :=
    kernel.process.uid.normalized_eq_all_iff.mpr users
  have gid : kernel.normalized.process.gid = .all kernel.process.gid.effective :=
    kernel.process.gid.normalized_eq_all_iff.mpr groups
  have again := faultless.normalized.normalizeIdentity_recalling
    kernel.process.normalized_normalized kernel.normalized.trace
  have agreeAgain : kernel.normalized.process.mismatch? = none :=
    kernel.process.mismatch?_normalized.trans agree
  rw [agreeAgain] at again
  refine ⟨seen, uid, gid, Identity.isSplit_eq_false_iff.mpr ⟨?_, ?_⟩, again⟩
  · show kernel.normalized.process.uid.real = kernel.normalized.process.uid.effective
    rw [uid]
    rfl
  · show kernel.normalized.process.gid.real = kernel.normalized.process.gid.effective
    rw [gid]
    rfl

/-- Where the real and the effective ids are the same, the saved ones still are replaced. -/
theorem Faultless.replaces_saved {uid gid savedUid savedGid : Id} (huid : uid ≠ noId)
    (hgid : gid ≠ noId) (users : kernel.process.uid = ⟨uid, uid, savedUid⟩)
    (groups : kernel.process.gid = ⟨gid, gid, savedGid⟩) :
    kernel.identity.isSplit = false ∧ ∃ after,
      normalizeIdentity kernel = .ok kernel.identity after ∧
        after.process.uid.saved = uid ∧ after.process.gid.saved = gid := by
  have normal : normalizeIdentity kernel = .ok kernel.identity kernel.normalized :=
    faultless.normalizes (by rw [users]; exact Or.inl huid) (by rw [groups]; exact Or.inl hgid)
  have settles := faultless.settles normal
  refine ⟨?_, _, normal, ?_, ?_⟩
  · rw [Identity.isSplit_eq_false_iff, identity, users, groups]
    exact ⟨rfl, rfl⟩
  · rw [settles.uid, users]
    rfl
  · rw [settles.gid, groups]
    rfl

end

/-- On a kernel without faults a normalization succeeds exactly if both kinds of ids can be
settled. It has settled them for good then, the saved ids included, even where the identity
gave no sign of those. Where a kind cannot be settled it says which, the users first, and quotes
what was read back. -/
theorem settles_iff_settleable (kernel : Kernel) (faultless : kernel.faults = []) :
    ((∃ before after, normalizeIdentity kernel = .ok before after) ↔
        kernel.process.uid.Settleable ∧ kernel.process.gid.Settleable) ∧
      (∀ before after, normalizeIdentity kernel = .ok before after →
        kernel.Settles before after) ∧
      (¬ kernel.process.uid.Settleable → ∃ after, normalizeIdentity kernel
        = .error (.idsDiffer (kernel.process.uid.differenceText "uids"
            kernel.process.uid.effective)) after) ∧
      (kernel.process.uid.Settleable → ¬ kernel.process.gid.Settleable →
        ∃ after, normalizeIdentity kernel
          = .error (.idsDiffer (kernel.process.gid.differenceText "gids"
              kernel.process.gid.effective)) after) ∧
      ∀ uid gid savedUid savedGid, uid ≠ noId → gid ≠ noId →
        kernel.process.uid = ⟨uid, uid, savedUid⟩ → kernel.process.gid = ⟨gid, gid, savedGid⟩ →
          kernel.identity.isSplit = false ∧ ∃ after,
            normalizeIdentity kernel = .ok kernel.identity after ∧
              after.process.uid.saved = uid ∧ after.process.gid.saved = gid := by
  have kept : kernel.Faultless := faultless
  refine ⟨⟨?_, ?_⟩, fun before after h => kept.settles h, ?_, ?_, ?_⟩
  · rintro ⟨before, after, h⟩
    exact ProcessState.mismatch?_eq_none_iff.mp (kept.normalizeIdentity_ok_iff.mp h).1
  · rintro ⟨users, groups⟩
    exact ⟨_, _, kept.normalizes users groups⟩
  · intro users
    exact ⟨_, kept.normalizeIdentity_error_iff.mpr
      ⟨ProcessState.mismatch?_of_users users, rfl⟩⟩
  · intro users groups
    exact ⟨_, kept.normalizeIdentity_error_iff.mpr
      ⟨ProcessState.mismatch?_of_groups users groups, rfl⟩⟩
  · intro uid gid savedUid savedGid huid hgid users groups
    exact kept.replaces_saved huid hgid users groups

/-- A process of the superuser that has kept the ids of its caller aside. -/
def savedCaller : Kernel :=
  Kernel.initial.configure { uid := some ⟨0, 0, 1000⟩, gid := some ⟨48, 48, 100⟩ }

/-- The same process with effective ids that are none. -/
def withoutIds : Kernel :=
  savedCaller.configure { uid := some ⟨1000, noId, 0⟩, gid := some ⟨100, noId, 48⟩ }

/-- And with the user ids of the superuser alone. -/
def withoutGroupId : Kernel :=
  withoutIds.configure { uid := some (.all 0) }

/-- The identity of the first process does not look split, and yet a normalization takes the ids
of the caller away from it. It fails for the two others, for one of them on account of the users
and for the other on account of the groups. -/
theorem settles_iff_settleable_savedCaller :
    (savedCaller.faults = [] ∧ savedCaller.identity.isSplit = false ∧ ∃ after,
      normalizeIdentity savedCaller = .ok ⟨0, 0, 48, 48⟩ after ∧
        after.process.uid = .all 0 ∧ after.process.gid = .all 48) ∧
    (withoutIds.faults = [] ∧ ∃ after, normalizeIdentity withoutIds
      = .error (.idsDiffer "uids are 1000/4294967295/0, wanted 4294967295") after) ∧
    withoutGroupId.faults = [] ∧ ∃ after, normalizeIdentity withoutGroupId
      = .error (.idsDiffer "gids are 100/4294967295/48, wanted 4294967295") after := by
  obtain ⟨-, settles, -, -, hidden⟩ := settles_iff_settleable savedCaller rfl
  obtain ⟨-, -, users, -, -⟩ := settles_iff_settleable withoutIds rfl
  obtain ⟨-, -, -, groups, -⟩ := settles_iff_settleable withoutGroupId rfl
  obtain ⟨unsplit, after, normal, -, -⟩ :=
    hidden 0 48 1000 100 (by decide) (by decide) rfl rfl
  have settled := settles _ _ normal
  have uids : withoutIds.process.uid.differenceText "uids" withoutIds.process.uid.effective
      = "uids are 1000/4294967295/0, wanted 4294967295" := by decide +kernel
  have gids : withoutGroupId.process.gid.differenceText "gids"
        withoutGroupId.process.gid.effective
      = "gids are 100/4294967295/48, wanted 4294967295" := by decide +kernel
  rw [uids] at users
  rw [gids] at groups
  exact ⟨⟨rfl, unsplit, after, normal, settled.uid, settled.gid⟩, ⟨rfl, users (by decide)⟩, rfl,
    groups (by decide) (by decide)⟩

end Kernel

end GuardedLaunch
