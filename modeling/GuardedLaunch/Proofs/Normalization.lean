import GuardedLaunch.Kernel.Identity
import GuardedLaunch.Proofs.SystemCall

/-!
# How a normalization ends

A normalization makes four calls and two comparisons, and each of the six may end it.
The kernel before each call is the same however the calls before it were answered, so
the endings are listed over a fixed chain of kernels.

- `Kernel.groupsSet`, `usersSet`, `usersRead`, `groupsRead`: the chain, one kernel for
  each call.
- `Kernel.NormalizationExit`, `normalization_exit`: the seven endings, and that there
  is no other. Whatever is claimed of a normalization is a case analysis over them.
- `IdSlots.differenceText`, `mismatch_eq`: how a comparison that fails is told.
- `uid_of_normalizeIdentity`, `gid_of_normalizeIdentity`: after a success the ids are
  the effective ones, except where the effective id is no id and its reading was feigned.
-/

namespace GuardedLaunch

open IdSlots (noId)

/-- The words for slots that were found where one id was wanted in all of them: what kind of ids
they are, the three ids one by one, and the id that was wanted. -/
def IdSlots.differenceText (found : IdSlots) (kind : String) (wanted : Id) : String :=
  kind ++ " are " ++ toString found.real ++ "/" ++ toString found.effective ++ "/"
    ++ toString found.saved ++ ", wanted " ++ toString wanted

namespace Kernel

/-- A comparison that fails is reported in these words. -/
theorem mismatch_eq (kind : String) (found : IdSlots) (wanted : Id) :
    mismatch kind found wanted = .idsDiffer (found.differenceText kind wanted) := rfl

/-! ## The chain of kernels -/

/-- The kernel after the group ids have been set to the effective one. -/
def groupsSet (kernel : Kernel) : Kernel :=
  let ids := IdSlots.all kernel.process.gid.effective
  kernel.called .setresgid (.setresgid ids) fun process =>
    { process with gid := process.gid.assign ids }

/-- The kernel after the user ids have been set to the effective one, too. -/
def usersSet (kernel : Kernel) : Kernel :=
  let ids := IdSlots.all kernel.process.uid.effective
  kernel.groupsSet.called .setresuid (.setresuid ids) fun process =>
    { process with uid := process.uid.assign ids }

/-- The kernel after the user ids have been read back. -/
def usersRead (kernel : Kernel) : Kernel :=
  kernel.usersSet.asked .getresuid

/-- The kernel after the group ids have been read back, too. -/
def groupsRead (kernel : Kernel) : Kernel :=
  kernel.usersRead.asked .getresgid

/-- The user ids as they are read back. -/
def foundUsers (kernel : Kernel) : IdSlots :=
  kernel.usersSet.found .getresuid (.all noId) ProcessState.uid

/-- The group ids as they are read back. -/
def foundGroups (kernel : Kernel) : IdSlots :=
  kernel.usersRead.found .getresgid (.all noId) ProcessState.gid

/-- The calls of a normalization, in order. -/
def normalizationServices : List Service :=
  [.setresgid, .setresuid, .getresuid, .getresgid]

theorem signal_not_mem_normalizationServices (n : Nat) :
    Service.signal n ∉ normalizationServices := by
  simp [normalizationServices]

theorem groupsRead_faults (kernel : Kernel) :
    kernel.groupsRead.faults = Fault.askAll normalizationServices kernel.faults := rfl

/-- Setting the group ids touches nothing else. -/
theorem groupsSet_process (kernel : Kernel) :
    ∃ gid, kernel.groupsSet.process = { kernel.process with gid } := by
  by_cases h : kernel.effect .setresgid = none
  · exact ⟨_, if_pos h⟩
  · exact ⟨kernel.process.gid, if_neg h⟩

/-- Setting the user ids touches nothing else. -/
theorem usersSet_process (kernel : Kernel) :
    ∃ uid, kernel.usersSet.process = { kernel.groupsSet.process with uid } := by
  by_cases h : kernel.groupsSet.effect .setresuid = none
  · exact ⟨_, if_pos h⟩
  · exact ⟨kernel.groupsSet.process.uid, if_neg h⟩

/-! ## The endings -/

/-- How a normalization ends: one case for each call that may be refused, one for each
comparison that may fail, and success. Each case holds what was passed before it. -/
inductive NormalizationExit (kernel : Kernel) :
    EStateM.Result Failure Kernel Identity → Prop
  | setGroupsRefused {cause : Errno}
      (struck : kernel.effect .setresgid = some (.refuse cause)) :
      NormalizationExit kernel
        (.error (.idsNotSettled cause s!"setresgid({kernel.process.gid.effective})")
          kernel.groupsSet)
  | setUsersRefused {cause : Errno} (groups : kernel.Answers .setresgid)
      (struck : kernel.groupsSet.effect .setresuid = some (.refuse cause)) :
      NormalizationExit kernel
        (.error (.idsNotSettled cause s!"setresuid({kernel.process.uid.effective})")
          kernel.usersSet)
  | readUsersRefused {cause : Errno} (groups : kernel.Answers .setresgid)
      (users : kernel.groupsSet.Answers .setresuid)
      (struck : kernel.usersSet.effect .getresuid = some (.refuse cause)) :
      NormalizationExit kernel (.error (.idsNotSettled cause "getresuid") kernel.usersRead)
  | readGroupsRefused {cause : Errno} (groups : kernel.Answers .setresgid)
      (users : kernel.groupsSet.Answers .setresuid)
      (readUsers : kernel.usersSet.Answers .getresuid)
      (struck : kernel.usersRead.effect .getresgid = some (.refuse cause)) :
      NormalizationExit kernel (.error (.idsNotSettled cause "getresgid") kernel.groupsRead)
  | usersDiffer (groups : kernel.Answers .setresgid)
      (users : kernel.groupsSet.Answers .setresuid)
      (readUsers : kernel.usersSet.Answers .getresuid)
      (readGroups : kernel.usersRead.Answers .getresgid)
      (differ : kernel.foundUsers ≠ .all kernel.process.uid.effective) :
      NormalizationExit kernel
        (.error (mismatch "uids" kernel.foundUsers kernel.process.uid.effective)
          kernel.groupsRead)
  | groupsDiffer (groups : kernel.Answers .setresgid)
      (users : kernel.groupsSet.Answers .setresuid)
      (readUsers : kernel.usersSet.Answers .getresuid)
      (readGroups : kernel.usersRead.Answers .getresgid)
      (uids : kernel.foundUsers = .all kernel.process.uid.effective)
      (differ : kernel.foundGroups ≠ .all kernel.process.gid.effective) :
      NormalizationExit kernel
        (.error (mismatch "gids" kernel.foundGroups kernel.process.gid.effective)
          kernel.groupsRead)
  | settled (groups : kernel.Answers .setresgid)
      (users : kernel.groupsSet.Answers .setresuid)
      (readUsers : kernel.usersSet.Answers .getresuid)
      (readGroups : kernel.usersRead.Answers .getresgid)
      (uids : kernel.foundUsers = .all kernel.process.uid.effective)
      (gids : kernel.foundGroups = .all kernel.process.gid.effective) :
      NormalizationExit kernel (.ok kernel.identity kernel.groupsRead)

/-- A normalization is its assignments, then its comparisons. -/
theorem normalizeIdentity_apply (kernel : Kernel) :
    normalizeIdentity kernel
      = (assignIds kernel.process.uid.effective kernel.process.gid.effective >>= fun _ =>
          confirmIds kernel.process.uid.effective kernel.process.gid.effective >>= fun _ =>
            pure kernel.identity) kernel := rfl

/-- The comparisons, once both readings have been answered. -/
theorem confirmIds_of_answers {kernel : Kernel} (uid gid : Id)
    (readUsers : kernel.usersSet.Answers .getresuid)
    (readGroups : kernel.usersRead.Answers .getresgid) :
    confirmIds uid gid kernel.usersSet
      = if kernel.foundUsers ≠ .all uid then
          .error (mismatch "uids" kernel.foundUsers uid) kernel.groupsRead
        else if kernel.foundGroups ≠ .all gid then
          .error (mismatch "gids" kernel.foundGroups gid) kernel.groupsRead
        else .ok () kernel.groupsRead := by
  have husers : getresuid kernel.usersSet = .ok kernel.foundUsers kernel.usersRead :=
    reading_of_answers _ _ readUsers
  have hgroups : getresgid kernel.usersRead = .ok kernel.foundGroups kernel.groupsRead :=
    reading_of_answers _ _ readGroups
  rw [confirmIds, bind_of_ok (adaptExcept_of_ok _ husers),
    bind_of_ok (adaptExcept_of_ok _ hgroups)]
  by_cases hu : kernel.foundUsers = .all uid
  · by_cases hg : kernel.foundGroups = .all gid
    · rw [if_neg (not_not_intro hu), if_neg (not_not_intro hu), if_neg (not_not_intro hg),
        if_neg (not_not_intro hg)]
      rfl
    · rw [if_neg (not_not_intro hu), if_neg (not_not_intro hu), if_pos hg, if_pos hg]
      rfl
  · rw [if_pos hu, if_pos hu]
    rfl

/-- Every normalization ends in one of these ways. -/
theorem normalization_exit {kernel : Kernel} {result : EStateM.Result Failure Kernel Identity}
    (h : normalizeIdentity kernel = result) : NormalizationExit kernel result := by
  rw [← h, normalizeIdentity_apply]
  -- one call after another is refused or answered; the comparisons come last
  rcases refuses_or_answers kernel .setresgid with ⟨cause, struck⟩ | groups
  · have hgroups : setresgid (.all kernel.process.gid.effective) kernel
        = .error cause kernel.groupsSet := changing_of_refuse _ _ struck
    rw [assignIds, bind_of_error (bind_of_error (adaptExcept_of_error _ hgroups))]
    exact .setGroupsRefused struck
  have hgroups : setresgid (.all kernel.process.gid.effective) kernel
      = .ok () kernel.groupsSet := changing_of_answers _ _ groups
  rcases refuses_or_answers kernel.groupsSet .setresuid with ⟨cause, struck⟩ | users
  · have husers : setresuid (.all kernel.process.uid.effective) kernel.groupsSet
        = .error cause kernel.usersSet := changing_of_refuse _ _ struck
    rw [assignIds, bind_of_error ((bind_of_ok (adaptExcept_of_ok _ hgroups)).trans
      (adaptExcept_of_error _ husers))]
    exact .setUsersRefused groups struck
  have husers : setresuid (.all kernel.process.uid.effective) kernel.groupsSet
      = .ok () kernel.usersSet := changing_of_answers _ _ users
  rw [assignIds, bind_of_ok ((bind_of_ok (adaptExcept_of_ok _ hgroups)).trans
    (adaptExcept_of_ok _ husers))]
  rcases refuses_or_answers kernel.usersSet .getresuid with ⟨cause, struck⟩ | readUsers
  · have hread : getresuid kernel.usersSet = .error cause kernel.usersRead :=
      reading_of_refuse _ _ struck
    rw [confirmIds, bind_of_error (bind_of_error (adaptExcept_of_error _ hread))]
    exact .readUsersRefused groups users struck
  rcases refuses_or_answers kernel.usersRead .getresgid with ⟨cause, struck⟩ | readGroups
  · have huids : getresuid kernel.usersSet = .ok kernel.foundUsers kernel.usersRead :=
      reading_of_answers _ _ readUsers
    have hread : getresgid kernel.usersRead = .error cause kernel.groupsRead :=
      reading_of_refuse _ _ struck
    rw [confirmIds, bind_of_error ((bind_of_ok (adaptExcept_of_ok _ huids)).trans
      (bind_of_error (adaptExcept_of_error _ hread)))]
    exact .readGroupsRefused groups users readUsers struck
  have hconfirm := confirmIds_of_answers kernel.process.uid.effective
    kernel.process.gid.effective readUsers readGroups
  by_cases uids : kernel.foundUsers = .all kernel.process.uid.effective
  · rw [if_neg (not_not_intro uids)] at hconfirm
    by_cases gids : kernel.foundGroups = .all kernel.process.gid.effective
    · rw [if_neg (not_not_intro gids)] at hconfirm
      rw [bind_of_ok hconfirm]
      exact .settled groups users readUsers readGroups uids gids
    · rw [if_pos gids] at hconfirm
      rw [bind_of_error hconfirm]
      exact .groupsDiffer groups users readUsers readGroups uids gids
  · rw [if_pos uids] at hconfirm
    rw [bind_of_error hconfirm]
    exact .usersDiffer groups users readUsers readGroups uids

/-! ## What every ending keeps -/

/-- A normalization changes ids and nothing else, however it ends. -/
theorem normalization_process {kernel : Kernel}
    {result : EStateM.Result Failure Kernel Identity}
    (exit : NormalizationExit kernel result) :
    ∃ uid gid, (left result).process = { kernel.process with uid, gid } := by
  obtain ⟨gid, hgroups⟩ := groupsSet_process kernel
  obtain ⟨uid, husers⟩ := usersSet_process kernel
  rw [hgroups] at husers
  cases exit with
  | setGroupsRefused => exact ⟨kernel.process.uid, gid, hgroups⟩
  | setUsersRefused => exact ⟨uid, gid, husers⟩
  | readUsersRefused => exact ⟨uid, gid, husers⟩
  | readGroupsRefused => exact ⟨uid, gid, husers⟩
  | usersDiffer => exact ⟨uid, gid, husers⟩
  | groupsDiffer => exact ⟨uid, gid, husers⟩
  | settled => exact ⟨uid, gid, husers⟩

/-- A normalization makes the call for the groups and, unless that ends it, the one for
the users. -/
theorem normalization_trace {kernel : Kernel}
    {result : EStateM.Result Failure Kernel Identity}
    (exit : NormalizationExit kernel result) :
    (left result).trace
        = kernel.trace ++ [.setresgid (.all kernel.process.gid.effective)] ∨
      (left result).trace
        = kernel.trace ++ [.setresgid (.all kernel.process.gid.effective),
            .setresuid (.all kernel.process.uid.effective)] := by
  have husers : kernel.usersSet.trace
      = kernel.trace ++ [.setresgid (.all kernel.process.gid.effective),
          .setresuid (.all kernel.process.uid.effective)] := by
    rw [usersSet, called_trace, groupsSet, called_trace, List.append_assoc]
    rfl
  cases exit with
  | setGroupsRefused => exact Or.inl rfl
  | setUsersRefused => exact Or.inr husers
  | readUsersRefused => exact Or.inr husers
  | readGroupsRefused => exact Or.inr husers
  | usersDiffer => exact Or.inr husers
  | groupsDiffer => exact Or.inr husers
  | settled => exact Or.inr husers

/-! ## Success -/

/-- A normalization that succeeded went through its whole chain, and both readings
agreed with what was set. -/
theorem normalizeIdentity_ok {kernel after : Kernel} {before : Identity}
    (h : normalizeIdentity kernel = .ok before after) :
    after = kernel.groupsRead ∧ kernel.foundUsers = .all kernel.process.uid.effective ∧
      kernel.foundGroups = .all kernel.process.gid.effective := by
  cases normalization_exit h with
  | settled groups users readUsers readGroups uids gids => exact ⟨rfl, uids, gids⟩

/-- Slots that were read as they are hold what the reading said. A feigned reading can
only be taken for the id that is none. -/
theorem read_of_found {kernel : Kernel} {service : Service} {read : ProcessState → IdSlots}
    {id : Id} (found : kernel.found service (.all noId) read = .all id)
    (trusted : id ≠ noId ∨ kernel.effect service ≠ some .feign) :
    read kernel.process = .all id := by
  -- a feigned reading leaves every slot at the number that is no id
  by_cases h : kernel.effect service = some .feign
  · rw [Kernel.found, if_pos h] at found
    have hid : noId = id := congrArg IdSlots.real found
    rcases trusted with hne | hne
    · exact absurd hid.symm hne
    · exact absurd h hne
  · rwa [Kernel.found, if_neg h] at found

/-- The decision about setting the groups, from the faults at the start. -/
theorem effect_setresgid (kernel : Kernel) :
    kernel.effect .setresgid
      = Fault.verdict .setresgid normalizationServices kernel.faults :=
  (Fault.verdict_cons_self ..).symm

/-- The decision about setting the users, from the faults at the start. -/
theorem groupsSet_effect (kernel : Kernel) :
    kernel.groupsSet.effect .setresuid
      = Fault.verdict .setresuid normalizationServices kernel.faults := by
  have fresh : Service.setresuid ∉ [Service.setresgid] := by decide
  exact (Fault.verdict_split fresh [.getresuid, .getresgid] kernel.faults).symm

/-- The decision about reading the users, from the faults at the start. -/
theorem usersSet_effect (kernel : Kernel) :
    kernel.usersSet.effect .getresuid
      = Fault.verdict .getresuid normalizationServices kernel.faults := by
  have fresh : Service.getresuid ∉ [Service.setresgid, .setresuid] := by decide
  exact (Fault.verdict_split fresh [.getresgid] kernel.faults).symm

/-- The decision about reading the groups, from the faults at the start. -/
theorem usersRead_effect (kernel : Kernel) :
    kernel.usersRead.effect .getresgid
      = Fault.verdict .getresgid normalizationServices kernel.faults := by
  have fresh : Service.getresgid ∉ [Service.setresgid, .setresuid, .getresuid] := by decide
  exact (Fault.verdict_split fresh [] kernel.faults).symm

/-- After a success the user ids are the effective one, unless that is no id and its
reading was feigned. -/
theorem uid_of_normalizeIdentity {kernel after : Kernel} {before : Identity}
    (h : normalizeIdentity kernel = .ok before after)
    (trusted : kernel.process.uid.effective ≠ noId ∨
      Fault.verdict .getresuid normalizationServices kernel.faults ≠ some .feign) :
    after.process.uid = .all kernel.process.uid.effective := by
  obtain ⟨rfl, uids, -⟩ := normalizeIdentity_ok h
  rw [← usersSet_effect] at trusted
  have hread : kernel.usersSet.process.uid = .all kernel.process.uid.effective :=
    read_of_found uids trusted
  exact hread

/-- After a success the group ids are the effective one, unless that is no id and its
reading was feigned. -/
theorem gid_of_normalizeIdentity {kernel after : Kernel} {before : Identity}
    (h : normalizeIdentity kernel = .ok before after)
    (trusted : kernel.process.gid.effective ≠ noId ∨
      Fault.verdict .getresgid normalizationServices kernel.faults ≠ some .feign) :
    after.process.gid = .all kernel.process.gid.effective := by
  obtain ⟨rfl, -, gids⟩ := normalizeIdentity_ok h
  rw [← usersRead_effect] at trusted
  have hread : kernel.usersRead.process.gid = .all kernel.process.gid.effective :=
    read_of_found gids trusted
  exact hread

end Kernel

end GuardedLaunch
