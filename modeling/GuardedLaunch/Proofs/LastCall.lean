import GuardedLaunch.Proofs.Decoding
import GuardedLaunch.Proofs.Narrowing

/-!
# The last call decides

A launch makes its calls in one order and stops somewhere. Wherever that is, the call that
it stops at says what the failure is, what the exit code is and what became of the
process.

- `Kernel.launchCalls`: the calls of a launch that nothing stops.
- `Kernel.afterCalls`: the process after some of them, those that are struck left out.
- `Kernel.Follows`: a kernel that is reached by some calls. One lemma for each call, and
  by induction `Follows.defaulted` for the loop over the signals.
- `Kernel.FailsAt`: for each last call, the failures, the exit codes and what is left of
  the process.
- `Errno.Reads`: how a diagnostic names the cause.
-/

namespace GuardedLaunch

open IdSlots (noId)

/-! ## Causes -/

/-- How an error number is to be read: by the name and the description that are listed for
it or, if there are none, as an unknown one. -/
inductive Errno.Reads (errno : Errno) : String → Prop
  | known {entry : Entry} (listed : entry ∈ known) (same : entry.code = errno.code) :
      Reads errno (entry.name ++ ": " ++ entry.description)
  | unknown (unlisted : ∀ entry ∈ known, entry.code ≠ errno.code) :
      Reads errno "UnknownErrno: Unknown errno"

theorem Errno.reads_text (errno : Errno) : errno.Reads errno.text := by
  rw [text]
  cases hfind : known.find? (·.code = errno.code) with
  | none =>
    refine .unknown fun entry listed same => ?_
    exact List.find?_eq_none.mp hfind entry listed (decide_eq_true same)
  | some entry =>
    have hsame := List.find?_some hfind
    exact .known (List.mem_of_find?_eq_some hfind) (of_decide_eq_true hsame)

/-- The error number that a failure explains itself by. -/
def Failure.cause? : Failure → Option Errno
  | idsNotSettled cause _ | signalsNotReset cause _ | notExecuted cause _ => some cause
  | scriptMissing | scriptNotPermitted _ | idsDiffer _ | profileUnusable _ => none

/-- A diagnostic ends with its cause. -/
theorem Failure.message_of_cause? {failure : Failure} {cause : Errno}
    (h : failure.cause? = some cause) :
    ∃ subject, failure.message = subject ++ ": " ++ cause.text := by
  cases failure with
  | idsNotSettled cause' call =>
    cases Option.some.inj h
    exact ⟨"Invoke could not normalize identity: " ++ call, rfl⟩
  | signalsNotReset cause' call =>
    cases Option.some.inj h
    exact ⟨"Invoke could not reset signal mask: " ++ call, rfl⟩
  | notExecuted cause' subject =>
    cases Option.some.inj h
    exact ⟨"Invoke could not execute " ++ subject, rfl⟩
  | scriptMissing | scriptNotPermitted _ | idsDiffer _ | profileUnusable _ => cases h

/-! ## Calls -/

namespace Syscall

/-- How faults tell a call from others, if they can strike it at all. -/
def service? : Syscall → Option Service
  | setresgid _ => some .setresgid
  | setresuid _ => some .setresuid
  | sigmask _ => some .sigmask
  | signal n => some (.signal n)
  | clearenv | execve _ _ _ => none

/-- A call that sets ids. -/
def SetsIds : Syscall → Prop
  | setresgid _ | setresuid _ => True
  | clearenv | sigmask _ | signal _ | execve _ _ _ => False

end Syscall

namespace Kernel

/-- The calls for the signals: every standard one that can be caught, in ascending
order. -/
def signalCalls : List Syscall :=
  ((List.range' 1 31).filter fun n => n ≠ 9 ∧ n ≠ 19).map .signal

/-- The calls of a launch that nothing stops, in order. -/
def launchCalls (kernel : Kernel) (profile : Profile) (argv : List Bytes) : List Syscall :=
  [.clearenv, .setresgid (.all kernel.process.gid.effective),
      .setresuid (.all kernel.process.uid.effective), .sigmask ∅]
    ++ (signalCalls
    ++ [.execve (utf8 profile.interpreter) (utf8 profile.interpreter :: argv.tail)
          profile.environment.block])

/-- The calls of a launch before those about signals. -/
def idCalls (kernel : Kernel) : List Syscall :=
  [.clearenv, .setresgid (.all kernel.process.gid.effective),
    .setresuid (.all kernel.process.uid.effective)]

theorem signalCalls_eq : signalCalls = (Signal.numbers Signal.resettable).map .signal := by
  decide

/-- The calls of a launch that has come to some signal. -/
def signalsReached (kernel : Kernel) (numbers : List Nat) : List Syscall :=
  kernel.idCalls ++ [.sigmask ∅] ++ numbers.map .signal

section

variable (kernel : Kernel) (profile : Profile) (argv : List Bytes)

theorem launchCalls_eq :
    kernel.launchCalls profile argv
      = kernel.signalsReached (Signal.numbers Signal.resettable)
        ++ [.execve (utf8 profile.interpreter) (utf8 profile.interpreter :: argv.tail)
              profile.environment.block] := by
  rw [launchCalls, signalCalls_eq, signalsReached, List.append_assoc (kernel.idCalls ++ _)]
  rfl

theorem signalsReached_ordered {numbers later : List Nat}
    (order : Signal.numbers Signal.resettable = numbers ++ later) :
    kernel.signalsReached numbers <+: kernel.launchCalls profile argv := by
  have hreached : kernel.signalsReached (numbers ++ later)
      = kernel.signalsReached numbers ++ later.map .signal := by
    rw [signalsReached, List.map_append, ← List.append_assoc]
    rfl
  rw [launchCalls_eq, order, hreached, List.append_assoc]
  exact List.prefix_append ..

end

/-- What the faults decide about a call of a launch that begins now. -/
def strike (kernel : Kernel) (call : Syscall) : Option Fault.Effect :=
  call.service?.bind kernel.verdict

/-- The process after some calls of a launch that begins now. A call that is struck leaves
it as it was. -/
def afterCalls (kernel : Kernel) (calls : List Syscall) : ProcessState :=
  calls.foldl
    (fun process call => if kernel.strike call = none then call.apply process else process)
    kernel.process

theorem afterCalls_concat (kernel : Kernel) (calls : List Syscall) (call : Syscall) :
    kernel.afterCalls (calls ++ [call])
      = if kernel.strike call = none then call.apply (kernel.afterCalls calls)
        else kernel.afterCalls calls := by
  rw [afterCalls, List.foldl_append, List.foldl_cons, List.foldl_nil]
  rfl

/-! ## What calls lead to -/

/-- A kernel that a launch has reached by some calls. -/
structure Follows (start later : Kernel) (calls : List Syscall) : Prop where
  trace : later.trace = start.trace ++ calls
  process : later.process = start.afterCalls calls
  execErrno : later.execErrno = start.execErrno

section

variable {start kernel : Kernel} {calls : List Syscall}

theorem follows_clearenv (start : Kernel) : start.Follows start.clearenv [.clearenv] :=
  ⟨rfl, rfl, rfl⟩

/-- One more call, decided as it is from the start of the launch on. -/
theorem Follows.called (h : start.Follows kernel calls) {service : Service} (call : Syscall)
    (judged : kernel.effect service = start.strike call) :
    start.Follows (kernel.called service call call.apply) (calls ++ [call]) where
  trace := by rw [called_trace, h.trace, List.append_assoc]
  process := by rw [called_process, judged, h.process, afterCalls_concat]
  execErrno := h.execErrno

/-- Being asked about a call that is not recorded leaves no trace. -/
theorem Follows.asked (h : start.Follows kernel calls) (service : Service) :
    start.Follows (kernel.asked service) calls :=
  ⟨h.trace, h.process, h.execErrno⟩

/-- The call at the end changes nothing by itself. -/
theorem Follows.exec (h : start.Follows kernel calls) (handover : Handover) :
    start.Follows (kernel.exec handover).2
      (calls ++ [.execve handover.interpreter handover.argv handover.env.block]) where
  trace := (congrArg (· ++ [_]) h.trace).trans (List.append_assoc ..)
  process := by
    rw [afterCalls_concat]
    exact h.process
  execErrno := h.execErrno

/-- Some signals are given their default action, each as it is decided from the start of
the launch on. -/
theorem Follows.defaulted (h : start.Follows kernel calls) {numbers : List Nat}
    (nodup : numbers.Nodup)
    (judged : ∀ n ∈ numbers,
      Fault.signalVerdict numbers kernel.faults n = start.verdict (.signal n)) :
    start.Follows (kernel.defaulted numbers) (calls ++ numbers.map .signal) := by
  induction numbers generalizing kernel calls with
  | nil =>
    rw [defaulted_nil, List.map_nil, List.append_nil]
    exact h
  | cons n rest ih =>
    obtain ⟨fresh, hrest⟩ := List.nodup_cons.mp nodup
    have hfirst : kernel.effect (.signal n) = start.verdict (.signal n) := by
      rw [← judged n List.mem_cons_self, Fault.signalVerdict_cons_self]
      rfl
    have hnext : start.Follows (kernel.signalDefaulted n) (calls ++ [.signal n]) :=
      h.called (.signal n) hfirst
    rw [defaulted_cons, List.map_cons, List.append_cons]
    refine ih hnext hrest fun m hm => ?_
    have hne : n ≠ m := fun heq => fresh (heq ▸ hm)
    rw [← judged m (List.mem_cons_of_mem _ hm), Fault.signalVerdict_cons_of_ne hne]
    rfl

end

/-! ## Failures -/

section

variable (kernel : Kernel) (profile : Profile) (argv : List Bytes)

/-- How a launch that begins with this kernel can fail where it makes its last call: the
process that is left, the failure and the exit code. -/
inductive FailsAt : Syscall → ProcessState → Failure → Nat → Prop
  | profileUnusable {violation : Violation}
      (broken : profile.violation? = some violation) :
      FailsAt .clearenv { kernel.process with env := [] }
        (.profileUnusable violation.message) 1
  | scriptMissing (short : argv.length < 2) :
      FailsAt .clearenv { kernel.process with env := [] } .scriptMissing 2
  | scriptNotPermitted {candidate : Bytes} (named : argv[1]? = some candidate)
      (forbidden : ¬ profile.Permits candidate) :
      FailsAt .clearenv { kernel.process with env := [] }
        (.scriptNotPermitted (decodeLossy candidate)) 3
  | argumentUnfit {slot : Nat} (nul : FirstNul argv slot) :
      FailsAt .clearenv { kernel.process with env := [] }
        (.notExecuted .invalidArgument s!"argument {slot}") 1
  | groupsNotSet {cause : Errno} (struck : kernel.verdict .setresgid = some (.refuse cause)) :
      FailsAt (.setresgid (.all kernel.process.gid.effective)) { kernel.process with env := [] }
        (.idsNotSettled cause s!"setresgid({kernel.process.gid.effective})") 4
  | usersNotSet {cause : Errno} {uid gid : IdSlots}
      (struck : kernel.verdict .setresuid = some (.refuse cause)) :
      FailsAt (.setresuid (.all kernel.process.uid.effective))
        { kernel.process with uid, gid, env := [] }
        (.idsNotSettled cause s!"setresuid({kernel.process.uid.effective})") 4
  | usersNotRead {cause : Errno} {uid gid : IdSlots}
      (struck : kernel.verdict .getresuid = some (.refuse cause)) :
      FailsAt (.setresuid (.all kernel.process.uid.effective))
        { kernel.process with uid, gid, env := [] } (.idsNotSettled cause "getresuid") 4
  | groupsNotRead {cause : Errno} {uid gid : IdSlots}
      (struck : kernel.verdict .getresgid = some (.refuse cause)) :
      FailsAt (.setresuid (.all kernel.process.uid.effective))
        { kernel.process with uid, gid, env := [] } (.idsNotSettled cause "getresgid") 4
  | usersDiffer {uid gid found : IdSlots}
      (read : found = if kernel.verdict .getresuid = some .feign then .all noId else uid)
      (differ : found ≠ .all kernel.process.uid.effective) :
      FailsAt (.setresuid (.all kernel.process.uid.effective))
        { kernel.process with uid, gid, env := [] }
        (mismatch "uids" found kernel.process.uid.effective) 4
  | groupsDiffer {uid gid found : IdSlots}
      (read : found = if kernel.verdict .getresgid = some .feign then .all noId else gid)
      (differ : found ≠ .all kernel.process.gid.effective) :
      FailsAt (.setresuid (.all kernel.process.uid.effective))
        { kernel.process with uid, gid, env := [] }
        (mismatch "gids" found kernel.process.gid.effective) 4
  | maskNotSet {cause : Errno} {uid gid : IdSlots}
      (struck : kernel.verdict .sigmask = some (.refuse cause)) :
      FailsAt (.sigmask ∅) { kernel.process with uid, gid, env := [] }
        (.signalsNotReset cause "sigprocmask") 1
  | signalNotReset {signal : Signal} {cause : Errno} {process : ProcessState}
      (resettable : signal ∈ Signal.resettable)
      (struck : kernel.verdict (.signal signal.number) = some (.refuse cause)) :
      FailsAt (.signal signal.number) process
        (.signalsNotReset cause ("signal(" ++ signal.name ++ ")")) 1
  | notReplaced {process : ProcessState} :
      FailsAt
        (.execve (utf8 profile.interpreter) (utf8 profile.interpreter :: argv.tail)
          profile.environment.block)
        process (.notExecuted kernel.execErrno profile.interpreter) 1

/-- A launch that began with this kernel has failed: it made some of its calls in order,
with what they lead to, and the last of them says how it failed. -/
structure EndsAfter (earlier : List Syscall) (last : Syscall) (failure : Failure)
    (later : Kernel) : Prop where
  follows : kernel.Follows later (earlier ++ [last])
  ordered : earlier ++ [last] <+: kernel.launchCalls profile argv
  fails : kernel.FailsAt profile argv last later.process failure failure.exitStatus.code

end

section

variable {kernel : Kernel} {profile : Profile} {argv : List Bytes}

/-- The exit code of the identity is the one of a launch that got no further than setting
ids. -/
theorem FailsAt.code_eq_four_iff {last : Syscall} {process : ProcessState} {failure : Failure}
    {code : Nat} (fails : kernel.FailsAt profile argv last process failure code) :
    code = 4 ↔ last.SetsIds := by
  cases fails with
  | profileUnusable | scriptMissing | scriptNotPermitted | argumentUnfit | maskNotSet
  | signalNotReset | notReplaced => simp [Syscall.SetsIds]
  | groupsNotSet | usersNotSet | usersNotRead | groupsNotRead | usersDiffer | groupsDiffer =>
    simp [Syscall.SetsIds]

/-- Such a launch leaves the signal state as it was. -/
theorem FailsAt.signals_kept {last : Syscall} {process : ProcessState} {failure : Failure}
    {code : Nat} (fails : kernel.FailsAt profile argv last process failure code)
    (sets : last.SetsIds) :
    process.ignored = kernel.process.ignored ∧ process.handled = kernel.process.handled ∧
      process.blocked = kernel.process.blocked := by
  cases fails with
  | profileUnusable | scriptMissing | scriptNotPermitted | argumentUnfit | maskNotSet
  | signalNotReset | notReplaced => exact sets.elim
  | groupsNotSet | usersNotSet | usersNotRead | groupsNotRead | usersDiffer | groupsDiffer =>
    exact ⟨rfl, rfl, rfl⟩

/-- No other call comes before one that sets ids. -/
theorem launchCalls_pairwise :
    (kernel.launchCalls profile argv).Pairwise fun earlier later =>
      later.SetsIds → earlier = .clearenv ∨ earlier.SetsIds := by
  -- none of the calls behind the first four sets ids
  have hothers : ∀ call ∈ signalCalls ++ [.execve (utf8 profile.interpreter)
      (utf8 profile.interpreter :: argv.tail) profile.environment.block], ¬ call.SetsIds := by
    intro call hcall sets
    rcases List.mem_append.mp hcall with hcall | hcall
    · obtain ⟨n, -, rfl⟩ := List.mem_map.mp hcall
      exact sets
    · rw [List.mem_singleton.mp hcall] at sets
      exact sets
  rw [launchCalls, List.pairwise_append]
  refine ⟨by simp [Syscall.SetsIds], ?_, ?_⟩
  · exact List.pairwise_of_forall_mem_list fun _ _ next hnext sets =>
      absurd sets (hothers next hnext)
  · exact fun _ _ next hnext sets => absurd sets (hothers next hnext)

/-- A launch whose last call sets ids has made no other calls before it. -/
theorem earlier_of_setsIds {earlier : List Syscall} {last : Syscall}
    (ordered : earlier ++ [last] <+: kernel.launchCalls profile argv)
    (sets : last.SetsIds) : ∀ call ∈ earlier, call = .clearenv ∨ call.SetsIds := by
  have hpairwise := launchCalls_pairwise.sublist ordered.sublist
  obtain ⟨-, -, hbefore⟩ := List.pairwise_append.mp hpairwise
  exact fun call hcall => hbefore call hcall last (List.mem_singleton_self last) sets

/-! ## The checks -/

/-- A launch that fails its checks has thrown the environment away and done no more. -/
theorem endsAfter_clearenv {failure : Failure}
    (fails : kernel.FailsAt profile argv .clearenv { kernel.process with env := [] } failure
      failure.exitStatus.code) :
    kernel.EndsAfter profile argv [] .clearenv failure kernel.clearenv where
  follows := follows_clearenv kernel
  ordered := ⟨_, rfl⟩
  fails := fails

end

/-! ## The ids -/

section

variable (kernel : Kernel)

/-- The groups are set behind the environment. -/
theorem follows_groupsSet :
    kernel.Follows kernel.clearenv.groupsSet
      [.clearenv, .setresgid (.all kernel.process.gid.effective)] := by
  refine (follows_clearenv kernel).called (.setresgid _) ?_
  rw [effect_setresgid, verdict_normalization kernel (by decide)]
  rfl

/-- The users are set behind the groups. -/
theorem follows_usersSet :
    kernel.Follows kernel.clearenv.usersSet kernel.idCalls := by
  refine (follows_groupsSet kernel).called (.setresuid _) ?_
  rw [groupsSet_effect, verdict_normalization kernel (by decide)]
  rfl

/-- Reading the ids back is not recorded. -/
theorem follows_groupsRead :
    kernel.Follows kernel.clearenv.groupsRead kernel.idCalls :=
  ((follows_usersSet kernel).asked .getresuid).asked .getresgid

end

section

variable {kernel : Kernel} {profile : Profile} {argv : List Bytes}

/-- A launch whose normalization fails ends at a call that sets ids. -/
theorem endsAfter_normalization {failure : Failure} {after : Kernel}
    (exit : NormalizationExit kernel.clearenv (.error failure after)) :
    ∃ earlier last, kernel.EndsAfter profile argv earlier last failure after := by
  have hgroups := follows_groupsSet kernel
  have husers := follows_usersSet kernel
  obtain ⟨gid, hgid⟩ := groupsSet_process kernel.clearenv
  obtain ⟨uid, huid⟩ := usersSet_process kernel.clearenv
  have hprocess : kernel.clearenv.usersSet.process
      = { kernel.process with uid, gid, env := [] } := by
    rw [huid, hgid]
    rfl
  -- every call is decided as it is from the start of the launch on
  have hverdict {service : Service} (h : service ∈ normalizationServices) :
      Fault.verdict service normalizationServices kernel.clearenv.faults
        = kernel.verdict service :=
    verdict_normalization kernel h
  cases exit with
  | setGroupsRefused struck =>
    have hkept : kernel.clearenv.groupsSet.process = { kernel.process with env := [] } :=
      if_neg (by rw [struck]; exact Option.some_ne_none _)
    rw [effect_setresgid, hverdict (by decide)] at struck
    exact ⟨[.clearenv], _, hgroups, ⟨_, rfl⟩, hkept ▸ .groupsNotSet struck⟩
  | setUsersRefused groups struck =>
    rw [groupsSet_effect, hverdict (by decide)] at struck
    exact ⟨[.clearenv, _], _, husers, ⟨_, rfl⟩, hprocess ▸ .usersNotSet struck⟩
  | readUsersRefused groups users struck =>
    rw [usersSet_effect, hverdict (by decide)] at struck
    exact ⟨[.clearenv, _], _, husers.asked _, ⟨_, rfl⟩, hprocess ▸ .usersNotRead struck⟩
  | readGroupsRefused groups users readUsers struck =>
    rw [usersRead_effect, hverdict (by decide)] at struck
    exact ⟨[.clearenv, _], _, follows_groupsRead kernel, ⟨_, rfl⟩,
      hprocess ▸ .groupsNotRead struck⟩
  | usersDiffer groups users readUsers readGroups differ =>
    have hread : kernel.clearenv.foundUsers
        = if kernel.verdict .getresuid = some .feign then .all noId else uid := by
      rw [foundUsers, found, usersSet_effect, hverdict (by decide), hprocess]
    exact ⟨[.clearenv, _], _, follows_groupsRead kernel, ⟨_, rfl⟩,
      hprocess ▸ .usersDiffer hread differ⟩
  | groupsDiffer groups users readUsers readGroups uids differ =>
    have hgids : kernel.clearenv.usersRead.process.gid = gid :=
      congrArg ProcessState.gid hprocess
    have hread : kernel.clearenv.foundGroups
        = if kernel.verdict .getresgid = some .feign then .all noId else gid := by
      rw [foundGroups, found, usersRead_effect, hverdict (by decide), hgids]
    exact ⟨[.clearenv, _], _, follows_groupsRead kernel, ⟨_, rfl⟩,
      hprocess ▸ .groupsDiffer hread differ⟩

/-! ## The signals -/

section

variable {settled : Kernel} {before : Identity}
  (identity : normalizeIdentity kernel.clearenv = .ok before settled)

include identity in
/-- The signals are unblocked behind the ids. -/
theorem follows_unblocked :
    kernel.Follows settled.unblocked (kernel.idCalls ++ [.sigmask ∅]) := by
  have hsettled : kernel.Follows settled kernel.idCalls := by
    rw [(normalizeIdentity_ok identity).1]
    exact follows_groupsRead kernel
  refine hsettled.called (.sigmask ∅) ?_
  rw [← resetVerdict_sigmask, verdict_reset identity (by decide)]
  rfl

include identity in
/-- Some signals, the first ones in order, are given their default action behind that. -/
theorem follows_signals {numbers later : List Nat}
    (order : Signal.numbers Signal.resettable = numbers ++ later) :
    kernel.Follows (settled.unblocked.defaulted numbers)
      (kernel.signalsReached numbers) := by
  have nodup := resettable_nodup
  rw [order] at nodup
  refine (follows_unblocked identity).defaulted (List.nodup_append.mp nodup).1 fun n hn => ?_
  rw [← verdict_reset identity (signal_not_mem_normalizationServices n), resetVerdict_signal,
    order, Fault.signalVerdict_append hn]

include identity in
/-- A launch whose signal reset fails ends at the call that failed. -/
theorem endsAfter_reset {failure : Failure} {after : Kernel}
    (exit : ResetExit settled (.error failure after)) :
    ∃ earlier last, kernel.EndsAfter profile argv earlier last failure after := by
  obtain ⟨uid, gid, hprocess⟩ := normalization_process (normalization_exit identity)
  cases exit with
  | maskRefused struck =>
    have hkept : settled.unblocked.process = { kernel.process with uid, gid, env := [] } := by
      rw [unblocked, called_process, struck, if_neg (Option.some_ne_none _)]
      exact hprocess
    rw [← resetVerdict_sigmask, verdict_reset identity (by decide)] at struck
    exact ⟨kernel.idCalls, _, follows_unblocked identity, ⟨_, rfl⟩,
      hkept ▸ .maskNotSet struck⟩
  | looped mask loop =>
    cases loop with
    | @refused front later signal cause order answered struck =>
      have hnumbers : Signal.numbers Signal.resettable
          = Signal.numbers (front ++ [signal]) ++ Signal.numbers later := by
        rw [order, List.append_cons]
        exact List.map_append ..
      have hlast : kernel.signalsReached (Signal.numbers (front ++ [signal]))
          = kernel.signalsReached (Signal.numbers front) ++ [.signal signal.number] := by
        rw [signalsReached, Signal.numbers, List.map_append, List.map_append, ← List.append_assoc]
        rfl
      have hfollows := follows_signals identity hnumbers
      have hordered := signalsReached_ordered kernel profile argv hnumbers
      rw [hlast] at hfollows hordered
      rw [← resetVerdict_signal,
        verdict_reset identity (signal_not_mem_normalizationServices _)] at struck
      have hmem : signal ∈ Signal.resettable := by
        rw [order]
        exact List.mem_append_right _ List.mem_cons_self
      exact ⟨_, _, hfollows, hordered, .signalNotReset hmem struck⟩

include identity in
/-- A launch that comes to its end ends at the call for the interpreter. -/
theorem endsAfter_exec {clean : Kernel} (signals : resetSignals settled = .ok () clean) :
    ∃ earlier last, kernel.EndsAfter profile argv earlier last
      (clean.exec (profile.prepared profile.environment argv)).1
      (clean.exec (profile.prepared profile.environment argv)).2 := by
  have horder : Signal.numbers Signal.resettable = Signal.numbers Signal.resettable ++ [] :=
    (List.append_nil _).symm
  have hclean : kernel.Follows clean
      (kernel.signalsReached (Signal.numbers Signal.resettable)) := by
    rw [(resetSignals_ok signals).1]
    exact follows_signals identity horder
  have hfailure : (clean.exec (profile.prepared profile.environment argv)).1
      = .notExecuted kernel.execErrno profile.interpreter := by
    show Failure.notExecuted clean.execErrno (decodeLossy (utf8 profile.interpreter)) = _
    rw [hclean.execErrno, decodeLossy_utf8]
  have hordered : kernel.signalsReached (Signal.numbers Signal.resettable)
      ++ [.execve (utf8 profile.interpreter) (utf8 profile.interpreter :: argv.tail)
            profile.environment.block] <+: kernel.launchCalls profile argv :=
    ⟨[], by rw [List.append_nil, launchCalls_eq]⟩
  rw [hfailure]
  exact ⟨_, _, hclean.exec (profile.prepared profile.environment argv), hordered, .notReplaced⟩

end

end

/-! ## Every launch -/

/-- Every launch on a kernel has made a last call, and it has failed in one of the ways in
which a launch can fail there. -/
theorem endsAfter_run {requests : List Request} {outcome : Outcome Kernel}
    (exit : RunExit host profile argv kernel requests outcome) :
    ∃ earlier last,
      kernel.EndsAfter profile argv earlier last outcome.failure outcome.state := by
  cases exit with
  | unusable invalid =>
    obtain ⟨violation, broken, rfl⟩ := Profile.validate_error_iff.mp invalid
    exact ⟨_, _, endsAfter_clearenv (.profileUnusable broken)⟩
  | launched valid exit =>
    cases exit with
    | refused gate =>
      rcases Profile.authorize_error_iff.mp gate with
        ⟨short, rfl⟩ | ⟨candidate, named, forbidden, rfl⟩
      · exact ⟨_, _, endsAfter_clearenv (.scriptMissing short)⟩
      · exact ⟨_, _, endsAfter_clearenv (.scriptNotPermitted named forbidden)⟩
    | unprepared script gate =>
      -- the interpreter has been validated, so an argument is to blame
      have hinterpreter := Profile.interpreter_of_validate valid
      obtain ⟨slot, nul, rfl⟩ := (Profile.handover_error_iff hinterpreter).mp gate
      exact ⟨_, _, endsAfter_clearenv (.argumentUnfit nul)⟩
    | identityKept script prepared identity =>
      exact endsAfter_normalization (normalization_exit identity)
    | signalsKept script prepared identity signals =>
      exact endsAfter_reset identity (reset_exit signals)
    | executed script prepared identity signals =>
      obtain ⟨-, -, rfl⟩ := Profile.handover_ok_iff.mp prepared
      exact endsAfter_exec identity signals

/-- Wherever a launch on a kernel stops, its last call says how it failed, with which exit
code, and what became of the process. Only a launch that stopped at setting the ids ends
with the exit code of the identity, and then no call about signals has been made. A cause
is named as it is listed, or as an unknown one. -/
theorem last_call_decides (profile : Profile) (argv : List Bytes) (kernel : Kernel) :
    ∃ earlier last,
      kernel.EndsAfter profile argv earlier last (run host profile argv kernel).failure
          (run host profile argv kernel).state ∧
        ((run host profile argv kernel).failure.exitStatus.code = 4 ↔ last.SetsIds) ∧
        (last.SetsIds →
          (∀ call ∈ earlier, call = .clearenv ∨ call.SetsIds) ∧
          (run host profile argv kernel).state.process.ignored = kernel.process.ignored ∧
          (run host profile argv kernel).state.process.handled = kernel.process.handled ∧
          (run host profile argv kernel).state.process.blocked = kernel.process.blocked) ∧
        ∀ cause, (run host profile argv kernel).failure.cause? = some cause →
          cause.Reads cause.text ∧ ∃ subject,
            (run host profile argv kernel).failure.message = subject ++ ": " ++ cause.text := by
  obtain ⟨requests, exit⟩ := run_exit host profile argv kernel
  obtain ⟨earlier, last, ends⟩ := endsAfter_run exit
  refine ⟨earlier, last, ends, ends.fails.code_eq_four_iff, ?_, ?_⟩
  · intro sets
    exact ⟨earlier_of_setsIds ends.ordered sets, ends.fails.signals_kept sets⟩
  · intro cause hcause
    exact ⟨cause.reads_text, Failure.message_of_cause? hcause⟩

end Kernel

end GuardedLaunch
