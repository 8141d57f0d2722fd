import Mathlib.Algebra.GroupWithZero.Nat
import GuardedLaunch.Proofs.Builds
import GuardedLaunch.Proofs.Misconfiguration

/-!
# The lines of a diagnostic

A failure is to be reported on one line of the output and on one line of the log. Whatever
is quoted, listed or a number keeps to that, and so does whatever the system answers. Two
texts are written out as they are: a script that is not permitted, and the path of an
interpreter that could not be started. Each line feed in them begins a line that nobody but
the caller, or the author of the profile, has written.

- `lineFeeds`: how many lines end in a text. Texts are added up piece by piece.
- `Kernel.Spills`, `Kernel.spills_of_exit`: what a launch lets into its diagnostic, with one
  case for each of the two texts.
- `Kernel.Contained`: a launch that lets no line feed in.
- `Log.lineFeeds_line`, `Log.lineFeeds_text`: the lines of an event and of a log.
- `Profile.strayLineFeeds`: what the caller of a program can bring in.
-/

namespace GuardedLaunch

/-- The number of lines that end in a text. -/
def lineFeeds (text : String) : Nat :=
  text.toList.count '\n'

theorem lineFeeds_append (front rest : String) :
    lineFeeds (front ++ rest) = lineFeeds front + lineFeeds rest := by
  rw [lineFeeds, String.toList_append, List.count_append]
  rfl

@[simp] theorem lineFeeds_eq_zero_iff {text : String} :
    lineFeeds text = 0 ↔ '\n' ∉ text.toList :=
  List.count_eq_zero

/-- A separator without a line feed adds none. -/
theorem lineFeeds_intercalate {separator : String} (h : lineFeeds separator = 0)
    (texts : List String) :
    lineFeeds (separator.intercalate texts) = (texts.map lineFeeds).sum := by
  rw [lineFeeds, String.toList_intercalate, List.intercalate]
  induction texts with
  | nil => rfl
  | cons text rest ih =>
    cases rest with
    | nil => simp [lineFeeds]
    | cons next rest =>
      have hseparator : separator.toList.count '\n' = 0 := h
      simp only [List.map_cons, List.intersperse_cons_cons, List.flatten_cons, List.count_append,
        List.sum_cons] at ih ⊢
      rw [ih, hseparator, Nat.zero_add]
      rfl

theorem lineFeeds_join (texts : List String) :
    lineFeeds (String.join texts) = (texts.map lineFeeds).sum := by
  rw [lineFeeds, String.toList_join, List.count_flatMap]
  rfl

/-- Texts that are one line each are so together. -/
theorem lineFeeds_sum_eq_zero {texts : List String} (h : ∀ text ∈ texts, '\n' ∉ text.toList) :
    (texts.map lineFeeds).sum = 0 := by
  rw [List.sum_eq_zero_iff_forall_eq_nat]
  intro count hcount
  obtain ⟨text, htext, rfl⟩ := List.mem_map.mp hcount
  exact lineFeeds_eq_zero_iff.mpr (h text htext)

/-! ## Texts on one line -/

theorem newline_not_mem_ofList {cs : List Char} (h : '\n' ∉ cs) :
    '\n' ∉ (String.ofList cs).toList := by
  rwa [String.toList_ofList]

theorem newline_not_mem_of_plain {cs : List Char} (plain : ∀ c ∈ cs, Plain c) : '\n' ∉ cs := by
  intro hmem
  exact absurd (plain _ hmem) (by decide)

theorem newline_not_mem_of_printable {text : String} (printable : Printable text) :
    '\n' ∉ text.toList := by
  intro hmem
  exact absurd (printable _ hmem) (by decide)

@[simp] theorem newline_not_mem_decimal (n : Nat) : '\n' ∉ Nat.toDigits 10 n :=
  newline_not_mem_of_plain (plain_toDigits (by decide) (by decide) n)

@[simp] theorem newline_not_mem_id (id : Id) : '\n' ∉ (toString id).toList :=
  newline_not_mem_of_plain (plain_id id)

/-- The name and the description of a cause are one line. -/
@[simp] theorem Errno.newline_not_mem_text (errno : Errno) : '\n' ∉ errno.text.toList := by
  have hlisted : ∀ entry ∈ known,
      '\n' ∉ entry.name.toList ∧ '\n' ∉ entry.description.toList := by
    rw [known]
    simp only [List.forall_mem_cons, List.not_mem_nil, false_implies, implies_true, and_true]
    -- the characters of the literals are looked at; their bytes would take far longer
    repeat' apply And.intro
    all_goals exact newline_not_mem_ofList (by decide)
  have hreads := errno.reads_text
  generalize errno.text = text at hreads ⊢
  cases hreads with
  | known listed =>
    obtain ⟨hname, hdescription⟩ := hlisted _ listed
    simp [hname, hdescription]
  | unknown => decide

/-- A text that is decoded has the line feeds of its bytes. -/
theorem lineFeeds_decodeLossy (bytes : Bytes) :
    lineFeeds (decodeLossy bytes) = bytes.count 0x0A :=
  count_decodeLossy (by decide) (by decide) bytes

/-! ## Failures -/

namespace Failure

variable (cause : Errno)

theorem lineFeeds_idsNotSettled {call : String} (h : '\n' ∉ call.toList) :
    lineFeeds (idsNotSettled cause call).message = 0 := by
  show lineFeeds ("Invoke could not normalize identity: " ++ call ++ ": " ++ cause.text) = 0
  simp [h]

theorem lineFeeds_signalsNotReset {call : String} (h : '\n' ∉ call.toList) :
    lineFeeds (signalsNotReset cause call).message = 0 := by
  show lineFeeds ("Invoke could not reset signal mask: " ++ call ++ ": " ++ cause.text) = 0
  simp [h]

theorem lineFeeds_notExecuted (subject : String) :
    lineFeeds (notExecuted cause subject).message = lineFeeds subject := by
  have hfront : lineFeeds "Invoke could not execute " = 0 := by simp
  have hback : lineFeeds (": " ++ cause.text) = 0 := by simp
  show lineFeeds ("Invoke could not execute " ++ subject ++ ": " ++ cause.text) = _
  rw [String.append_assoc, lineFeeds_append, lineFeeds_append, hfront, hback, Nat.zero_add,
    Nat.add_zero]

theorem lineFeeds_scriptNotPermitted (script : String) :
    lineFeeds (scriptNotPermitted script).message = lineFeeds script := by
  have hfront : lineFeeds "Invoke called with invalid script: " = 0 := by simp
  show lineFeeds ("Invoke called with invalid script: " ++ script) = _
  rw [lineFeeds_append, hfront, Nat.zero_add]

theorem lineFeeds_mismatch (kind : String) (h : '\n' ∉ kind.toList) (found : IdSlots)
    (wanted : Id) : lineFeeds (Kernel.mismatch kind found wanted).message = 0 := by
  rw [Kernel.mismatch_eq]
  show lineFeeds ("Invoke could not normalize identity: " ++ found.differenceText kind wanted) = 0
  simp [IdSlots.differenceText, h]

end Failure

namespace Kernel

/-- A normalization that fails says so on one line. -/
theorem lineFeeds_normalization {kernel after : Kernel} {failure : Failure}
    (exit : NormalizationExit kernel (.error failure after)) :
    lineFeeds failure.message = 0 := by
  have hcall (front : String) (h : '\n' ∉ front.toList) (id : Id) :
      '\n' ∉ (front ++ toString id ++ ")").toList := by
    simp [h]
  cases exit with
  | setGroupsRefused =>
    exact Failure.lineFeeds_idsNotSettled _ (hcall "setresgid(" (by simp) _)
  | setUsersRefused =>
    exact Failure.lineFeeds_idsNotSettled _ (hcall "setresuid(" (by simp) _)
  | readUsersRefused => exact Failure.lineFeeds_idsNotSettled _ (by simp)
  | readGroupsRefused => exact Failure.lineFeeds_idsNotSettled _ (by simp)
  | usersDiffer => exact Failure.lineFeeds_mismatch "uids" (by simp) _ _
  | groupsDiffer => exact Failure.lineFeeds_mismatch "gids" (by simp) _ _

/-- A signal reset that fails says so on one line. -/
theorem lineFeeds_reset {kernel after : Kernel} {failure : Failure}
    (exit : ResetExit kernel (.error failure after)) : lineFeeds failure.message = 0 := by
  have hnames : ∀ signal ∈ Signal.resettable, '\n' ∉ signal.name.toList := by decide +kernel
  cases exit with
  | maskRefused => exact Failure.lineFeeds_signalsNotReset _ (by simp)
  | looped mask loop =>
    cases loop with
    | @refused before later signal cause order =>
      have hmem : signal ∈ Signal.resettable := by
        rw [order]
        exact List.mem_append_right _ List.mem_cons_self
      have hcall : '\n' ∉ ("signal(" ++ signal.name ++ ")").toList := by
        simp [hnames signal hmem]
      exact Failure.lineFeeds_signalsNotReset cause hcall

/-- What a launch lets into its diagnostic as it is, by the line feeds in it: the script
that was refused, the path of the interpreter that was asked for, or nothing. -/
inductive Spills (kernel : Kernel) (profile : Profile) (argv : List Bytes)
    (outcome : Outcome Kernel) : Nat → Prop
  | script {candidate : Bytes} (valid : profile.validate = .ok ())
      (named : argv[1]? = some candidate) (forbidden : ¬ profile.Permits candidate) :
      Spills kernel profile argv outcome (candidate.count 0x0A)
  | interpreter {path : Bytes} {args env : List Bytes}
      (asked : .execve path args env ∈ outcome.state.callsSince kernel) :
      Spills kernel profile argv outcome (lineFeeds profile.interpreter)
  | nothing
      (permitted : profile.validate = .ok () →
        ∀ candidate, argv[1]? = some candidate → profile.Permits candidate)
      (unasked : ∀ path args env,
        Syscall.execve path args env ∉ outcome.state.callsSince kernel) :
      Spills kernel profile argv outcome 0

section

variable {profile : Profile} {argv : List Bytes} {kernel : Kernel}
  {requests : List Request} {outcome : Outcome Kernel}

/-- Whatever ends a launch, its diagnostic has the line feeds of what it lets in. -/
theorem spills_of_exit (exit : RunExit host profile argv kernel requests outcome) :
    kernel.Spills profile argv outcome (lineFeeds outcome.failure.message) := by
  rcases execFree_or_executed exit with hfree | ⟨settled, clean, executed⟩
  · have unasked := hfree.callsSince
    cases exit with
    | unusable invalid =>
      obtain ⟨violation, broken, rfl⟩ := Profile.validate_error_iff.mp invalid
      have printable := (Profile.safelyReported_of_violation? broken).printable
      rw [lineFeeds_eq_zero_iff.mpr (newline_not_mem_of_printable printable)]
      refine .nothing (fun valid => ?_) unasked
      rw [valid] at invalid
      cases invalid
    | launched valid exit =>
      cases exit with
      | refused gate =>
        rcases Profile.authorize_error_iff.mp gate with
          ⟨short, rfl⟩ | ⟨candidate, named, forbidden, rfl⟩
        · have hmessage : lineFeeds Failure.scriptMissing.message = 0 := by
            show lineFeeds "Invoke called with no arguments" = 0
            simp
          rw [hmessage]
          refine .nothing (fun _ candidate named => ?_) unasked
          rw [List.getElem?_eq_none (Nat.le_of_lt_succ short)] at named
          cases named
        · rw [Failure.lineFeeds_scriptNotPermitted, lineFeeds_decodeLossy]
          exact .script valid named forbidden
      | unprepared script gate =>
        have hinterpreter := Profile.interpreter_of_validate valid
        obtain ⟨slot, -, rfl⟩ := (Profile.handover_error_iff hinterpreter).mp gate
        have hsubject : lineFeeds ("argument " ++ toString slot) = 0 := by simp
        have hmessage : lineFeeds (Profile.argumentFailure slot).message = 0 :=
          (Failure.lineFeeds_notExecuted _ _).trans hsubject
        rw [hmessage]
        exact .nothing (fun _ _ named => Profile.permits_of_authorize script named) unasked
      | identityKept script prepared identity =>
        rw [lineFeeds_normalization (normalization_exit identity)]
        exact .nothing (fun _ _ named => Profile.permits_of_authorize script named) unasked
      | signalsKept script prepared identity signals =>
        rw [lineFeeds_reset (reset_exit signals)]
        exact .nothing (fun _ _ named => Profile.permits_of_authorize script named) unasked
      | executed script prepared identity signals =>
        obtain ⟨-, harguments, rfl⟩ := Profile.handover_ok_iff.mp prepared
        refine (unasked _ _ _
          (Executed.asked ⟨valid, script, harguments, ⟨_, identity⟩, signals, ?_⟩)).elim
        rfl
  · have hfailure : outcome.failure
        = .notExecuted clean.execErrno (decodeLossy (utf8 profile.interpreter)) :=
      congrArg Prod.fst executed.replaced
    rw [hfailure, Failure.lineFeeds_notExecuted, decodeLossy_utf8]
    exact .interpreter executed.asked

/-- Nothing with a line feed in it is let into the diagnostic of a launch: no script that
is refused, and no path of an interpreter that is asked for. -/
structure Contained (kernel : Kernel) (profile : Profile) (argv : List Bytes)
    (outcome : Outcome Kernel) : Prop where
  script : profile.validate = .ok () → ∀ candidate, argv[1]? = some candidate →
    ¬ profile.Permits candidate → 0x0A ∉ candidate
  interpreter : ∀ path args env, .execve path args env ∈ outcome.state.callsSince kernel →
    '\n' ∉ profile.interpreter.toList

/-- The diagnostic of a launch is one line exactly if nothing else is let in. -/
theorem newline_not_mem_message_iff (exit : RunExit host profile argv kernel requests outcome) :
    '\n' ∉ outcome.failure.message.toList ↔ kernel.Contained profile argv outcome := by
  have spills := spills_of_exit exit
  rw [← lineFeeds_eq_zero_iff]
  generalize lineFeeds outcome.failure.message = count at spills ⊢
  -- no script is refused by a launch that has asked for the interpreter
  have hpermits {path : Bytes} {args env : List Bytes}
      (asked : .execve path args env ∈ outcome.state.callsSince kernel) {candidate : Bytes}
      (named : argv[1]? = some candidate) : profile.Permits candidate := by
    obtain ⟨settled, clean, executed⟩ := executed_of_asked exit asked
    exact Profile.permits_of_authorize executed.script named
  cases spills with
  | @script candidate valid named forbidden =>
    rw [List.count_eq_zero]
    constructor
    · intro hclean
      refine ⟨fun _ other hother _ => ?_, fun path args env asked => ?_⟩
      · rw [← Option.some.inj (named.symm.trans hother)]
        exact hclean
      · exact absurd (hpermits asked named) forbidden
    · intro contained
      exact contained.script valid candidate named forbidden
  | interpreter asked =>
    rw [lineFeeds_eq_zero_iff]
    constructor
    · intro hclean
      exact ⟨fun _ candidate named forbidden => absurd (hpermits asked named) forbidden,
        fun _ _ _ _ => hclean⟩
    · intro contained
      exact contained.interpreter _ _ _ asked
  | nothing permitted unasked =>
    refine ⟨fun _ => ⟨fun valid candidate named forbidden => ?_, fun path args env asked => ?_⟩,
      fun _ => rfl⟩
    · exact absurd (permitted valid candidate named) forbidden
    · exact absurd asked (unasked path args env)

end

end Kernel

/-! ## The log -/

namespace Log

/-- No character gains or loses a line feed by the way in which it is written. -/
theorem count_inert (c : Char) : (inert c).count '\n' = [c].count '\n' := by
  rw [inert]
  split
  · next hmem =>
    have hne : c ≠ '\n' := by
      rintro rfl
      exact absurd hmem (by decide)
    rw [List.count_eq_zero.mpr, List.count_eq_zero.mpr]
    · simpa using Ne.symm hne
    · exact newline_not_mem_of_plain (plain_byteEscape c)
  · split
    · next hcontrol =>
      have hne : c ≠ '\n' := by
        rintro rfl
        exact absurd hcontrol.1 (by decide)
      rw [List.count_eq_zero.mpr (newline_not_mem_of_plain (plain_codePointEscape c)),
        List.count_eq_zero.mpr]
      simpa using Ne.symm hne
    · rfl

theorem lineFeeds_inertText (message : String) :
    lineFeeds (inertText message) = lineFeeds message := by
  rw [lineFeeds, inertText, String.toList_ofList, lineFeeds]
  induction message.toList with
  | nil => rfl
  | cons c rest ih =>
    rw [List.flatMap_cons, List.count_append, count_inert, ih, ← List.count_append]
    rfl

/-- Beside the level, only the message brings line feeds into the line of an event. -/
theorem lineFeeds_items (event : Event) :
    ((items event).map lineFeeds).sum = lineFeeds (event.message?.getD "") := by
  obtain ⟨fields, hitems, hfields⟩ : ∃ fields,
      items event = (event.message?.map inertText).toList ++ fields ∧
        ∀ text ∈ fields, '\n' ∉ text.toList := by
    refine ⟨_, rfl, fun text htext => ?_⟩
    obtain ⟨field, hfield, rfl⟩ := List.mem_map.mp htext
    exact newline_not_mem_of_printable (printable_field event hfield)
  have hmessage : ((event.message?.map inertText).toList.map lineFeeds).sum
      = lineFeeds (event.message?.getD "") := by
    cases event.message? with
    | none => rfl
    | some message =>
      show lineFeeds (inertText message) + 0 = lineFeeds message
      rw [Nat.add_zero, lineFeeds_inertText]
  rw [hitems, List.map_append, List.sum_append, hmessage, lineFeeds_sum_eq_zero hfields,
    Nat.add_zero]

/-- An event is one line of the log and as many more as there are line feeds in its
message. -/
theorem lineFeeds_line (event : Event) :
    lineFeeds (line event) = lineFeeds (event.message?.getD "") + 1 := by
  have hspace : lineFeeds " " = 0 := by simp
  have hend : lineFeeds "\n" = 1 := by decide
  have hlevel : lineFeeds (levelColumn event.level) = 0 :=
    lineFeeds_eq_zero_iff.mpr (newline_not_mem_of_plain (plain_levelColumn event.level))
  rw [line, lineFeeds_append, lineFeeds_intercalate hspace, hend, List.map_cons, List.sum_cons,
    hlevel, lineFeeds_items, Nat.zero_add]

/-- The events that are shown from a level on. -/
def shown (least : Level) (events : List Event) : List Event :=
  events.filter (·.level.shownFrom least)

/-- A log has one line for each event that is shown and one for each line feed in their
messages. -/
theorem lineFeeds_text (least : Level) (events : List Event) :
    lineFeeds (text least events)
      = (shown least events).length
        + ((shown least events).map fun event => lineFeeds (event.message?.getD "")).sum := by
  rw [text, lineFeeds_join, List.map_map]
  change ((shown least events).map _).sum = _
  induction shown least events with
  | nil => rfl
  | cons event rest ih =>
    rw [List.map_cons, List.sum_cons, ih, Function.comp_apply, lineFeeds_line, List.map_cons,
      List.sum_cons, List.length_cons]
    omega

/-- Only a refusal has a message. -/
theorem lineFeeds_text_of_quiet (least : Level) {events : List Event}
    (quiet : ∀ event ∈ events, event.message? = none) :
    lineFeeds (text least events) = (shown least events).length := by
  have hsum : ((shown least events).map fun event =>
      lineFeeds (event.message?.getD "")).sum = 0 := by
    rw [List.sum_eq_zero_iff_forall_eq_nat]
    intro count hcount
    obtain ⟨event, hevent, rfl⟩ := List.mem_map.mp hcount
    rw [quiet event (List.mem_filter.mp hevent).1]
    rfl
  rw [lineFeeds_text, hsum, Nat.add_zero]

/-- A refusal is shown in every log. -/
theorem lineFeeds_text_of_refusal (least : Level) (names : List String) (failure : Failure) :
    lineFeeds (text least [.sanitized names, .rejected failure])
      = (shown least [.sanitized names, .rejected failure]).length
        + lineFeeds failure.message := by
  have hfront : lineFeeds "rejected: " = 0 := by simp
  have hmessage : lineFeeds ("rejected: " ++ failure.message) = lineFeeds failure.message := by
    rw [lineFeeds_append, hfront, Nat.zero_add]
  have hsum : ((shown least [.sanitized names, .rejected failure]).map fun event =>
      lineFeeds (event.message?.getD "")).sum = lineFeeds ("rejected: " ++ failure.message) := by
    cases least with
    | debug =>
      have hnone : lineFeeds "" = 0 := by simp
      show lineFeeds "" + (lineFeeds ("rejected: " ++ failure.message) + 0) = _
      rw [hnone, Nat.zero_add, Nat.add_zero]
    | warn =>
      show lineFeeds ("rejected: " ++ failure.message) + 0 = _
      rw [Nat.add_zero]
  rw [lineFeeds_text, hsum, hmessage]

end Log

/-- What a launch has reported: a refusal behind the names of the variables, or nothing that
has a message. -/
theorem RunExit.reported {σ : Type} {host : Host σ} {profile : Profile} {argv : List Bytes}
    {state : σ} {requests : List Request} {outcome : Outcome σ}
    (exit : RunExit host profile argv state requests outcome) :
    (profile.authorize argv = .error outcome.failure ∧
        ∃ names, outcome.events = [.sanitized names, .rejected outcome.failure]) ∨
      ((profile.validate = .ok () → profile.authorize argv = .ok ()) ∧
        ∀ event ∈ outcome.events, event.message? = none) := by
  cases exit with
  | unusable invalid =>
    refine Or.inr ⟨fun valid => ?_, fun event hevent => absurd hevent List.not_mem_nil⟩
    rw [valid] at invalid
    cases invalid
  | launched valid exit =>
    cases exit with
    | refused gate => exact Or.inl ⟨gate, _, rfl⟩
    | unprepared script | identityKept script | signalsKept script | executed script =>
      refine Or.inr ⟨fun _ => script, ?_⟩
      simp [Event.message?]

/-! ## The program -/

/-- The line feeds of what a command line names as its script, if that is refused. -/
def Profile.strayLineFeeds (profile : Profile) (argv : List Bytes) : Nat :=
  match argv[1]? with
  | some candidate => if profile.Permits candidate then 0 else candidate.count 0x0A
  | none => 0

namespace Profile

variable {profile : Profile} {argv : List Bytes}

theorem strayLineFeeds_of_ok (script : profile.authorize argv = .ok ()) :
    profile.strayLineFeeds argv = 0 := by
  obtain ⟨permitted, hpermitted, named⟩ := authorize_ok_iff.mp script
  rw [strayLineFeeds, named]
  exact if_pos ⟨permitted, hpermitted, rfl⟩

/-- They are the line feeds of the diagnostic. -/
theorem strayLineFeeds_of_error {failure : Failure}
    (gate : profile.authorize argv = .error failure) :
    lineFeeds failure.message = profile.strayLineFeeds argv := by
  rcases authorize_error_iff.mp gate with ⟨short, rfl⟩ | ⟨candidate, named, forbidden, rfl⟩
  · rw [strayLineFeeds, List.getElem?_eq_none (Nat.le_of_lt_succ short)]
    show lineFeeds "Invoke called with no arguments" = 0
    simp
  · rw [strayLineFeeds, named, Failure.lineFeeds_scriptNotPermitted, lineFeeds_decodeLossy]
    exact (if_neg forbidden).symm

end Profile

namespace Build

/-- Every build has a usable profile, and the path of its interpreter is one line. -/
theorem profile_fit (build : Build) :
    build.profile.validate = .ok () ∧ '\n' ∉ build.profile.interpreter.toList := by
  refine ⟨build.validate_profile, ?_⟩
  cases build with
  | standard => decide
  | traced => decide

end Build

section

variable {build : Build} {argv : List Bytes} {kernel : Kernel} {requests : List Request}
  {outcome : Outcome Kernel}

/-- The diagnostic of a build has no line feeds but those of a script that it refuses. -/
theorem lineFeeds_message_of_build
    (exit : RunExit Kernel.host build.profile argv kernel requests outcome) :
    lineFeeds outcome.failure.message = build.profile.strayLineFeeds argv := by
  obtain ⟨valid, hinterpreter⟩ := build.profile_fit
  have spills := Kernel.spills_of_exit exit
  generalize lineFeeds outcome.failure.message = count at spills ⊢
  cases spills with
  | script _ named forbidden =>
    rw [Profile.strayLineFeeds, named]
    exact (if_neg forbidden).symm
  | interpreter asked =>
    obtain ⟨settled, clean, executed⟩ := Kernel.executed_of_asked exit asked
    rw [Profile.strayLineFeeds_of_ok executed.script, lineFeeds_eq_zero_iff]
    exact hinterpreter
  | nothing permitted unasked =>
    rw [Profile.strayLineFeeds]
    cases named : argv[1]? with
    | none => rfl
    | some candidate => exact (if_pos (permitted valid candidate named)).symm

/-- And its log has one line for each event that is shown, and theirs. -/
theorem lineFeeds_log_of_build
    (exit : RunExit Kernel.host build.profile argv kernel requests outcome) :
    lineFeeds (Log.text build.leastLevel outcome.events)
      = (Log.shown build.leastLevel outcome.events).length
        + build.profile.strayLineFeeds argv := by
  rcases exit.reported with ⟨gate, names, hevents⟩ | ⟨script, quiet⟩
  · rw [hevents, Log.lineFeeds_text_of_refusal, Profile.strayLineFeeds_of_error gate]
  · rw [Log.lineFeeds_text_of_quiet _ quiet,
      Profile.strayLineFeeds_of_ok (script build.profile_fit.1), Nat.add_zero]

end

/-- The diagnostic of a launch is one line exactly if nothing with a line feed in it is let
in: a script that is refused, or the path of an interpreter that could not be started. For
the program this leaves the caller's choice of the script: its output has one line, and its
log one for each event that it shows, and each line feed in a script that is refused makes
one more of both. -/
theorem lines_of_failure (profile : Profile) (build : Build) (argv : List Bytes)
    (stdoutOpen : Bool) (kernel : Kernel) :
    ('\n' ∉ (run Kernel.host profile argv kernel).failure.message.toList ↔
        kernel.Contained profile argv (run Kernel.host profile argv kernel)) ∧
      lineFeeds (Program.run build argv true kernel).stdout
        = 1 + build.profile.strayLineFeeds argv ∧
      lineFeeds (Program.run build argv stdoutOpen kernel).stderr
        = (Log.shown build.leastLevel
            (run Kernel.host build.profile argv (Program.started kernel)).events).length
          + build.profile.strayLineFeeds argv := by
  obtain ⟨requests, exit⟩ := run_exit Kernel.host profile argv kernel
  obtain ⟨requests', exit'⟩ := run_exit Kernel.host build.profile argv (Program.started kernel)
  refine ⟨Kernel.newline_not_mem_message_iff exit, ?_, ?_⟩
  · have hend : lineFeeds "\n" = 1 := by decide
    show lineFeeds ((run Kernel.host build.profile argv (Program.started kernel)).failure.message
      ++ "\n") = _
    rw [lineFeeds_append, lineFeeds_message_of_build exit', hend, Nat.add_comm]
  · rw [Program.run, Program.finish_stderr]
    exact lineFeeds_log_of_build exit'

/-- A command line that names a script of two lines, of which the second one is a
diagnostic. -/
def forgedCall : List Bytes :=
  [utf8 "invoke", utf8 "/tmp/x\nInvoke called with no arguments"]

/-- The profile of the system with an interpreter whose path is two lines. -/
def brokenPath : Profile :=
  { Profile.system with interpreter := "/usr/bin/python\n3" }

/-- The forged diagnostic is printed on a line of its own, and the log goes on in it; and the
path of an interpreter that cannot be found breaks the diagnostic in the same way. -/
theorem forged_line :
    Program.run .standard forgedCall true .initial
        = { ending := .exited 3
            stdout := "Invoke called with invalid script: /tmp/x\n"
              ++ "Invoke called with no arguments\n"
            stderr := " WARN rejected: Invoke called with invalid script: /tmp/x\n"
              ++ "Invoke called with no arguments stage=env-sanitized\n" } ∧
      lineFeeds (Program.run .standard forgedCall true .initial).stdout = 2 ∧
      (run Kernel.host brokenPath [utf8 "invoke", utf8 Profile.ingestScript]
          .initial).failure.message
        = "Invoke could not execute /usr/bin/python\n3: ENOENT: No such file or directory" := by
  refine ⟨?_, ?_, ?_⟩
  · decide +kernel
  · decide +kernel
  · decide +kernel

end GuardedLaunch
