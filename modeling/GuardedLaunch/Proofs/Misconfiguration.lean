import GuardedLaunch.Proofs.FirstViolation
import GuardedLaunch.Proofs.LastCall
import GuardedLaunch.Proofs.Printable

/-!
# Diagnostics of unusable profiles

A profile may hold any characters, and a diagnostic that says what is wrong with it has to name
a part of it. Paths and names that are no names of variables are quoted. A name may stand bare,
but the rules on values and on repetitions are looked at under good names only, so that a bare
name is always one that has passed the check on names: what a diagnostic shows of a profile is
printable, whatever the profile holds.

- `Profile.Worded`: texts made of words of the program, quoted texts of a profile, and names of
  its variables that have passed the check.
- `Profile.Worded.printable`: they are printable.
- `Profile.BrokenAt.worded`: the text of a broken rule is one of them.
- `Profile.SafelyReported`: what is claimed of the diagnostic of an unusable profile.
-/

namespace GuardedLaunch

/-- The words in which a profile is declared to be unusable. -/
def Violation.words : List String :=
  ["Invoke misconfigured: ", "interpreter ", "script ", " is not an absolute path",
    "no permitted scripts", "invalid environment variable name ", "value of ", " contains NUL",
    " listed twice"]

namespace Profile

/-- The texts of a profile that a diagnostic may show. The values of variables are not among
them. -/
def texts (profile : Profile) : List String :=
  profile.interpreter :: profile.scripts ++ profile.env.map Variable.name

/-- A text that shows what a profile holds between quotes alone, but for names of variables
that are good names. -/
inductive Worded (profile : Profile) : String → Prop
  | words {text : String} (fixed : text ∈ Violation.words) : Worded profile text
  | quoted {text : String} (held : text ∈ profile.texts) : Worded profile (quoted text)
  | name {var : Variable} (held : var ∈ profile.env) (good : VariableName var.name) :
    Worded profile var.name
  | append {front rest : String} (front_worded : Worded profile front)
    (rest_worded : Worded profile rest) : Worded profile (front ++ rest)

variable {profile : Profile}

/-- Whatever the profile holds, such a text is printable. -/
theorem Worded.printable {text : String} (worded : profile.Worded text) : Printable text := by
  have plain : ∀ text ∈ Violation.words, Within Plain text := by decide
  induction worded with
  | words fixed => exact printable_of_plain (plain _ fixed)
  | quoted held => exact printable_quoted _
  | name held good =>
    exact printable_of_plain (plain_of_isVariableName (isVariableName_iff.mpr good))
  | append _ _ front rest => exact within_append.mpr ⟨front, rest⟩

/-- The rules on variables are looked at in an order in which the name comes first. -/
theorem worded_of_breaks {var : Variable} {earlier : List String} {violation : Violation}
    (held : var ∈ profile.env) (breaks : var.Breaks earlier violation) :
    profile.Worded violation.message := by
  cases breaks with
  | name bad =>
    have shown : var.name ∈ profile.texts :=
      List.mem_append_right _ (List.mem_map_of_mem held)
    exact .append (.words (by decide)) (.quoted shown)
  | value good nul =>
    exact .append (.append (.words (by decide)) (.name held good)) (.words (by decide))
  | repetition good clean again =>
    exact .append (.name held good) (.words (by decide))

theorem BrokenAt.worded {site : Site} {violation : Violation}
    (broken : profile.BrokenAt site violation) : profile.Worded violation.message := by
  cases broken with
  | interpreter bad =>
    have shown : profile.interpreter ∈ profile.texts := List.mem_cons_self
    exact .append (.append (.words (by decide)) (.quoted shown)) (.words (by decide))
  | scripts empty => exact .words (by decide)
  | script found bad =>
    have shown : _ ∈ profile.texts :=
      List.mem_cons_of_mem _ (List.mem_append_left _ (List.mem_of_getElem? found))
    exact .append (.append (.words (by decide)) (.quoted shown)) (.words (by decide))
  | entry found breaks => exact worded_of_breaks (List.mem_of_getElem? found) breaks

/-- The rule that a validation finds broken is told in such a text. -/
theorem worded_of_violation? {violation : Violation}
    (h : profile.violation? = some violation) : profile.Worded violation.message := by
  obtain ⟨site, first⟩ := violation?_eq_some_iff.mp h
  exact first.broken.worded

/-! ## What is claimed -/

/-- A failure shows of a profile what is quoted or has been checked, and none of its characters
controls a terminal or ends a line. -/
structure SafelyReported (profile : Profile) (failure : Failure) : Prop where
  worded : profile.Worded failure.message
  printable : Printable failure.message
  no_control : ∀ c ∈ failure.message.toList, ¬ Unicode.IsControl c
  no_separator : ∀ c ∈ failure.message.toList, ¬ Unicode.IsLineSeparator c

theorem safelyReported_of_violation? {violation : Violation}
    (h : profile.violation? = some violation) : profile.SafelyReported violation.failure := by
  have worded : profile.Worded violation.failure.message :=
    .append (.words (by decide)) (worded_of_violation? h)
  exact {
    worded
    printable := worded.printable
    no_control := fun c hc => Unicode.not_isControl_of_isPrintable (worded.printable c hc)
    no_separator := fun c hc =>
      Unicode.not_isLineSeparator_of_isPrintable (worded.printable c hc) }

/-- A kernel has failures of its own, and none of them blames the profile. -/
theorem violation?_of_failsAt {argv : List Bytes} {kernel : Kernel} {last : Syscall}
    {process : ProcessState} {reason : String} {code : Nat}
    (fails : kernel.FailsAt profile argv last process (.profileUnusable reason) code) :
    ∃ violation, profile.violation? = some violation ∧
      .profileUnusable reason = violation.failure := by
  cases fails with
  | profileUnusable broken => exact ⟨_, broken, rfl⟩

/-- That a profile is unusable is reported in a printable text, by a validation and by a launch
on any kernel with any faults, whatever the profile holds and whatever the command line. -/
theorem misconfiguration_printable (profile : Profile) :
    (∀ failure, profile.validate = .error failure → profile.SafelyReported failure) ∧
      ∀ (argv : List Bytes) (kernel : Kernel) (reason : String),
        (run Kernel.host profile argv kernel).failure = .profileUnusable reason →
          profile.SafelyReported (.profileUnusable reason) := by
  constructor
  · intro failure invalid
    obtain ⟨violation, broken, rfl⟩ := validate_error_iff.mp invalid
    exact safelyReported_of_violation? broken
  · intro argv kernel reason blamed
    obtain ⟨requests, exit⟩ := run_exit Kernel.host profile argv kernel
    obtain ⟨earlier, last, ends⟩ := Kernel.endsAfter_run exit
    have fails := ends.fails
    rw [blamed] at fails
    obtain ⟨violation, broken, told⟩ := violation?_of_failsAt fails
    rw [told]
    exact safelyReported_of_violation? broken

/-- A profile whose texts are full of controls and separators. Two of its variables cannot be
passed on: the first has a good name, and the name of the second would clear a terminal. -/
def hostile : Profile where
  interpreter := "/bin/\x07sh\u2029"
  scripts := ["/opt/\x1b[2J.py", "/opt/\x9b\n.py"]
  env := [⟨"LANG", "\x1b\u2028"⟩, ⟨"PATH", "\x1b]0;\x00"⟩, ⟨"\x1b[2J\u2028\x85", "\x00"⟩]

/-- The value of the second variable is not shown, and the name of the third is quoted. -/
theorem misconfiguration_printable_hostile :
    let cut : Profile := { hostile with env := hostile.env.drop 2 }
    let value := "value of PATH contains NUL"
    let name := "invalid environment variable name \"\\u\x7b1b\x7d[2J\\u\x7b2028\x7d\\u\x7b85\x7d\""
    hostile.validate = .error (.profileUnusable value) ∧
      hostile.SafelyReported (.profileUnusable value) ∧
      (run Kernel.host cut [] .initial).failure = .profileUnusable name ∧
      cut.SafelyReported (.profileUnusable name) := by
  intro cut value name
  have invalid : hostile.validate = .error (.profileUnusable value) :=
    validate_error_iff.mpr ⟨.valueHasNul "PATH", by decide +kernel, rfl⟩
  have blamed : (run Kernel.host cut [] .initial).failure = .profileUnusable name := by
    decide +kernel
  exact ⟨invalid, (misconfiguration_printable hostile).1 _ invalid, blamed,
    (misconfiguration_printable cut).2 [] .initial name blamed⟩

/-- The order of the checks matters: where an environment is built without a validation, the
name of a variable is shown as it is. -/
example :
    let unchecked := Environment.ofProfile { hostile with env := hostile.env.drop 2 }
    ∃ failure, unchecked = .error failure ∧ '\x1b' ∈ failure.message.toList :=
  ⟨_, rfl, by decide⟩

end Profile

end GuardedLaunch
