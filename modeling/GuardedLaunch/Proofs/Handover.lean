import GuardedLaunch.Profile.Shipped
import GuardedLaunch.Proofs.Exit

/-!
# What can be executed

A host is asked to replace the process image only behind every gate. What it is given
then is fixed by the profile, by the environment of the launch and by the caller's slots
from 1 on, and it is never anything that the system would cut short.

- `HandsOver`: what may be handed over.
- `LaunchExit.handsOver`: the ending that asks for a replacement hands nothing else over.
- `RunExit.handsOver`: a whole launch has also validated its profile.
-/

namespace GuardedLaunch

/-- What may be handed over for a command line in a given environment. -/
structure HandsOver (profile : Profile) (env : Environment) (argv : List Bytes)
    (handover : Handover) : Prop where
  /-- The command line names a script. -/
  slots : 2 ≤ argv.length
  /-- What it names is a permitted script, byte for byte. -/
  script : ∃ script ∈ profile.scripts, argv[1]? = some (utf8 script)
  interpreter : handover.interpreter = utf8 profile.interpreter
  /-- Whatever the caller had in slot 0, the interpreter sees itself there. -/
  name : handover.argv[0]? = some (utf8 profile.interpreter)
  length : handover.argv.length = argv.length
  arguments : ∀ slot, 1 ≤ slot → handover.argv[slot]? = argv[slot]?
  env : handover.env = env
  interpreter_clean : 0 ∉ handover.interpreter
  argv_clean : ∀ arg ∈ handover.argv, 0 ∉ arg
  env_clean : ∀ entry ∈ handover.env.block, 0 ∉ entry

/-- A handover that is built behind the gate on the script is one that may be made. -/
theorem handsOver_of_handover {profile : Profile} {env : Environment} {argv : List Bytes}
    {handover : Handover} (clean : ∀ entry ∈ env.block, 0 ∉ entry)
    (script : profile.authorize argv = .ok ())
    (prepared : profile.handover env argv = .ok handover) :
    HandsOver profile env argv handover := by
  obtain ⟨permitted, hpermitted, named⟩ := Profile.authorize_ok_iff.mp script
  obtain ⟨hinterpreter, hargs, rfl⟩ := Profile.handover_ok_iff.mp prepared
  have hslots : 2 ≤ argv.length := (List.getElem?_eq_some_iff.mp named).1
  have hclean : 0 ∉ utf8 profile.interpreter := by
    rw [zero_mem_utf8_iff, hinterpreter]
    exact Bool.false_ne_true
  exact {
    slots := hslots
    script := ⟨permitted, hpermitted, named⟩
    interpreter := rfl
    name := rfl
    length := Profile.length_of_handover script prepared
    arguments := fun _ hslot => getElem?_cons_tail hslot
    env := rfl
    interpreter_clean := hclean
    argv_clean := by
      intro arg harg
      rcases List.mem_cons.mp harg with rfl | harg
      · exact hclean
      · exact hargs arg harg
    env_clean := clean }

variable {σ : Type} {host : Host σ} {profile : Profile} {env : Environment}
  {argv : List Bytes} {state : σ} {requests : List Request} {outcome : Outcome σ}

/-- The only ending that asks for a replacement of the process image is the last one. -/
theorem LaunchExit.handsOver (clean : ∀ entry ∈ env.block, 0 ∉ entry)
    (exit : LaunchExit host profile env argv state requests outcome) {handover : Handover}
    (asked : .exec handover ∈ requests) : HandsOver profile env argv handover := by
  cases exit with
  | refused => exact absurd asked List.not_mem_nil
  | unprepared => exact absurd asked List.not_mem_nil
  | identityKept => simp at asked
  | signalsKept => simp at asked
  | @executed handed before settled reset script prepared =>
    have hsame : handover = handed := by simpa using asked
    rw [hsame]
    exact handsOver_of_handover clean script prepared

/-- A whole launch that asks for a replacement has validated its profile. -/
theorem RunExit.handsOver (exit : RunExit host profile argv state requests outcome)
    {handover : Handover} (asked : .exec handover ∈ requests) :
    profile.validate = .ok () ∧
      HandsOver profile profile.environment argv handover := by
  cases exit with
  | unusable => simp at asked
  | launched valid exit =>
    have built := Environment.ofProfile_ok_iff.mpr
      ⟨Profile.variables_of_validate valid, rfl⟩
    have asked := (List.mem_cons.mp asked).resolve_left Request.noConfusion
    exact ⟨valid, exit.handsOver (Environment.block_of_ofProfile built) asked⟩

/-- Whatever a launch asks its host to execute is what the profile, the environment of
the launch and the caller's slots from 1 on determine. A whole launch has validated the
profile first, and nothing but the profile's variables is in the environment. -/
theorem exec_hands_over (host : Host σ) (profile : Profile) (argv : List Bytes) (state : σ)
    (handover : Handover) :
    (∀ source env, Environment.ofProfile source = .ok env →
        .exec handover ∈ (launch host.observed profile env argv (.fresh state)).state.requests →
        HandsOver profile env argv handover) ∧
      (.exec handover ∈ (run host.observed profile argv (.fresh state)).state.requests →
        profile.validate = .ok () ∧
          HandsOver profile profile.environment argv handover ∧
          handover.env.block
            = profile.env.map fun var => utf8 var.name ++ 0x3D :: utf8 var.value) := by
  constructor
  · intro source env built asked
    obtain ⟨requests, exit⟩ := launch_exit host profile env argv state
    rw [Observed.fresh, exit.observed, List.nil_append] at asked
    exact exit.handsOver (Environment.block_of_ofProfile built) asked
  · intro asked
    obtain ⟨requests, exit⟩ := run_exit host profile argv state
    rw [exit.observed] at asked
    obtain ⟨valid, hands⟩ := exit.handsOver asked
    refine ⟨valid, hands, ?_⟩
    rw [hands.env]
    exact profile.block_environment

/-- A command line that names the script. Its other slots are a NUL byte, which is never
passed on, bytes that are no text, and nothing. -/
def oddCommandLine : List Bytes :=
  [[0], utf8 Profile.ingestScript, [0xFF, 0xFE], []]

/-- Replies that let a launch come to its last step. -/
def willing : Replies where
  identity := .ok ⟨48, 0, 48, 0⟩
  signals := .ok ()
  exec := .notExecuted ⟨2⟩ "/usr/bin/python"

/-- The odd command line is handed over, by a launch in the other profile's environment
and by a whole launch. -/
theorem exec_hands_over_oddCommandLine :
    HandsOver .system Profile.conda.environment oddCommandLine
        (Profile.system.prepared Profile.conda.environment oddCommandLine) ∧
      Profile.system.validate = .ok () ∧
      HandsOver .system Profile.system.environment oddCommandLine
        (Profile.system.prepared Profile.system.environment oddCommandLine) := by
  have launched := (exec_hands_over Host.scripted .system oddCommandLine willing
    (Profile.system.prepared Profile.conda.environment oddCommandLine)).1 .conda
    Profile.conda.environment rfl (by decide +kernel)
  have ran := (exec_hands_over Host.scripted .system oddCommandLine willing
    (Profile.system.prepared Profile.system.environment oddCommandLine)).2 (by decide +kernel)
  exact ⟨launched, ran.1, ran.2.1⟩

end GuardedLaunch
