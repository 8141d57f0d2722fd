import GuardedLaunch.Profile.Shipped
import GuardedLaunch.Proofs.CommandLine

/-!
# The argument list of the interpreter

The interpreter is given the caller's command line with itself in slot 0. Slot 0 is the only
one that the rewriting touches and the only one that it does not look at, so that rewriting
twice is rewriting once, and the gate on the script, which looks at slot 1, cannot tell a
command line from the argument list that is made of it.

- `clean_iff_slots`: arguments without a NUL byte, slot by slot.
- `Rewrites`: what a rewritten command line is.
- `rewriting_exact`: when there is one, and what is reported when there is none.
-/

namespace GuardedLaunch

/-! ## Slots -/

/-- What follows slot 0 is free of NUL bytes if every slot from 1 on is. -/
theorem clean_iff_slots {argv : List Bytes} :
    (∀ arg ∈ argv.tail, 0 ∉ arg) ↔
      ∀ slot, 1 ≤ slot → ∀ arg, argv[slot]? = some arg → 0 ∉ arg := by
  constructor
  · intro clean slot pos arg harg
    obtain ⟨index, rfl⟩ := Nat.exists_eq_succ_of_ne_zero (Nat.ne_of_gt pos)
    rw [← List.getElem?_tail] at harg
    exact clean arg (List.mem_of_getElem? harg)
  · intro clean arg harg
    obtain ⟨index, hindex⟩ := List.mem_iff_getElem?.mp harg
    rw [List.getElem?_tail] at hindex
    exact clean (index + 1) (Nat.succ_pos index) arg hindex

/-! ## Rewriting -/

/-- What a command line is rewritten to. -/
structure Rewrites (profile : Profile) (argv rewritten : List Bytes) : Prop where
  /-- There is a slot 0, even for a command line that had none. -/
  length : rewritten.length = max 1 argv.length
  name : rewritten[0]? = some (utf8 profile.interpreter)
  arguments : ∀ slot, 1 ≤ slot → rewritten[slot]? = argv[slot]?
  again : profile.interpreterArgv rewritten = .ok rewritten
  gate : profile.authorize rewritten = profile.authorize argv

variable {profile : Profile} {argv rewritten : List Bytes}

theorem rewrites_of_ok (built : profile.interpreterArgv argv = .ok rewritten) :
    Rewrites profile argv rewritten := by
  obtain ⟨interpreter, clean, rfl⟩ := Profile.interpreterArgv_ok_iff.mp built
  exact {
    length := by
      rw [List.length_cons, List.length_tail]
      omega
    name := rfl
    arguments := fun _ pos => getElem?_cons_tail pos
    again := Profile.interpreterArgv_ok_iff.mpr ⟨interpreter, clean, rfl⟩
    gate := by
      rw [Profile.authorize_eq, Profile.authorize_eq, getElem?_cons_tail (Nat.le_refl 1)] }

/-- Whatever stands in slot 0 makes no difference, whether or not there is an argument list. -/
theorem interpreterArgv_set_zero (name : Bytes) :
    profile.interpreterArgv (argv.set 0 name) = profile.interpreterArgv argv := by
  have same : (argv.set 0 name).tail = argv.tail := by
    cases argv with
    | nil => rfl
    | cons _ _ => rfl
  rw [Profile.interpreterArgv, Profile.interpreterArgv, same]

/-- A command line is rewritten exactly when neither the interpreter nor a slot from 1 on has a
NUL byte. It keeps its slots but for the interpreter in slot 0, rewriting it again changes
nothing, and the gate on the script answers as before. When it is not rewritten, the
interpreter is blamed if it has a NUL, and otherwise the first slot from 1 on that has one;
slot 0 is never looked at. -/
theorem rewriting_exact (profile : Profile) (argv : List Bytes) :
    ((∃ rewritten, profile.interpreterArgv argv = .ok rewritten) ↔
        0 ∉ utf8 profile.interpreter ∧
          ∀ slot, 1 ≤ slot → ∀ arg, argv[slot]? = some arg → 0 ∉ arg) ∧
      (∀ rewritten, profile.interpreterArgv argv = .ok rewritten →
        Rewrites profile argv rewritten) ∧
      (0 ∈ utf8 profile.interpreter →
        profile.interpreterArgv argv
          = .error (.profileUnusable
              ("interpreter " ++ quoted profile.interpreter ++ " contains NUL"))) ∧
      (0 ∉ utf8 profile.interpreter → ∀ failure,
        (profile.interpreterArgv argv = .error failure ↔
          ∃ slot, FirstNul argv slot ∧
            failure = .notExecuted .invalidArgument s!"argument {slot}")) ∧
      ∀ name, profile.interpreterArgv (argv.set 0 name) = profile.interpreterArgv argv := by
  have hclean : 0 ∉ utf8 profile.interpreter ↔ hasNul profile.interpreter = false := by
    rw [zero_mem_utf8_iff, Bool.not_eq_true]
  refine ⟨?_, fun _ => rewrites_of_ok, ?_, ?_, interpreterArgv_set_zero⟩
  · rw [hclean, ← clean_iff_slots]
    constructor
    · rintro ⟨rewritten, built⟩
      obtain ⟨interpreter, clean, -⟩ := Profile.interpreterArgv_ok_iff.mp built
      exact ⟨interpreter, clean⟩
    · rintro ⟨interpreter, clean⟩
      exact ⟨_, Profile.interpreterArgv_ok_iff.mpr ⟨interpreter, clean, rfl⟩⟩
  · intro hnul
    exact Profile.interpreterArgv_of_interpreter ((zero_mem_utf8_iff _).mp hnul)
  · intro interpreter failure
    exact Profile.interpreterArgv_error_iff (hclean.mp interpreter)

/-- A NUL byte is passed over in slot 0, found in the first of two later slots, and neither is
looked for once the interpreter has one. -/
theorem rewriting_exact_nul :
    let accepted : List Bytes := [[0], utf8 Profile.ingestScript, [0xFF], []]
    let refused : List Bytes := [[0], utf8 Profile.ingestScript, [], [0x61, 0], [0]]
    let cut : Profile := { Profile.system with interpreter := "/usr/bin/\x00" }
    Rewrites .system accepted (utf8 Profile.system.interpreter :: accepted.tail) ∧
      (FirstNul refused 3 ∧
        Profile.system.interpreterArgv refused
          = .error (.notExecuted .invalidArgument "argument 3")) ∧
      0 ∈ utf8 cut.interpreter ∧
      cut.interpreterArgv refused
        = .error (.profileUnusable "interpreter \"/usr/bin/\\0\" contains NUL") := by
  intro accepted refused cut
  obtain ⟨-, rewrites, -, -, -⟩ := rewriting_exact .system accepted
  obtain ⟨-, -, -, first, -⟩ := rewriting_exact .system refused
  obtain ⟨-, -, blamed, -, -⟩ := rewriting_exact cut refused
  have stray : FirstNul refused 3 := firstNul_iff_findIdx?.mp (by decide +kernel)
  have hnul : 0 ∈ utf8 cut.interpreter := by decide +kernel
  have hquoted : "interpreter " ++ quoted cut.interpreter ++ " contains NUL"
      = "interpreter \"/usr/bin/\\0\" contains NUL" := by decide +kernel
  rw [hquoted] at blamed
  exact ⟨rewrites _ rfl, ⟨stray, (first (by decide +kernel) _).mpr ⟨3, stray, by decide +kernel⟩⟩,
    hnul, blamed hnul⟩

end GuardedLaunch
