import GuardedLaunch.CommandLine
import GuardedLaunch.Proofs.Environment

/-!
# Command lines that pass

The two gates on a command line, said without the order in which it is looked through:
slot 1 has to be a permitted script, and no slot from 1 on may hold a NUL byte. Slots
are counted from the start of the command line, slot 0 included.

- `Profile.authorize_eq`, `Profile.authorize_ok_iff`, `Profile.authorize_error_iff`: the first
  gate.
- `FirstNul`: the slot for which the second gate is closed.
- `Profile.interpreterArgv_ok_iff`, `Profile.interpreterArgv_error_iff`: the argument list of
  the interpreter.
- `Profile.prepared`: what is handed over behind the second gate.
- `Profile.handover_ok_iff`, `Profile.handover_error_iff`: the second gate.
- `Profile.Accepts`: the command lines that pass both.
-/

namespace GuardedLaunch

/-! ## The script -/

namespace Profile

/-- The gate on the script looks at slot 1, and at whether there is one. -/
theorem authorize_eq (profile : Profile) (argv : List Bytes) :
    profile.authorize argv =
      match argv[1]? with
      | none => .error .scriptMissing
      | some script =>
        if profile.Permits script then .ok ()
        else .error (.scriptNotPermitted (decodeLossy script)) := by
  match argv with
  | [] => rfl
  | [_] => rfl
  | _ :: _ :: _ => rfl

/-- A command line passes when its slot 1 is one of the scripts, byte for byte. -/
theorem authorize_ok_iff {profile : Profile} {argv : List Bytes} :
    profile.authorize argv = .ok () ↔
      ∃ script ∈ profile.scripts, argv[1]? = some (utf8 script) := by
  rw [authorize_eq]
  cases argv[1]? with
  | none =>
    constructor
    · intro h
      cases h
    · rintro ⟨script, -, h⟩
      cases h
  | some candidate =>
    by_cases hpermits : profile.Permits candidate
    · obtain ⟨script, hscript, rfl⟩ := hpermits
      exact iff_of_true (if_pos ⟨script, hscript, rfl⟩) ⟨script, hscript, rfl⟩
    · dsimp only
      rw [if_neg hpermits]
      constructor
      · intro h
        cases h
      · rintro ⟨script, hscript, h⟩
        exact absurd ⟨script, hscript, (Option.some.inj h).symm⟩ hpermits

/-- Behind the gate there is nothing to be refused. -/
theorem permits_of_authorize {profile : Profile} {argv : List Bytes} {candidate : Bytes}
    (script : profile.authorize argv = .ok ()) (named : argv[1]? = some candidate) :
    profile.Permits candidate := by
  obtain ⟨permitted, hpermitted, hnamed⟩ := authorize_ok_iff.mp script
  exact ⟨permitted, hpermitted, Option.some.inj (hnamed.symm.trans named)⟩

/-- A command line is refused because it has no slot 1 or because of what that is. -/
theorem authorize_error_iff {profile : Profile} {argv : List Bytes} {failure : Failure} :
    profile.authorize argv = .error failure ↔
      (argv.length < 2 ∧ failure = .scriptMissing) ∨
        ∃ candidate, argv[1]? = some candidate ∧ ¬ profile.Permits candidate ∧
          failure = .scriptNotPermitted (decodeLossy candidate) := by
  have hshort : argv.length < 2 ↔ argv[1]? = none := by
    rw [List.getElem?_eq_none_iff, Nat.lt_succ_iff]
  rw [authorize_eq, hshort]
  cases argv[1]? with
  | none =>
    constructor
    · intro h
      exact Or.inl ⟨rfl, (Except.error.inj h).symm⟩
    · rintro (⟨-, rfl⟩ | ⟨candidate, h, -⟩)
      · rfl
      · cases h
  | some candidate =>
    dsimp only
    by_cases hpermits : profile.Permits candidate
    · rw [if_pos hpermits]
      constructor
      · intro h
        cases h
      · rintro (⟨h, -⟩ | ⟨_, h, hnot, -⟩)
        · cases h
        · cases h
          exact absurd hpermits hnot
    · rw [if_neg hpermits]
      constructor
      · intro h
        exact Or.inr ⟨candidate, rfl, hpermits, (Except.error.inj h).symm⟩
      · rintro (⟨h, -⟩ | ⟨_, h, -, rfl⟩)
        · cases h
        · cases h
          rfl

end Profile

/-! ## NUL bytes in arguments -/

/-- The first slot from 1 on whose argument holds a NUL byte. -/
structure FirstNul (argv : List Bytes) (slot : Nat) : Prop where
  pos : 0 < slot
  found : ∃ arg, argv[slot]? = some arg ∧ 0 ∈ arg
  least : ∀ earlier, 0 < earlier → earlier < slot →
    ∀ arg, argv[earlier]? = some arg → 0 ∉ arg

/-- Looking through what follows slot 0 finds the first such slot. -/
theorem firstNul_iff_findIdx? {argv : List Bytes} {index : Nat} :
    argv.tail.findIdx? (·.contains 0) = some index ↔ FirstNul argv (index + 1) := by
  rw [List.findIdx?_eq_some_iff_getElem]
  constructor
  · rintro ⟨hindex, hnul, hleast⟩
    refine ⟨Nat.succ_pos index, ⟨argv.tail[index], ?_, List.contains_iff_mem.mp hnul⟩, ?_⟩
    · rw [← List.getElem?_tail, List.getElem?_eq_getElem hindex]
    · intro earlier hpos hlt arg harg hmem
      obtain ⟨j, rfl⟩ := Nat.exists_eq_succ_of_ne_zero (Nat.ne_of_gt hpos)
      rw [← List.getElem?_tail] at harg
      obtain ⟨hj, rfl⟩ := List.getElem?_eq_some_iff.mp harg
      exact hleast j (Nat.lt_of_succ_lt_succ hlt) (List.contains_iff_mem.mpr hmem)
  · rintro ⟨-, ⟨arg, harg, hnul⟩, hleast⟩
    rw [← List.getElem?_tail] at harg
    obtain ⟨hindex, rfl⟩ := List.getElem?_eq_some_iff.mp harg
    refine ⟨hindex, List.contains_iff_mem.mpr hnul, fun j hj hmem => ?_⟩
    have hget : argv[j + 1]? = some argv.tail[j] := by
      rw [← List.getElem?_tail, List.getElem?_eq_getElem]
    exact hleast (j + 1) (Nat.succ_pos j) (Nat.succ_lt_succ hj) _ hget
      (List.contains_iff_mem.mp hmem)

/-- Looking through what follows slot 0 finds nothing when no argument holds a NUL byte. -/
theorem clean_iff_findIdx? {argv : List Bytes} :
    argv.tail.findIdx? (·.contains 0) = none ↔ ∀ arg ∈ argv.tail, 0 ∉ arg := by
  rw [List.findIdx?_eq_none_iff]
  refine forall₂_congr fun arg _ => ?_
  rw [Bool.eq_false_iff, ne_eq, List.contains_iff_mem]

/-- There is at most one first slot. -/
theorem FirstNul.unique {argv : List Bytes} {slot other : Nat} (h : FirstNul argv slot)
    (h' : FirstNul argv other) : slot = other := by
  obtain ⟨arg, harg, hnul⟩ := h.found
  obtain ⟨arg', harg', hnul'⟩ := h'.found
  rcases Nat.lt_trichotomy slot other with hlt | heq | hlt
  · exact absurd hnul (h'.least slot h.pos hlt arg harg)
  · exact heq
  · exact absurd hnul' (h.least other h'.pos hlt arg' harg')

/-! ## The argument list -/

/-- Another slot 0 leaves the slots from 1 on where they are. -/
theorem getElem?_cons_tail {name : Bytes} {argv : List Bytes} {slot : Nat} (pos : 1 ≤ slot) :
    (name :: argv.tail)[slot]? = argv[slot]? := by
  obtain ⟨index, rfl⟩ := Nat.exists_eq_succ_of_ne_zero (Nat.ne_of_gt pos)
  rw [List.getElem?_cons_succ, List.getElem?_tail]

namespace Profile

variable {profile : Profile} {env : Environment} {argv : List Bytes}

/-- An interpreter that the system cannot take is reported before any argument is looked at. -/
theorem interpreterArgv_of_interpreter (h : hasNul profile.interpreter = true) :
    profile.interpreterArgv argv
      = .error (Violation.interpreterHasNul profile.interpreter).failure := by
  rw [interpreterArgv, interpreterBytes, h]
  rfl

/-- The argument list, once the interpreter is one the system can take. -/
theorem interpreterArgv_of_hasNul (h : hasNul profile.interpreter = false) :
    profile.interpreterArgv argv =
      match argv.tail.findIdx? (·.contains 0) with
      | some index => .error (argumentFailure (index + 1))
      | none => .ok (utf8 profile.interpreter :: argv.tail) := by
  rw [interpreterArgv, interpreterBytes, h]
  rfl

/-- When an argument list is built it is the interpreter and the caller's other slots. -/
theorem interpreterArgv_ok_iff {rewritten : List Bytes} :
    profile.interpreterArgv argv = .ok rewritten ↔
      hasNul profile.interpreter = false ∧ (∀ arg ∈ argv.tail, 0 ∉ arg) ∧
        rewritten = utf8 profile.interpreter :: argv.tail := by
  cases hnul : hasNul profile.interpreter with
  | true =>
    rw [interpreterArgv_of_interpreter hnul]
    constructor
    · intro h
      cases h
    · rintro ⟨h, -⟩
      cases h
  | false =>
    rw [interpreterArgv_of_hasNul hnul]
    cases hfind : argv.tail.findIdx? (·.contains 0) with
    | some index =>
      obtain ⟨arg, harg, hmem⟩ := (firstNul_iff_findIdx?.mp hfind).found
      rw [← List.getElem?_tail] at harg
      constructor
      · intro h
        cases h
      · rintro ⟨-, hclean, -⟩
        exact absurd hmem (hclean arg (List.mem_of_getElem? harg))
    | none =>
      constructor
      · intro h
        exact ⟨rfl, clean_iff_findIdx?.mp hfind, (Except.ok.inj h).symm⟩
      · rintro ⟨-, -, rfl⟩
        rfl

/-- Behind an interpreter that the system can take, only a NUL byte in an argument keeps the
list from being built, and the first one is reported. -/
theorem interpreterArgv_error_iff (h : hasNul profile.interpreter = false) {failure : Failure} :
    profile.interpreterArgv argv = .error failure ↔
      ∃ slot, FirstNul argv slot ∧ failure = argumentFailure slot := by
  rw [interpreterArgv_of_hasNul h]
  cases hfind : argv.tail.findIdx? (·.contains 0) with
  | some index =>
    have hfirst := firstNul_iff_findIdx?.mp hfind
    constructor
    · intro heq
      exact ⟨index + 1, hfirst, (Except.error.inj heq).symm⟩
    · rintro ⟨slot, hslot, rfl⟩
      rw [hslot.unique hfirst]
  | none =>
    constructor
    · intro heq
      cases heq
    · rintro ⟨slot, hslot, -⟩
      obtain ⟨index, rfl⟩ := Nat.exists_eq_succ_of_ne_zero (Nat.ne_of_gt hslot.pos)
      rw [firstNul_iff_findIdx?.mpr hslot] at hfind
      cases hfind

/-! ## The handover -/

/-- What is handed over for a command line, if it comes to that: the interpreter, which
also stands in slot 0, the caller's other slots as they are, and the environment as it
was given. -/
def prepared (profile : Profile) (env : Environment) (argv : List Bytes) : Handover where
  interpreter := utf8 profile.interpreter
  argv := utf8 profile.interpreter :: argv.tail
  env := env

/-- A handover is built when the argument list is, and around it. -/
theorem handover_eq_map :
    profile.handover env argv
      = (profile.interpreterArgv argv).map (⟨utf8 profile.interpreter, ·, env⟩) := by
  cases hnul : hasNul profile.interpreter with
  | true =>
    rw [interpreterArgv_of_interpreter hnul, handover, interpreterBytes, hnul]
    rfl
  | false =>
    rw [handover, interpreterBytes, hnul]
    cases profile.interpreterArgv argv with
    | error failure => rfl
    | ok rewritten => rfl

/-- When a handover is built it is that one. -/
theorem handover_ok_iff {handover : Handover} :
    profile.handover env argv = .ok handover ↔
      hasNul profile.interpreter = false ∧ (∀ arg ∈ argv.tail, 0 ∉ arg) ∧
        handover = profile.prepared env argv := by
  rw [handover_eq_map]
  constructor
  · intro h
    cases hargv : profile.interpreterArgv argv with
    | error failure =>
      rw [hargv] at h
      cases h
    | ok rewritten =>
      obtain ⟨interpreter, clean, rfl⟩ := interpreterArgv_ok_iff.mp hargv
      rw [hargv] at h
      exact ⟨interpreter, clean, (Except.ok.inj h).symm⟩
  · rintro ⟨interpreter, clean, rfl⟩
    rw [interpreterArgv_ok_iff.mpr ⟨interpreter, clean, rfl⟩]
    rfl

/-- And when it is not, the reason is the one for which there is no argument list. -/
theorem handover_error_iff (h : hasNul profile.interpreter = false) {failure : Failure} :
    profile.handover env argv = .error failure ↔
      ∃ slot, FirstNul argv slot ∧ failure = argumentFailure slot := by
  rw [handover_eq_map, ← interpreterArgv_error_iff h]
  cases profile.interpreterArgv argv with
  | error cause =>
    constructor
    · intro heq
      rw [Except.error.inj heq]
    · intro heq
      rw [Except.error.inj heq]
      rfl
  | ok rewritten =>
    constructor
    · intro heq
      cases heq
    · intro heq
      cases heq

/-- The interpreter gets as many slots as the caller gave, whose slot 0 it takes. -/
theorem length_of_handover {handover : Handover} (script : profile.authorize argv = .ok ())
    (prepared : profile.handover env argv = .ok handover) :
    handover.argv.length = argv.length := by
  obtain ⟨permitted, -, named⟩ := authorize_ok_iff.mp script
  obtain ⟨-, -, rfl⟩ := handover_ok_iff.mp prepared
  have slots : 1 < argv.length := (List.getElem?_eq_some_iff.mp named).1
  rw [Profile.prepared, List.length_cons, List.length_tail]
  omega

/-! ## Both gates -/

/-- A command line passes both gates: it names a permitted script, and no argument from
slot 1 on holds a NUL byte. -/
structure Accepts (profile : Profile) (argv : List Bytes) : Prop where
  script : profile.authorize argv = .ok ()
  clean : ∀ arg ∈ argv.tail, 0 ∉ arg

/-- The arguments of an accepted command line are passed on as they are, once the interpreter
is one that the system can take. -/
theorem Accepts.interpreterArgv_eq (accepts : profile.Accepts argv)
    (interpreter : hasNul profile.interpreter = false) :
    profile.interpreterArgv argv = .ok (utf8 profile.interpreter :: argv.tail) := by
  rw [interpreterArgv_of_hasNul interpreter, clean_iff_findIdx?.mpr accepts.clean]

/-- And all of it is handed over. -/
theorem Accepts.handover_eq (accepts : profile.Accepts argv)
    (interpreter : hasNul profile.interpreter = false) (env : Environment) :
    profile.handover env argv = .ok (profile.prepared env argv) :=
  handover_ok_iff.mpr ⟨interpreter, accepts.clean, rfl⟩

end Profile

end GuardedLaunch
