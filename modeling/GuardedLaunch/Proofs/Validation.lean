import GuardedLaunch.Environment
import GuardedLaunch.Profile.Shipped

/-!
# What a validation makes sure of

A validation looks for the first rule that is broken. Seen from behind it, the order of the
checks is gone: a profile passes when none of them finds anything, and what the checks look
for one by one are the conditions under which a profile can be put to use.

- `isAbsolutePath_iff`, `isVariableName_iff`: the checks on paths and on names.
- `envViolation?_eq_none_iff`: the checks on variables, each of which is compared with those
  before it alone.
- `Profile.validate_error_iff`, `Profile.validate_ok_iff`: the two verdicts.
- `Profile.wellFormed_iff`: the rules for profiles, which can be decided.
- `Profile.validate_decides_wellFormed`: a validation accepts the profiles that satisfy them.
- `Profile.interpreter_of_validate`, `Profile.variables_of_validate`: what a validated
  profile is free of.
- `Profile.validate_system`, `Profile.validate_conda`: the shipped profiles pass.
-/

namespace GuardedLaunch

/-! ## The checks -/

theorem hasNul_eq_false_iff {text : String} : hasNul text = false ↔ '\x00' ∉ text.toList := by
  rw [hasNul, Bool.eq_false_iff, ne_eq, List.contains_iff_mem]

/-- The check on a path finds out whether it leads from the root on and has no NUL. -/
theorem isAbsolutePath_iff {path : String} : isAbsolutePath path = true ↔ AbsolutePath path := by
  rw [isAbsolutePath, AbsolutePath, Bool.and_eq_true, Bool.not_eq_true', hasNul_eq_false_iff]
  refine and_congr_left fun _ => ?_
  cases path.toList with
  | nil => simp
  | cons first rest => simp

/-- Only ASCII letters count as letters. -/
theorem isAlpha_iff {c : Char} :
    c.isAlpha = true ↔ ('A' ≤ c ∧ c ≤ 'Z') ∨ ('a' ≤ c ∧ c ≤ 'z') := by
  show (decide ('A' ≤ c ∧ c ≤ 'Z') || (decide ('a' ≤ c) && decide (c ≤ 'z'))) = true ↔ _
  rw [Bool.or_eq_true, Bool.and_eq_true, decide_eq_true_eq, decide_eq_true_eq, decide_eq_true_eq]

/-- Only ASCII digits count as digits. -/
theorem isDigit_iff {c : Char} : c.isDigit = true ↔ '0' ≤ c ∧ c ≤ '9' := by
  show (decide ('0' ≤ c) && decide (c ≤ '9')) = true ↔ _
  rw [Bool.and_eq_true, decide_eq_true_eq, decide_eq_true_eq]

theorem isNameStart_iff {c : Char} : isNameStart c = true ↔ NameStart c := by
  rw [isNameStart, NameStart, Bool.or_eq_true, isAlpha_iff, beq_iff_eq, or_assoc]

theorem isNameRest_iff {c : Char} :
    isNameRest c = true ↔ NameStart c ∨ ('0' ≤ c ∧ c ≤ '9') := by
  rw [← isNameStart_iff, isNameStart, isNameRest, Char.isAlphanum, Bool.or_eq_true,
    Bool.or_eq_true, Bool.or_eq_true, isDigit_iff, or_right_comm]

/-- The check on a name finds out whether it can be the name of a variable. -/
theorem isVariableName_iff {name : String} : isVariableName name = true ↔ VariableName name := by
  unfold isVariableName VariableName
  cases name.toList with
  | nil => simp
  | cons first rest =>
    simp only [Bool.and_eq_true, List.all_eq_true, isNameStart_iff, isNameRest_iff]
    constructor
    · rintro ⟨hfirst, hrest⟩
      exact ⟨first, rest, rfl, hfirst, hrest⟩
    · rintro ⟨_, _, h, hfirst, hrest⟩
      cases h
      exact ⟨hfirst, hrest⟩

/-- Every character of a name may stand in one. -/
theorem isNameRest_of_mem {name : String} (h : isVariableName name = true) {c : Char}
    (hc : c ∈ name.toList) : isNameRest c = true := by
  obtain ⟨first, rest, hname, hfirst, hrest⟩ := isVariableName_iff.mp h
  rw [hname] at hc
  rcases List.mem_cons.mp hc with rfl | hc
  · exact isNameRest_iff.mpr (Or.inl hfirst)
  · exact isNameRest_iff.mpr (hrest c hc)

/-- A name made of the permitted characters has no NUL. -/
theorem hasNul_of_isVariableName {name : String} (h : isVariableName name = true) :
    hasNul name = false := by
  rw [hasNul_eq_false_iff]
  intro hnul
  exact absurd (isNameRest_of_mem h hnul) (by decide)

/-- A variable breaks no rule if its name can be one and is new, and its value has no NUL. -/
theorem Variable.violation?_eq_none_iff {var : Variable} {earlier : List String} :
    var.violation? earlier = none ↔
      VariableName var.name ∧ '\x00' ∉ var.value.toList ∧ var.name ∉ earlier := by
  rw [violation?, ← isVariableName_iff, ← hasNul_eq_false_iff]
  cases isVariableName var.name with
  | false => simp
  | true =>
    cases GuardedLaunch.hasNul var.value with
    | true => simp
    | false => simp

theorem envViolation?_cons_eq_none_iff {earlier : List String} {first : Variable}
    {rest : List Variable} :
    envViolation? earlier (first :: rest) = none ↔
      first.violation? earlier = none ∧ envViolation? (first.name :: earlier) rest = none := by
  rw [envViolation?]
  cases first.violation? earlier with
  | some violation => simp
  | none => simp

/-- Variables break no rule if each of them can stand alone and their names are new and
distinct. Each name is compared with the earlier ones only, and that is enough: of two names
that are the same, the later one is found. -/
theorem envViolation?_eq_none_iff {earlier : List String} {vars : List Variable} :
    envViolation? earlier vars = none ↔
      (∀ var ∈ vars, VariableName var.name) ∧ (∀ var ∈ vars, '\x00' ∉ var.value.toList) ∧
        (vars.map Variable.name).Nodup ∧ ∀ var ∈ vars, var.name ∉ earlier := by
  induction vars generalizing earlier with
  | nil => simp [envViolation?]
  | cons first rest ih =>
    rw [envViolation?_cons_eq_none_iff, Variable.violation?_eq_none_iff, ih, List.map_cons,
      List.nodup_cons, List.forall_mem_cons, List.forall_mem_cons, List.forall_mem_cons]
    constructor
    · rintro ⟨⟨hname, hvalue, hnew⟩, names, values, distinct, fresh⟩
      -- The first name is among the earlier ones wherever it might come again.
      have apart : first.name ∉ rest.map Variable.name := by
        intro hmem
        obtain ⟨var, hvar, hsame⟩ := List.mem_map.mp hmem
        exact fresh var hvar (List.mem_cons.mpr (Or.inl hsame))
      exact ⟨⟨hname, names⟩, ⟨hvalue, values⟩, ⟨apart, distinct⟩, hnew,
        fun var hvar hmem => fresh var hvar (List.mem_cons_of_mem _ hmem)⟩
    · rintro ⟨⟨hname, names⟩, ⟨hvalue, values⟩, ⟨apart, distinct⟩, hnew, fresh⟩
      refine ⟨⟨hname, hvalue, hnew⟩, names, values, distinct, fun var hvar hmem => ?_⟩
      rcases List.mem_cons.mp hmem with hsame | hmem
      · exact apart (List.mem_map.mpr ⟨var, hvar, hsame⟩)
      · exact fresh var hvar hmem

/-- Variables without a violation can be handed over. -/
theorem hasNul_of_envViolation? {earlier : List String} {vars : List Variable}
    (h : envViolation? earlier vars = none) : ∀ var ∈ vars, var.hasNul = false := by
  obtain ⟨names, values, -, -⟩ := envViolation?_eq_none_iff.mp h
  intro var hvar
  rw [Variable.hasNul, hasNul_of_isVariableName (isVariableName_iff.mpr (names var hvar)),
    hasNul_eq_false_iff.mpr (values var hvar)]
  rfl

/-! ## The verdicts -/

namespace Profile

/-- A validation reports the first broken rule. -/
theorem validate_error_iff {profile : Profile} {failure : Failure} :
    profile.validate = .error failure ↔
      ∃ violation, profile.violation? = some violation ∧ failure = violation.failure := by
  rw [validate]
  cases hviolation : profile.violation? with
  | none =>
    constructor
    · intro h
      cases h
    · rintro ⟨violation, h, -⟩
      cases h
  | some violation =>
    constructor
    · intro h
      exact ⟨violation, rfl, (Except.error.inj h).symm⟩
    · rintro ⟨_, h, rfl⟩
      rw [← Option.some.inj h]

/-- A profile that passes has no violation. -/
theorem violation?_of_validate {profile : Profile} (h : profile.validate = .ok ()) :
    profile.violation? = none := by
  rw [validate] at h
  cases hviolation : profile.violation? with
  | none => rfl
  | some violation =>
    rw [hviolation] at h
    cases h

/-- A profile passes when its paths are absolute, there is a script, and its variables break
no rule. -/
theorem validate_ok_iff {profile : Profile} :
    profile.validate = .ok () ↔
      AbsolutePath profile.interpreter ∧ profile.scripts ≠ [] ∧
        (∀ script ∈ profile.scripts, AbsolutePath script) ∧
        envViolation? [] profile.env = none := by
  constructor
  · intro h
    have hviolation := violation?_of_validate h
    rw [violation?] at hviolation
    by_cases hpath : isAbsolutePath profile.interpreter = true
    · by_cases hscripts : profile.scripts = []
      · simp [hpath, hscripts] at hviolation
      · cases hfind : profile.scripts.find? (!isAbsolutePath ·) with
        | some script => simp [hpath, hscripts, hfind] at hviolation
        | none =>
          refine ⟨isAbsolutePath_iff.mp hpath, hscripts, fun script hscript => ?_, ?_⟩
          · have hkept := List.find?_eq_none.mp hfind script hscript
            rw [Bool.not_eq_true, Bool.not_eq_false'] at hkept
            exact isAbsolutePath_iff.mp hkept
          · simpa [hpath, hscripts, hfind] using hviolation
    · simp [hpath] at hviolation
  · rintro ⟨hpath, hscripts, habsolute, henv⟩
    have hfind : profile.scripts.find? (!isAbsolutePath ·) = none := by
      refine List.find?_eq_none.mpr fun script hscript => ?_
      rw [isAbsolutePath_iff.mpr (habsolute script hscript)]
      exact Bool.false_ne_true
    have hviolation : profile.violation? = none := by
      rw [violation?, isAbsolutePath_iff.mpr hpath, hfind]
      simp [hscripts, henv]
    rw [validate, hviolation]

/-- The interpreter of a validated profile has no NUL. -/
theorem interpreter_of_validate {profile : Profile} (h : profile.validate = .ok ()) :
    hasNul profile.interpreter = false := by
  obtain ⟨⟨-, hclean⟩, -⟩ := validate_ok_iff.mp h
  exact hasNul_eq_false_iff.mpr hclean

/-- No variable of a validated profile has a NUL. -/
theorem variables_of_validate {profile : Profile} (h : profile.validate = .ok ()) :
    ∀ var ∈ profile.env, var.hasNul = false := by
  obtain ⟨-, -, -, henv⟩ := validate_ok_iff.mp h
  exact hasNul_of_envViolation? henv

/-- The profile of the system is valid. -/
theorem validate_system : Profile.system.validate = .ok () := by
  rw [validate, show Profile.system.violation? = none by decide +kernel]

/-- The profile of the separate installation is valid. -/
theorem validate_conda : Profile.conda.validate = .ok () := by
  rw [validate, show Profile.conda.violation? = none by decide +kernel]

/-! ## The rules -/

/-- The rules for profiles, those for variables in the form in which they are checked. -/
theorem wellFormed_iff {profile : Profile} :
    profile.WellFormed ↔
      AbsolutePath profile.interpreter ∧ profile.scripts ≠ [] ∧
        (∀ script ∈ profile.scripts, AbsolutePath script) ∧
        envViolation? [] profile.env = none := by
  rw [envViolation?_eq_none_iff]
  constructor
  · intro rules
    exact ⟨rules.interpreter, rules.scripts_nonempty, rules.scripts, rules.names, rules.values,
      rules.distinct, fun _ _ => List.not_mem_nil⟩
  · rintro ⟨interpreter, scripts_nonempty, scripts, names, values, distinct, -⟩
    exact ⟨interpreter, scripts_nonempty, scripts, names, values, distinct⟩

instance : DecidablePred AbsolutePath := fun _ => decidable_of_iff _ isAbsolutePath_iff

instance (profile : Profile) : Decidable profile.WellFormed :=
  decidable_of_iff _ wellFormed_iff.symm

/-- A validation accepts the profiles that satisfy the rules and no others, and the others it
declares to be unusable. -/
theorem validate_decides_wellFormed (profile : Profile) :
    (profile.validate = .ok () ↔ profile.WellFormed) ∧
      (profile.validate = .ok () ∨
        ∃ reason, profile.validate = .error (.profileUnusable reason)) := by
  refine ⟨validate_ok_iff.trans wellFormed_iff.symm, ?_⟩
  cases hverdict : profile.validate with
  | ok => exact Or.inl rfl
  | error failure =>
    obtain ⟨violation, -, rfl⟩ := validate_error_iff.mp hverdict
    exact Or.inr ⟨violation.message, rfl⟩

/-- The two names that are the same have another one between them. -/
example :
    let lang : Variable := ⟨"LANG", "C"⟩
    ¬ { system with env := [lang, ⟨"HOME", "/"⟩, lang] : Profile }.WellFormed := by
  decide +kernel

end Profile

end GuardedLaunch
