import GuardedLaunch.Proofs.Validation

/-!
# The violation that is reported

A profile may break several rules, and one variable may break several by itself. A validation
reports one of them. Every rule is about a place of the profile, the places are in an order,
and what is broken at a place can be seen from the profile up to there: the violation that is
reported is the one at the first place where a rule is broken, and whatever the profile has
behind that place, it stays.

- `Site`, `Site.Before`: the places of a profile, and their order.
- `Profile.BrokenAt`: a rule that is broken at a place, whatever comes before or after.
- `Profile.FirstBroken`: the first such place.
- `Violation.Reads`, `Profile.FirstTold`: the words for a broken rule, and for the first one.
- `Profile.violation?_eq_some_iff`: a validation finds the rule that is broken there.
- `Profile.AgreesUpTo`: profiles that are the same up to a place.
- `Profile.FirstBroken.of_agrees`: what is broken first in a profile is broken first in the
  profiles that are the same up to there.
- `Profile.FirstBroken.validate_cut`: without it and what is behind it, nothing is broken.
-/

namespace GuardedLaunch

/-! ## Places -/

/-- A place of a profile: the interpreter, the list of scripts as a whole, a script, or a
variable. -/
inductive Site where
  | interpreter
  | scripts
  | script (index : Nat)
  | entry (index : Nat)
  deriving DecidableEq

namespace Site

/-- The order of the places. -/
def Before : Site → Site → Prop
  | interpreter, scripts => True
  | interpreter, script _ => True
  | interpreter, entry _ => True
  | scripts, script _ => True
  | scripts, entry _ => True
  | script i, script j => i < j
  | script _, entry _ => True
  | entry i, entry j => i < j
  | _, _ => False

section

variable {P : Site → Prop} {index : Nat}

theorem forall_before_interpreter : ∀ site, Before site .interpreter → P site := by
  intro site before
  cases site <;> exact before.elim

theorem forall_before_scripts_iff :
    (∀ site, Before site .scripts → P site) ↔ P .interpreter := by
  constructor
  · intro h
    exact h .interpreter trivial
  · intro h site before
    cases site with
    | interpreter => exact h
    | _ => exact before.elim

theorem forall_before_script_iff :
    (∀ site, Before site (.script index) → P site) ↔
      P .interpreter ∧ P .scripts ∧ ∀ j < index, P (.script j) := by
  constructor
  · intro h
    exact ⟨h .interpreter trivial, h .scripts trivial, fun j hj => h (.script j) hj⟩
  · rintro ⟨interpreter, scripts, script⟩ site before
    cases site with
    | interpreter => exact interpreter
    | scripts => exact scripts
    | script j => exact script j before
    | entry _ => exact before.elim

theorem forall_before_entry_iff :
    (∀ site, Before site (.entry index) → P site) ↔
      P .interpreter ∧ P .scripts ∧ (∀ j, P (.script j)) ∧ ∀ j < index, P (.entry j) := by
  constructor
  · intro h
    exact ⟨h .interpreter trivial, h .scripts trivial, fun j => h (.script j) trivial,
      fun j hj => h (.entry j) hj⟩
  · rintro ⟨interpreter, scripts, script, entry⟩ site before
    cases site with
    | interpreter => exact interpreter
    | scripts => exact scripts
    | script j => exact script j
    | entry j => exact entry j before

end

end Site

/-! ## Broken rules -/

/-- A rule that a variable breaks behind some names. A bad value counts only under a good name,
and a repeated name only with a good value. -/
inductive Variable.Breaks (var : Variable) (earlier : List String) : Violation → Prop where
  | name (bad : ¬ VariableName var.name) : Breaks var earlier (.invalidName var.name)
  | value (name : VariableName var.name) (nul : '\x00' ∈ var.value.toList) :
    Breaks var earlier (.valueHasNul var.name)
  | repetition (name : VariableName var.name) (clean : '\x00' ∉ var.value.toList)
    (again : var.name ∈ earlier) : Breaks var earlier (.repeatedName var.name)

/-- The check on a variable finds the rule that it breaks. -/
theorem Variable.violation?_eq_some_iff {var : Variable} {earlier : List String}
    {violation : Violation} :
    var.violation? earlier = some violation ↔ var.Breaks earlier violation := by
  have hname : isVariableName var.name = false ↔ ¬ VariableName var.name := by
    rw [← Bool.not_eq_true, isVariableName_iff]
  have hvalue : GuardedLaunch.hasNul var.value = true ↔ '\x00' ∈ var.value.toList := by
    rw [GuardedLaunch.hasNul, List.contains_iff_mem]
  constructor
  · intro h
    rw [violation?] at h
    split at h
    · next bad =>
      rw [← Option.some.inj h]
      exact .name (hname.mp ((Bool.not_eq_true' _).mp bad))
    · next good =>
      rw [Bool.not_eq_true', Bool.not_eq_false, isVariableName_iff] at good
      split at h
      · next nul =>
        rw [← Option.some.inj h]
        exact .value good (hvalue.mp nul)
      · next clean =>
        split at h
        · next again =>
          rw [← Option.some.inj h]
          exact .repetition good (mt hvalue.mpr clean) again
        · cases h
  · intro h
    cases h with
    | name bad => simp [violation?, hname.mpr bad]
    | value good nul => simp [violation?, isVariableName_iff.mpr good, hvalue.mpr nul]
    | repetition good clean again =>
      simp [violation?, isVariableName_iff.mpr good, mt hvalue.mp clean, again]

/-- A rule that is broken at a place. What a profile has at other places makes no difference to
it, but for the names that a name repeats. -/
inductive Profile.BrokenAt (profile : Profile) : Site → Violation → Prop where
  | interpreter (bad : ¬ AbsolutePath profile.interpreter) :
    BrokenAt profile .interpreter (.interpreterNotAbsolute profile.interpreter)
  | scripts (empty : profile.scripts = []) : BrokenAt profile .scripts .noScripts
  | script {index : Nat} {path : String} (found : profile.scripts[index]? = some path)
    (bad : ¬ AbsolutePath path) : BrokenAt profile (.script index) (.scriptNotAbsolute path)
  | entry {index : Nat} {var : Variable} {violation : Violation}
    (found : profile.env[index]? = some var)
    (breaks : var.Breaks ((profile.env.take index).map Variable.name) violation) :
    BrokenAt profile (.entry index) violation

/-- No rule is broken at a place. -/
def Profile.Unbroken (profile : Profile) (site : Site) : Prop :=
  ∀ violation, ¬ profile.BrokenAt site violation

/-- The first place at which a rule is broken. -/
structure Profile.FirstBroken (profile : Profile) (site : Site) (violation : Violation) : Prop where
  broken : profile.BrokenAt site violation
  first : ∀ earlier, earlier.Before site → profile.Unbroken earlier

/-! ## What is said of a broken rule -/

/-- The words for a rule that a validation may find broken. Whatever is at fault is quoted, but
for the name of a variable whose value or whose place is. -/
inductive Violation.Reads : Violation → String → Prop where
  | interpreter {path : String} :
    Reads (.interpreterNotAbsolute path)
      ("interpreter " ++ quoted path ++ " is not an absolute path")
  | scripts : Reads .noScripts "no permitted scripts"
  | script {path : String} :
    Reads (.scriptNotAbsolute path) ("script " ++ quoted path ++ " is not an absolute path")
  | name {name : String} :
    Reads (.invalidName name) ("invalid environment variable name " ++ quoted name)
  | value {name : String} : Reads (.valueHasNul name) ("value of " ++ name ++ " contains NUL")
  | repetition {name : String} : Reads (.repeatedName name) (name ++ " listed twice")

/-- There are no other words for it. -/
theorem Violation.Reads.eq_message {violation : Violation} {text : String}
    (reads : violation.Reads text) : text = violation.message := by
  cases reads with
  | interpreter | scripts | script | name | value | repetition => rfl

/-- What is broken at a place can be put into words. -/
theorem Profile.BrokenAt.reads {profile : Profile} {site : Site} {violation : Violation}
    (broken : profile.BrokenAt site violation) : violation.Reads violation.message := by
  cases broken with
  | interpreter bad => exact .interpreter
  | scripts empty => exact .scripts
  | script found bad => exact .script
  | entry found breaks =>
    cases breaks with
    | name bad => exact .name
    | value name nul => exact .value
    | repetition name clean again => exact .repetition

/-- What is to be said of a profile: the first place at which a rule is broken, in the words for
that rule. -/
def Profile.FirstTold (profile : Profile) (site : Site) (text : String) : Prop :=
  ∃ violation, profile.FirstBroken site violation ∧ violation.Reads text

/-! ## What a validation finds -/

/-- The check on a variable asks of the names before it only whether its own is among them. -/
theorem Variable.violation?_congr {var : Variable} {earlier other : List String}
    (same : var.name ∈ earlier ↔ var.name ∈ other) :
    var.violation? earlier = var.violation? other := by
  rw [violation?, violation?]
  simp only [same]

/-- The first variable that breaks a rule behind the names before it. -/
theorem envViolation?_eq_some_iff {earlier : List String} {vars : List Variable}
    {violation : Violation} :
    envViolation? earlier vars = some violation ↔
      ∃ (index : Nat) (var : Variable), vars[index]? = some var ∧
        var.violation? ((vars.take index).map Variable.name ++ earlier) = some violation ∧
        ∀ j < index, ∀ other : Variable, vars[j]? = some other →
          other.violation? ((vars.take j).map Variable.name ++ earlier) = none := by
  induction vars generalizing earlier with
  | nil => simp [envViolation?]
  | cons first rest ih =>
    -- Behind the first variable, its name may come before or after the other ones.
    have hnames (index : Nat) (var : Variable) :
        var.violation? (((first :: rest).take (index + 1)).map Variable.name ++ earlier)
          = var.violation? ((rest.take index).map Variable.name ++ first.name :: earlier) := by
      refine Variable.violation?_congr ?_
      rw [List.take_succ_cons, List.map_cons, List.cons_append, List.mem_cons, List.mem_append,
        List.mem_append, List.mem_cons, or_left_comm]
    rw [envViolation?]
    cases hfirst : first.violation? earlier with
    | some found =>
      constructor
      · intro h
        exact ⟨0, first, rfl, hfirst.trans h, fun _ hj => absurd hj (Nat.not_lt_zero _)⟩
      · rintro ⟨index, var, hvar, hviolation, hbefore⟩
        cases index with
        | zero =>
          cases hvar
          exact hfirst.symm.trans hviolation
        | succ index =>
          have hnone : first.violation? earlier = none :=
            hbefore 0 (Nat.succ_pos index) first rfl
          rw [hfirst] at hnone
          cases hnone
    | none =>
      refine ih.trans ⟨?_, ?_⟩
      · rintro ⟨index, var, hvar, hviolation, hbefore⟩
        refine ⟨index + 1, var, hvar, (hnames index var).trans hviolation, ?_⟩
        intro j hj other hother
        cases j with
        | zero =>
          cases hother
          exact hfirst
        | succ j =>
          exact (hnames j other).trans (hbefore j (Nat.lt_of_succ_lt_succ hj) other hother)
      · rintro ⟨index, var, hvar, hviolation, hbefore⟩
        cases index with
        | zero =>
          cases hvar
          cases hfirst.symm.trans hviolation
        | succ index =>
          refine ⟨index, var, hvar, (hnames index var).symm.trans hviolation, ?_⟩
          intro j hj other hother
          exact (hnames j other).symm.trans (hbefore (j + 1) (Nat.succ_lt_succ hj) other hother)

namespace Profile

variable {profile other : Profile} {site : Site} {violation : Violation}

theorem unbroken_interpreter_iff :
    profile.Unbroken .interpreter ↔ AbsolutePath profile.interpreter := by
  constructor
  · intro unbroken
    exact Decidable.byContradiction fun bad => unbroken _ (.interpreter bad)
  · intro absolute violation broken
    cases broken with
    | interpreter bad => exact bad absolute

theorem unbroken_scripts_iff : profile.Unbroken .scripts ↔ profile.scripts ≠ [] := by
  constructor
  · intro unbroken empty
    exact unbroken _ (.scripts empty)
  · intro nonempty violation broken
    cases broken with
    | scripts empty => exact nonempty empty

theorem unbroken_script_iff {index : Nat} :
    profile.Unbroken (.script index) ↔
      ∀ path, profile.scripts[index]? = some path → AbsolutePath path := by
  constructor
  · intro unbroken path found
    exact Decidable.byContradiction fun bad => unbroken _ (.script found bad)
  · intro absolute violation broken
    cases broken with
    | script found bad => exact bad (absolute _ found)

theorem unbroken_entry_iff {index : Nat} :
    profile.Unbroken (.entry index) ↔
      ∀ var, profile.env[index]? = some var →
        var.violation? ((profile.env.take index).map Variable.name) = none := by
  constructor
  · intro unbroken var found
    rw [Option.eq_none_iff_forall_ne_some]
    intro violation h
    exact unbroken violation (.entry found (Variable.violation?_eq_some_iff.mp h))
  · intro clean violation broken
    cases broken with
    | entry found breaks =>
      rw [← Variable.violation?_eq_some_iff, clean _ found] at breaks
      cases breaks

/-- The first script that is not the path of a file. -/
theorem find?_script_eq_some_iff {path : String} :
    profile.scripts.find? (!isAbsolutePath ·) = some path ↔
      ∃ index, profile.scripts[index]? = some path ∧ ¬ AbsolutePath path ∧
        ∀ j < index, profile.Unbroken (.script j) := by
  rw [List.find?_eq_some_iff_getElem, Bool.not_eq_true', ← Bool.not_eq_true, isAbsolutePath_iff]
  constructor
  · rintro ⟨bad, index, hindex, rfl, hbefore⟩
    refine ⟨index, List.getElem?_eq_getElem hindex, bad, fun j hj => ?_⟩
    rw [unbroken_script_iff]
    intro earlier found
    obtain ⟨_, rfl⟩ := List.getElem?_eq_some_iff.mp found
    have hkept := hbefore j hj
    rw [Bool.not_not, isAbsolutePath_iff] at hkept
    exact hkept
  · rintro ⟨index, found, bad, hbefore⟩
    obtain ⟨hindex, rfl⟩ := List.getElem?_eq_some_iff.mp found
    refine ⟨bad, index, hindex, rfl, fun j hj => ?_⟩
    rw [Bool.not_not, isAbsolutePath_iff]
    exact unbroken_script_iff.mp (hbefore j hj) _ (List.getElem?_eq_getElem _)

theorem find?_script_eq_none_iff :
    profile.scripts.find? (!isAbsolutePath ·) = none ↔ ∀ j, profile.Unbroken (.script j) := by
  simp only [List.find?_eq_none, Bool.not_eq_true', Bool.not_eq_false, isAbsolutePath_iff,
    unbroken_script_iff]
  constructor
  · intro absolute j path found
    exact absolute path (List.mem_of_getElem? found)
  · intro absolute path hpath
    obtain ⟨j, found⟩ := List.mem_iff_getElem?.mp hpath
    exact absolute j path found

/-- The first variable that breaks a rule. -/
theorem envViolation?_env_eq_some_iff :
    envViolation? [] profile.env = some violation ↔
      ∃ index, profile.BrokenAt (.entry index) violation ∧
        ∀ j < index, profile.Unbroken (.entry j) := by
  simp only [envViolation?_eq_some_iff, List.append_nil, unbroken_entry_iff]
  constructor
  · rintro ⟨index, var, found, hviolation, hbefore⟩
    exact ⟨index, .entry found (Variable.violation?_eq_some_iff.mp hviolation), hbefore⟩
  · rintro ⟨index, broken, hbefore⟩
    cases broken with
    | entry found breaks =>
      exact ⟨index, _, found, Variable.violation?_eq_some_iff.mpr breaks, hbefore⟩

/-- A validation finds what is broken at the first place. -/
theorem violation?_eq_some_iff :
    profile.violation? = some violation ↔ ∃ site, profile.FirstBroken site violation := by
  constructor
  · intro h
    rw [violation?] at h
    split at h
    · next bad =>
      rw [Bool.not_eq_true', ← Bool.not_eq_true, isAbsolutePath_iff] at bad
      rw [← Option.some.inj h]
      exact ⟨.interpreter, .interpreter bad, Site.forall_before_interpreter⟩
    next good =>
    rw [Bool.not_eq_true', Bool.not_eq_false, isAbsolutePath_iff] at good
    have interpreter := unbroken_interpreter_iff.mpr good
    split at h
    · next empty =>
      rw [← Option.some.inj h]
      exact ⟨.scripts, .scripts (List.isEmpty_iff.mp empty),
        Site.forall_before_scripts_iff.mpr interpreter⟩
    next nonempty =>
    have scripts := unbroken_scripts_iff.mpr (mt List.isEmpty_iff.mpr nonempty)
    split at h
    · next path hfind =>
      obtain ⟨index, found, bad, hbefore⟩ := find?_script_eq_some_iff.mp hfind
      rw [← Option.some.inj h]
      exact ⟨.script index, .script found bad,
        Site.forall_before_script_iff.mpr ⟨interpreter, scripts, hbefore⟩⟩
    next hfind =>
    have script := find?_script_eq_none_iff.mp hfind
    obtain ⟨index, broken, hbefore⟩ := envViolation?_env_eq_some_iff.mp h
    exact ⟨.entry index, broken,
      Site.forall_before_entry_iff.mpr ⟨interpreter, scripts, script, hbefore⟩⟩
  · rintro ⟨site, broken, first⟩
    rw [violation?]
    cases broken with
    | interpreter bad => simp [mt isAbsolutePath_iff.mp bad]
    | scripts empty =>
      have interpreter := unbroken_interpreter_iff.mp (Site.forall_before_scripts_iff.mp first)
      simp [isAbsolutePath_iff.mpr interpreter, empty]
    | script found bad =>
      obtain ⟨interpreter, scripts, script⟩ := Site.forall_before_script_iff.mp first
      rw [unbroken_interpreter_iff] at interpreter
      rw [unbroken_scripts_iff] at scripts
      have hfind := find?_script_eq_some_iff.mpr ⟨_, found, bad, script⟩
      simp [isAbsolutePath_iff.mpr interpreter, scripts, hfind]
    | entry found breaks =>
      obtain ⟨interpreter, scripts, script, entry⟩ := Site.forall_before_entry_iff.mp first
      rw [unbroken_interpreter_iff] at interpreter
      rw [unbroken_scripts_iff] at scripts
      rw [← find?_script_eq_none_iff] at script
      have henv := envViolation?_env_eq_some_iff.mpr ⟨_, .entry found breaks, entry⟩
      simp [isAbsolutePath_iff.mpr interpreter, scripts, script, henv]

/-! ## Profiles that are the same up to a place -/

/-- Two profiles that cannot be told apart by what they have up to a place. Of its scripts as a
whole, a profile shows only whether there are any. -/
def AgreesUpTo (profile other : Profile) : Site → Prop
  | .interpreter => other.interpreter = profile.interpreter
  | .scripts =>
    other.interpreter = profile.interpreter ∧ (other.scripts = [] ↔ profile.scripts = [])
  | .script index =>
    other.interpreter = profile.interpreter ∧
      other.scripts.take (index + 1) = profile.scripts.take (index + 1)
  | .entry index =>
    other.interpreter = profile.interpreter ∧ other.scripts = profile.scripts ∧
      other.env.take (index + 1) = profile.env.take (index + 1)

theorem AgreesUpTo.symm (agrees : profile.AgreesUpTo other site) :
    other.AgreesUpTo profile site := by
  cases site with
  | interpreter => exact Eq.symm agrees
  | scripts => exact ⟨agrees.1.symm, agrees.2.symm⟩
  | script _ => exact ⟨agrees.1.symm, agrees.2.symm⟩
  | entry _ => exact ⟨agrees.1.symm, agrees.2.1.symm, agrees.2.2.symm⟩

/-- Lists with the same beginning have the same shorter beginnings. -/
theorem take_eq_of_take_eq {α : Type} {xs ys : List α} {m n : Nat} (hmn : m ≤ n)
    (h : xs.take n = ys.take n) : xs.take m = ys.take m := by
  rw [← Nat.min_eq_left hmn, ← List.take_take, h, List.take_take]

/-- Profiles that are the same up to a place are the same up to every place before it. -/
theorem AgreesUpTo.of_before {earlier : Site} (agrees : profile.AgreesUpTo other site)
    (before : earlier.Before site) : profile.AgreesUpTo other earlier := by
  cases site with
  | interpreter => cases earlier <;> exact before.elim
  | scripts =>
    cases earlier with
    | interpreter => exact agrees.1
    | _ => exact before.elim
  | script index =>
    obtain ⟨interpreter, scripts⟩ := agrees
    cases earlier with
    | interpreter => exact interpreter
    | scripts =>
      refine ⟨interpreter, ?_⟩
      have hnil (paths : List String) : paths = [] ↔ paths.take (index + 1) = [] := by simp
      rw [hnil, scripts, ← hnil]
    | script j => exact ⟨interpreter, take_eq_of_take_eq (Nat.le_succ_of_le before) scripts⟩
    | entry _ => exact before.elim
  | entry index =>
    obtain ⟨interpreter, scripts, env⟩ := agrees
    cases earlier with
    | interpreter => exact interpreter
    | scripts => exact ⟨interpreter, by rw [scripts]⟩
    | script j => exact ⟨interpreter, by rw [scripts]⟩
    | entry j =>
      exact ⟨interpreter, scripts, take_eq_of_take_eq (Nat.le_succ_of_le before) env⟩

/-- What is broken at a place is seen from the profile up to there. -/
theorem BrokenAt.of_agrees (agrees : profile.AgreesUpTo other site)
    (broken : profile.BrokenAt site violation) : other.BrokenAt site violation := by
  have hfound {α : Type} {xs ys : List α} {index : Nat}
      (h : xs.take (index + 1) = ys.take (index + 1)) : xs[index]? = ys[index]? := by
    rw [← List.getElem?_take_of_lt (Nat.lt_succ_self index), h,
      List.getElem?_take_of_lt (Nat.lt_succ_self index)]
  cases broken with
  | interpreter bad =>
    have interpreter : other.interpreter = profile.interpreter := agrees
    rw [← interpreter] at bad ⊢
    exact .interpreter bad
  | scripts empty => exact .scripts (agrees.2.mpr empty)
  | script found bad => exact .script ((hfound agrees.2).trans found) bad
  | entry found breaks =>
    obtain ⟨-, -, env⟩ := agrees
    rw [← take_eq_of_take_eq (Nat.le_succ _) env] at breaks
    exact .entry ((hfound env).trans found) breaks

theorem BrokenAt.entry_lt {index : Nat} (broken : profile.BrokenAt (.entry index) violation) :
    index < profile.env.length := by
  cases broken with
  | entry found _ => exact (List.getElem?_eq_some_iff.mp found).1

theorem BrokenAt.script_lt {index : Nat} (broken : profile.BrokenAt (.script index) violation) :
    index < profile.scripts.length := by
  cases broken with
  | script found _ => exact (List.getElem?_eq_some_iff.mp found).1

/-- Whatever comes behind the first place where a rule is broken, it stays the first. -/
theorem FirstBroken.of_agrees (agrees : profile.AgreesUpTo other site)
    (first : profile.FirstBroken site violation) : other.FirstBroken site violation where
  broken := first.broken.of_agrees agrees
  first earlier before _ broken :=
    first.first earlier before _ (broken.of_agrees (agrees.of_before before).symm)

/-- A validation says what is to be said, and nothing else. -/
theorem validate_error_iff_firstTold {failure : Failure} :
    profile.validate = .error failure ↔
      ∃ site text, profile.FirstTold site text ∧ failure = .profileUnusable text := by
  rw [validate_error_iff]
  constructor
  · rintro ⟨violation, h, rfl⟩
    obtain ⟨site, first⟩ := violation?_eq_some_iff.mp h
    exact ⟨site, violation.message, ⟨violation, first, first.broken.reads⟩, rfl⟩
  · rintro ⟨site, text, ⟨violation, first, reads⟩, rfl⟩
    refine ⟨violation, violation?_eq_some_iff.mpr ⟨site, first⟩, ?_⟩
    rw [reads.eq_message]
    rfl

theorem FirstTold.validate_eq {text : String} (told : profile.FirstTold site text) :
    profile.validate = .error (.profileUnusable text) :=
  validate_error_iff_firstTold.mpr ⟨site, text, told, rfl⟩

/-- Without the variable that breaks a rule first, and without those behind it, no rule is
broken. -/
theorem FirstBroken.validate_cut {index : Nat}
    (first : profile.FirstBroken (.entry index) violation) :
    { profile with env := profile.env.take index : Profile }.validate = .ok () := by
  have hcut : { profile with env := profile.env.take index : Profile }.violation? = none := by
    rw [Option.eq_none_iff_forall_ne_some]
    intro other h
    obtain ⟨site, broken, -⟩ := violation?_eq_some_iff.mp h
    -- The rule is broken before the cut, where the whole profile is the same.
    have before : site.Before (.entry index) := by
      cases broken with
      | entry found _ =>
        rw [List.getElem?_take, Option.ite_none_right_eq_some] at found
        exact found.1
      | _ => trivial
    have agrees :
        { profile with env := profile.env.take index : Profile }.AgreesUpTo profile site := by
      cases site with
      | interpreter => rfl
      | scripts => exact ⟨rfl, Iff.rfl⟩
      | script _ => exact ⟨rfl, rfl⟩
      | entry j => exact ⟨rfl, rfl, by rw [List.take_take, Nat.min_eq_left before]⟩
    exact first.first site before other (broken.of_agrees agrees)
  rw [validate, hcut]

/-- Behind a good interpreter and good scripts, a variable that breaks a rule is told of if those
before it break none. -/
theorem firstTold_entry {index : Nat} (interpreter : AbsolutePath profile.interpreter)
    (nonempty : profile.scripts ≠ [])
    (scripts : profile.scripts.find? (!isAbsolutePath ·) = none)
    (clean : ∀ j < index, (profile.env[j]?.bind
      (·.violation? ((profile.env.take j).map Variable.name))) = none)
    (breaks : (profile.env[index]?.bind
      (·.violation? ((profile.env.take index).map Variable.name))) = some violation) :
    profile.FirstTold (.entry index) violation.message := by
  obtain ⟨var, found, breaks⟩ := Option.bind_eq_some_iff.mp breaks
  have broken : profile.BrokenAt (.entry index) violation :=
    .entry found (Variable.violation?_eq_some_iff.mp breaks)
  have entries : ∀ j < index, profile.Unbroken (.entry j) := by
    intro j hj
    rw [unbroken_entry_iff]
    exact Option.bind_eq_none_iff.mp (clean j hj)
  exact ⟨violation, ⟨broken, Site.forall_before_entry_iff.mpr
    ⟨unbroken_interpreter_iff.mpr interpreter, unbroken_scripts_iff.mpr nonempty,
      find?_script_eq_none_iff.mp scripts, entries⟩⟩, broken.reads⟩

/-- The rule that a validation reports is the one that is broken at the first place where one is,
whatever else is broken behind it. A profile that is cut off before its first bad variable
passes; cut off after it, the profile is rejected with the same text however its variables go
on. A bad script is reported whatever scripts follow it, and whatever the variables are. -/
theorem validate_reports_first (profile : Profile) :
    (∀ failure, profile.validate = .error failure ↔
      ∃ site text, profile.FirstTold site text ∧ failure = .profileUnusable text) ∧
    (∀ index text, profile.FirstTold (.entry index) text →
      { profile with env := profile.env.take index : Profile }.validate = .ok () ∧
      ∀ more, { profile with env := profile.env.take (index + 1) ++ more : Profile }.validate
        = .error (.profileUnusable text)) ∧
    ∀ index text, profile.FirstTold (.script index) text →
      ∀ more env,
        { profile with
            scripts := profile.scripts.take (index + 1) ++ more, env : Profile }.validate
          = .error (.profileUnusable text) := by
  refine ⟨fun failure => validate_error_iff_firstTold, ?_, ?_⟩
  · rintro index text ⟨violation, first, reads⟩
    refine ⟨first.validate_cut, fun more => ?_⟩
    have env : (profile.env.take (index + 1) ++ more).take (index + 1)
        = profile.env.take (index + 1) :=
      List.take_left' (List.length_take_of_le first.broken.entry_lt)
    have agrees : profile.AgreesUpTo
        { profile with env := profile.env.take (index + 1) ++ more } (.entry index) :=
      ⟨rfl, rfl, env⟩
    exact FirstTold.validate_eq ⟨violation, first.of_agrees agrees, reads⟩
  · rintro index text ⟨violation, first, reads⟩ more env
    have scripts : (profile.scripts.take (index + 1) ++ more).take (index + 1)
        = profile.scripts.take (index + 1) :=
      List.take_left' (List.length_take_of_le first.broken.script_lt)
    have agrees : profile.AgreesUpTo
        { profile with scripts := profile.scripts.take (index + 1) ++ more, env }
        (.script index) :=
      ⟨rfl, scripts⟩
    exact FirstTold.validate_eq ⟨violation, first.of_agrees agrees, reads⟩

/-- Profiles that break several rules each. A bad name is reported before the bad value under it
and before a name that is repeated behind it, a bad value before the repetition of the name it
stands under, and a repetition before a bad name behind it; of two scripts that are not absolute
the earlier one is reported, and an empty list of scripts or a bad interpreter before any
variable. -/
theorem validate_reports_first_texts :
    let lang : Variable := ⟨"LANG", "C"⟩
    let bad : Variable := ⟨"1A", "\x00"⟩
    let masking : Profile := { system with env := [lang, bad, lang] }
    let cut : Profile := { system with env := [lang, ⟨"LANG", "\x00"⟩, bad] }
    let twice : Profile := { system with env := [lang, lang, bad] }
    let relative : Profile := { masking with scripts := ["/a", "b", "c"] }
    let empty : Profile := { masking with scripts := [] }
    let bare : Profile := { empty with interpreter := "python" }
    let name := "invalid environment variable name \"1A\""
    let script := "script \"b\" is not an absolute path"
    masking.validate = .error (.profileUnusable name) ∧
      { masking with env := [lang] : Profile }.validate = .ok () ∧
      { masking with env := [lang, bad, ⟨"", "\x00"⟩] : Profile }.validate
        = .error (.profileUnusable name) ∧
      cut.validate = .error (.profileUnusable "value of LANG contains NUL") ∧
      twice.validate = .error (.profileUnusable "LANG listed twice") ∧
      relative.validate = .error (.profileUnusable script) ∧
      { relative with scripts := ["/a", "b", ""], env := [] : Profile }.validate
        = .error (.profileUnusable script) ∧
      empty.validate = .error (.profileUnusable "no permitted scripts") ∧
      bare.validate
        = .error (.profileUnusable "interpreter \"python\" is not an absolute path") := by
  intro lang bad masking cut twice relative empty bare name script
  have interpreter : AbsolutePath system.interpreter := by decide +kernel
  have scripts : system.scripts.find? (!isAbsolutePath ·) = none := by decide +kernel
  have entry (vars : List Variable) (violation : Violation) {index : Nat} {text : String} clean
      breaks (words : violation.message = text) :
      { system with env := vars : Profile }.FirstTold (.entry index) text :=
    words ▸ firstTold_entry interpreter (List.cons_ne_nil _ _) scripts clean breaks
  have atName : masking.FirstTold (.entry 1) name :=
    entry [lang, bad, lang] (.invalidName "1A") (by decide +kernel) (by decide +kernel)
      (by decide +kernel)
  have atValue : cut.FirstTold (.entry 1) "value of LANG contains NUL" :=
    entry [lang, ⟨"LANG", "\x00"⟩, bad] (.valueHasNul "LANG") (by decide +kernel)
      (by decide +kernel) (by decide +kernel)
  have atRepetition : twice.FirstTold (.entry 1) "LANG listed twice" :=
    entry [lang, lang, bad] (.repeatedName "LANG") (by decide +kernel) (by decide +kernel)
      (by decide +kernel)
  have atScript : relative.FirstTold (.script 1) script := by
    have words : script = "script " ++ quoted "b" ++ " is not an absolute path" := by
      decide +kernel
    have before : ∀ j < 1, relative.Unbroken (.script j) := by
      intro j hj
      obtain rfl := Nat.lt_one_iff.mp hj
      rw [unbroken_script_iff]
      rintro _ ⟨rfl⟩
      decide +kernel
    rw [words]
    exact ⟨_, ⟨.script rfl (by decide +kernel), Site.forall_before_script_iff.mpr
      ⟨unbroken_interpreter_iff.mpr interpreter, unbroken_scripts_iff.mpr (List.cons_ne_nil _ _),
        before⟩⟩, .script⟩
  have atScripts : empty.FirstTold .scripts "no permitted scripts" :=
    ⟨_, ⟨.scripts rfl, Site.forall_before_scripts_iff.mpr
      (unbroken_interpreter_iff.mpr interpreter)⟩, .scripts⟩
  have atInterpreter : bare.FirstTold .interpreter
      "interpreter \"python\" is not an absolute path" := by
    have words : "interpreter \"python\" is not an absolute path"
        = "interpreter " ++ quoted "python" ++ " is not an absolute path" := by decide +kernel
    rw [words]
    exact ⟨_, ⟨.interpreter (by decide +kernel), Site.forall_before_interpreter⟩, .interpreter⟩
  obtain ⟨reported, entries, -⟩ := validate_reports_first masking
  obtain ⟨before, behind⟩ := entries 1 name atName
  obtain ⟨reportedScript, -, scriptsBehind⟩ := validate_reports_first relative
  exact ⟨(reported _).mpr ⟨_, _, atName, rfl⟩, before, behind [⟨"", "\x00"⟩],
    ((validate_reports_first cut).1 _).mpr ⟨_, _, atValue, rfl⟩,
    ((validate_reports_first twice).1 _).mpr ⟨_, _, atRepetition, rfl⟩,
    (reportedScript _).mpr ⟨_, _, atScript, rfl⟩, scriptsBehind 1 script atScript [""] [],
    ((validate_reports_first empty).1 _).mpr ⟨_, _, atScripts, rfl⟩,
    ((validate_reports_first bare).1 _).mpr ⟨_, _, atInterpreter, rfl⟩⟩

end Profile

end GuardedLaunch
