import GuardedLaunch.Profile.Shipped
import GuardedLaunch.Proofs.Environment
import GuardedLaunch.Proofs.Spelling
import Mathlib.Data.List.TakeWhile

/-!
# The variables in an environment

What the interpreter is handed is a list of byte strings, each a name, an equals sign and a
value. A value may hold equals signs of its own, so an entry is read by splitting it at its
first one. For any profile that can be handed over this finds the part of each name before its
first equals sign; where the names have passed the validation, it finds the names and values
themselves, and nothing of the profile's variables is lost.

- `Variable.ofEntry?`, `Environment.lookup`: reading an entry, and looking a name up.
- `Environment.ofProfile_error_iff`: the first variable that cannot be handed over.
- `Variable.ofEntry?_entry`, `Environment.lookup_eq`: what is found in the entries of variables
  whose names have no equals sign.
- `Lists`, `Recovers`: what is claimed of an environment, without and with a validation.
-/

namespace GuardedLaunch

/-! ## Reading entries -/

/-- A variable as it is read from an entry: the first equals sign is the end of the name, and
both parts have to spell a text. -/
def Variable.ofEntry? (entry : Bytes) : Option Variable :=
  match entry.dropWhile (· ≠ 0x3D) with
  | [] => none
  | _ :: rest =>
    match decode? (entry.takeWhile (· ≠ 0x3D)), decode? rest with
    | some name, some value => some ⟨name, value⟩
    | _, _ => none

/-- The values that stand under a name: what follows the name and an equals sign in the entries
that begin so. -/
def Environment.lookup (env : Environment) (name : Bytes) : List Bytes :=
  env.block.filterMap ((name ++ [0x3D]).isPrefixOf? ·)

/-- A text has the byte of an equals sign where it has an equals sign. -/
theorem equals_mem_utf8_iff (text : String) : 0x3D ∈ utf8 text ↔ '=' ∈ text.toList := by
  have hcount := count_decodeLossy (c := '=') (by decide) (by decide) (utf8 text)
  rw [decodeLossy_utf8] at hcount
  have hbyte : UInt8.ofNat '='.toNat = 0x3D := by decide
  rw [← List.count_pos_iff, ← List.count_pos_iff, hcount, hbyte]

/-- A name without the sign is found whole. -/
theorem takeWhile_of_not_mem {α : Type} [DecidableEq α] {sign : α} {name : List α}
    (plain : sign ∉ name) : name.takeWhile (· ≠ sign) = name := by
  rw [List.takeWhile_eq_self_iff]
  intro c hc
  rw [decide_eq_true_iff]
  rintro rfl
  exact plain hc

section

variable {name : Bytes} (plain : 0x3D ∉ name) (value : Bytes)

include plain

/-- What stands before the first equals sign of an entry. -/
theorem takeWhile_entry : (name ++ 0x3D :: value).takeWhile (· ≠ 0x3D) = name := by
  rw [takeWhile_sign, takeWhile_of_not_mem plain]

/-- And what stands from there on. -/
theorem dropWhile_entry : (name ++ 0x3D :: value).dropWhile (· ≠ 0x3D) = 0x3D :: value := by
  have hentry := List.takeWhile_append_dropWhile (p := (· ≠ 0x3D)) (l := name ++ 0x3D :: value)
  rw [takeWhile_entry plain value] at hentry
  exact List.append_cancel_left hentry

/-- An entry can be split in one way only. -/
theorem entry_inj {other value' : Bytes} (plain' : 0x3D ∉ other)
    (same : name ++ 0x3D :: value = other ++ 0x3D :: value') : name = other ∧ value = value' := by
  have hname := congrArg (List.takeWhile (· ≠ 0x3D)) same
  have hvalue := congrArg (List.dropWhile (· ≠ 0x3D)) same
  rw [takeWhile_entry plain, takeWhile_entry plain'] at hname
  rw [dropWhile_entry plain, dropWhile_entry plain'] at hvalue
  exact ⟨hname, List.tail_eq_of_cons_eq hvalue⟩

end

namespace Variable

section

variable {var : Variable} (plain : '=' ∉ var.name.toList)

include plain

/-- A variable is read from its entry as it is, whatever its value. -/
theorem ofEntry?_entry : ofEntry? (utf8 var.entry) = some var := by
  have plain := mt (equals_mem_utf8_iff _).mp plain
  rw [utf8_entry, ofEntry?, dropWhile_entry plain, takeWhile_entry plain]
  simp only [decode?_eq_some_iff.mpr rfl]

/-- The value of a variable stands under its own name, and under no other that has no equals
sign. -/
theorem isPrefixOf?_entry {name : String} (h : '=' ∉ name.toList) :
    (utf8 name ++ [0x3D]).isPrefixOf? (utf8 var.entry)
      = if var.name = name then some (utf8 var.value) else none := by
  rw [utf8_entry]
  split
  · next same =>
    rw [List.isPrefixOf?_eq_some_iff_append_eq, same, List.append_assoc, List.singleton_append]
  · next other =>
    rw [Option.eq_none_iff_forall_not_mem]
    intro value hvalue
    have happend := List.isPrefixOf?_eq_some_iff_append_eq.mp hvalue
    rw [List.append_assoc, List.singleton_append] at happend
    obtain ⟨hname, -⟩ := entry_inj (mt (equals_mem_utf8_iff _).mp h) value
      (mt (equals_mem_utf8_iff _).mp plain) happend
    exact other (utf8_injective hname).symm

end

end Variable

/-! ## Environments of profiles -/

namespace Environment

/-- Every entry of an environment spells a text, so that none is dropped where only those that
do are kept. -/
theorem filterMap_decode?_block (env : Environment) :
    env.block.filterMap decode? = env.entries := by
  have hdecode : decode? ∘ utf8 = some := by
    funext entry
    exact decode?_eq_some_iff.mpr rfl
  rw [block, List.filterMap_map, hdecode, List.filterMap_some]

/-- A name without an equals sign is found whole. -/
theorem entryName_of_not_mem {name : String} (plain : '=' ∉ name.toList) :
    entryName name = name := by
  rw [entryName, takeWhile_of_not_mem plain, String.ofList_toList]

/-- No environment is built because of the first variable that has a NUL. -/
theorem ofProfile_error_iff {profile : Profile} {failure : Failure} :
    ofProfile profile = .error failure ↔
      ∃ front var rest, profile.env = front ++ var :: rest ∧
        (∀ earlier ∈ front, earlier.hasNul = false) ∧ var.hasNul = true ∧
        failure = (Violation.valueHasNul var.name).failure := by
  rw [ofProfile]
  constructor
  · intro h
    cases hfind : profile.env.find? Variable.hasNul with
    | none =>
      rw [hfind] at h
      cases h
    | some var =>
      rw [hfind] at h
      obtain ⟨hnul, front, rest, henv, hclean⟩ := List.find?_eq_some_iff_append.mp hfind
      refine ⟨front, var, rest, henv, fun earlier hearlier => ?_, hnul, (Except.error.inj h).symm⟩
      exact (Bool.not_eq_true' _).mp (hclean earlier hearlier)
  · rintro ⟨front, var, rest, henv, hclean, hnul, rfl⟩
    have hfind : profile.env.find? Variable.hasNul = some var :=
      List.find?_eq_some_iff_append.mpr
        ⟨hnul, front, rest, henv, fun earlier hearlier => by rw [hclean earlier hearlier]; rfl⟩
    rw [hfind]

/-- What stands under a name is the values of the variables of that name. -/
theorem lookup_eq {profile : Profile} (plain : ∀ var ∈ profile.env, '=' ∉ var.name.toList)
    {name : String} (h : '=' ∉ name.toList) :
    profile.environment.lookup (utf8 name)
      = (profile.env.filter (·.name = name)).map (utf8 ·.value) := by
  rw [lookup, block, Profile.environment, List.map_map, List.filterMap_map]
  generalize profile.env = vars at plain
  induction vars with
  | nil => rfl
  | cons first rest ih =>
    obtain ⟨hfirst, hrest⟩ := List.forall_mem_cons.mp plain
    rw [List.filterMap_cons, ih hrest]
    simp only [Function.comp_apply, Variable.isPrefixOf?_entry hfirst h]
    by_cases same : first.name = name
    · rw [if_pos same, List.filter_cons, if_pos (decide_eq_true same)]
      rfl
    · rw [if_neg same, List.filter_cons, if_neg (mt of_decide_eq_true same)]

end Environment

theorem filter_name_eq_nil {vars : List Variable} {name : String}
    (new : name ∉ vars.map Variable.name) : vars.filter (·.name = name) = [] := by
  rw [List.filter_eq_nil_iff]
  intro var hvar
  rw [decide_eq_true_iff]
  rintro rfl
  exact new (List.mem_map_of_mem hvar)

/-- Where names are distinct, a variable is the only one of its name. -/
theorem filter_name_eq_singleton {vars : List Variable} (distinct : (vars.map Variable.name).Nodup)
    {var : Variable} (h : var ∈ vars) : vars.filter (·.name = var.name) = [var] := by
  induction vars with
  | nil => exact absurd h List.not_mem_nil
  | cons first rest ih =>
    rw [List.map_cons, List.nodup_cons] at distinct
    obtain ⟨new, distinct⟩ := distinct
    rcases List.mem_cons.mp h with rfl | h
    · rw [List.filter_cons, if_pos (decide_eq_true rfl), filter_name_eq_nil new]
    · have hne : first.name ≠ var.name := by
        intro same
        exact new (List.mem_map.mpr ⟨var, h, same.symm⟩)
      rw [List.filter_cons, if_neg (mt of_decide_eq_true hne), ih distinct h]

/-! ## Validated profiles -/

/-- No name of a variable has an equals sign in it. -/
theorem equals_not_mem_of_variableName {name : String} (h : VariableName name) :
    '=' ∉ name.toList := by
  intro hequals
  exact absurd (isNameRest_of_mem (isVariableName_iff.mpr h) hequals) (by decide)

/-- The environment of a profile lists its variables: one entry for each of them, in order, and
one name, which is the part of its name before the first equals sign. -/
structure Lists (env : Environment) (profile : Profile) : Prop where
  block : env.block = profile.env.map fun var => utf8 var.name ++ 0x3D :: utf8 var.value
  names : env.names = profile.env.map fun var => Environment.entryName var.name
  whole : ∀ var ∈ profile.env, '=' ∉ var.name.toList → Environment.entryName var.name = var.name
  /-- The same names are read from the bytes, where what spells no text would be left out. -/
  decoded : (env.block.filterMap decode?).map Environment.entryName = env.names

/-- The variables of a profile can be told from its environment. -/
structure Recovers (env : Environment) (profile : Profile) : Prop where
  read : env.block.map Variable.ofEntry? = profile.env.map some
  names : env.names = profile.env.map Variable.name
  distinct : env.names.Nodup
  found : ∀ var ∈ profile.env, env.lookup (utf8 var.name) = [utf8 var.value]
  absent : ∀ name, '=' ∉ name.toList → name ∉ profile.env.map Variable.name →
    env.lookup (utf8 name) = []

section

variable {profile : Profile}

theorem lists_environment (profile : Profile) : Lists profile.environment profile where
  block := profile.block_environment
  names := by
    rw [Environment.names, Profile.environment, List.map_map]
    exact List.map_congr_left fun var _ => Environment.entryName_entry var
  whole _ _ plain := Environment.entryName_of_not_mem plain
  decoded := by
    rw [Environment.filterMap_decode?_block]
    rfl

theorem recovers_environment (valid : profile.validate = .ok ()) :
    Recovers profile.environment profile := by
  have rules := Profile.wellFormed_iff.mpr (Profile.validate_ok_iff.mp valid)
  have plain : ∀ var ∈ profile.env, '=' ∉ var.name.toList := fun var hvar =>
    equals_not_mem_of_variableName (rules.names var hvar)
  have names : profile.environment.names = profile.env.map Variable.name := by
    rw [(lists_environment profile).names]
    exact List.map_congr_left fun var hvar => Environment.entryName_of_not_mem (plain var hvar)
  constructor
  case read =>
    rw [Environment.block, Profile.environment, List.map_map, List.map_map]
    exact List.map_congr_left fun var hvar => Variable.ofEntry?_entry (plain var hvar)
  case names => exact names
  case distinct =>
    rw [names]
    exact rules.distinct
  case found =>
    intro var hvar
    rw [Environment.lookup_eq plain (plain var hvar), filter_name_eq_singleton rules.distinct hvar]
    rfl
  case absent =>
    intro name hname hnew
    rw [Environment.lookup_eq plain hname, filter_name_eq_nil hnew]
    rfl

end

/-- An environment is built exactly when no variable has a NUL, and the first one that has is
reported otherwise. It lists the variables, and where the profile has passed the validation
they can be told from it: no other valid profile has the same entries with other variables. -/
theorem block_recovers_variables (profile : Profile) :
    ((∃ env, Environment.ofProfile profile = .ok env) ↔
        ∀ var ∈ profile.env, hasNul var.name = false ∧ hasNul var.value = false) ∧
      (∀ failure, Environment.ofProfile profile = .error failure ↔
        ∃ front var rest, profile.env = front ++ var :: rest ∧
          (∀ earlier ∈ front, hasNul earlier.name = false ∧ hasNul earlier.value = false) ∧
          (hasNul var.name = true ∨ hasNul var.value = true) ∧
          failure = .profileUnusable ("value of " ++ var.name ++ " contains NUL")) ∧
      (∀ env, Environment.ofProfile profile = .ok env → Lists env profile) ∧
      (profile.validate = .ok () →
        ∃ env, Environment.ofProfile profile = .ok env ∧ Recovers env profile ∧
          ∀ other env', other.validate = .ok () → Environment.ofProfile other = .ok env' →
            env'.block = env.block → other.env = profile.env) := by
  have hclean (var : Variable) :
      var.hasNul = false ↔ hasNul var.name = false ∧ hasNul var.value = false := by
    rw [Variable.hasNul, Bool.or_eq_false_iff]
  have hstray (var : Variable) :
      var.hasNul = true ↔ hasNul var.name = true ∨ hasNul var.value = true := by
    rw [Variable.hasNul, Bool.or_eq_true]
  refine ⟨?_, fun failure => ?_, fun env built => ?_, fun valid => ?_⟩
  · simp only [Environment.ofProfile_ok_iff, hclean, exists_and_left, exists_eq, and_true]
  · simp only [Environment.ofProfile_error_iff, hclean, hstray]
    rfl
  · obtain ⟨-, rfl⟩ := Environment.ofProfile_ok_iff.mp built
    exact lists_environment profile
  · have built := Environment.ofProfile_ok_iff.mpr ⟨Profile.variables_of_validate valid, rfl⟩
    have recovers := recovers_environment valid
    refine ⟨profile.environment, built, recovers, fun other env' valid' built' same => ?_⟩
    obtain ⟨-, rfl⟩ := Environment.ofProfile_ok_iff.mp built'
    have read := (recovers_environment valid').read
    rw [same, recovers.read] at read
    exact (List.map_injective_iff.mpr (fun _ _ => Option.some.inj) read).symm

/-- Values that begin with an equals sign and end with one, a name that begins another one, and
two profiles that share nothing else. -/
theorem block_recovers_variables_equals :
    let vars : List Variable := [⟨"LS_COLORS", "=di=01;34"⟩, ⟨"LS", "é="⟩]
    let profile : Profile := { Profile.system with env := vars }
    let other : Profile := { Profile.conda with env := vars }
    Environment.ofProfile profile = .ok profile.environment ∧
      Lists profile.environment profile ∧
      (profile.validate = .ok () ∧ Recovers profile.environment profile) ∧
      (other.validate = .ok () ∧ Environment.ofProfile other = .ok other.environment ∧
        other.environment.block = profile.environment.block ∧ other.env = profile.env) := by
  intro vars profile other
  have valid : profile.validate = .ok () := by
    rw [Profile.validate, show profile.violation? = none by decide +kernel]
  have valid' : other.validate = .ok () := by
    rw [Profile.validate, show other.violation? = none by decide +kernel]
  obtain ⟨-, -, lists, recovered⟩ := block_recovers_variables profile
  obtain ⟨env, built, recovers, told⟩ := recovered valid
  obtain ⟨-, rfl⟩ := Environment.ofProfile_ok_iff.mp built
  have built' : Environment.ofProfile other = .ok other.environment :=
    Environment.ofProfile_ok_iff.mpr ⟨Profile.variables_of_validate valid', rfl⟩
  exact ⟨built, lists _ built, ⟨valid, recovers⟩, valid', built', rfl, told _ _ valid' built' rfl⟩

end GuardedLaunch
