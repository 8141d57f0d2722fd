import GuardedLaunch.Proofs.Validation

/-!
# What a profile can be handed over as

The system takes byte strings without a NUL. A validation looks at characters, so the
two notions are brought together first; a profile that passes it can be handed over,
and its environment is its variables as they are listed.

- `zero_mem_utf8_iff`: a text has a NUL byte when it has a NUL character.
- `Profile.environment`: the environment that is meant.
- `Profile.block_environment`, `Environment.entryName_entry`: its entries as bytes, and the
  name that is found in an entry without looking into the value, whatever characters either
  has.
- `Environment.ofProfile_ok_iff`, `Environment.ofValidated_ok_iff`,
  `Environment.ofValidated_error_iff`: when an environment is built, and which.
-/

namespace GuardedLaunch

/-! ## NUL as a character and as a byte -/

/-- Only the NUL character has a NUL byte: every byte of a longer form has its top bit
set. -/
theorem zero_mem_utf8EncodeChar_iff (c : Char) :
    0 ∈ String.utf8EncodeChar c ↔ c = '\x00' := by
  have hzero : ∀ n < 256, (0 : UInt8) = UInt8.ofNat n ↔ n = 0 := by
    intro n hn
    rw [← UInt8.toNat_inj, UInt8.toNat_ofNat_of_lt' hn]
    exact eq_comm
  have hchar : c = '\x00' ↔ c.val.toNat = 0 := by
    rw [← Char.val_inj, ← UInt32.toNat_inj]
    rfl
  rw [hchar]
  unfold String.utf8EncodeChar
  have hsize : c.val.toNat < 0x110000 := by
    rcases c.valid with h | h <;> simp only [UInt32.toNat] at h ⊢ <;> omega
  generalize c.val.toNat = v at hsize
  -- the four lengths of a character; past the first, no byte is below 0x80
  by_cases h₁ : v ≤ 0x7f
  · simp only [if_pos h₁, List.mem_singleton]
    exact hzero v (by omega)
  by_cases h₂ : v ≤ 0x7ff
  · simp only [if_neg h₁, if_pos h₂, List.mem_cons, List.not_mem_nil, or_false]
    rw [hzero _ (by omega), hzero _ (by omega)]
    omega
  by_cases h₃ : v ≤ 0xffff
  · simp only [if_neg h₁, if_neg h₂, if_pos h₃, List.mem_cons, List.not_mem_nil, or_false]
    rw [hzero _ (by omega), hzero _ (by omega), hzero _ (by omega)]
    omega
  simp only [if_neg h₁, if_neg h₂, if_neg h₃, List.mem_cons, List.not_mem_nil, or_false]
  rw [hzero _ (by omega), hzero _ (by omega), hzero _ (by omega), hzero _ (by omega)]
  omega

/-- A text has a NUL byte when it has a NUL character. -/
theorem zero_mem_utf8_iff (text : String) : 0 ∈ utf8 text ↔ hasNul text = true := by
  rw [utf8, hasNul, List.mem_flatMap, List.contains_iff_mem]
  constructor
  · rintro ⟨c, hc, hzero⟩
    rw [zero_mem_utf8EncodeChar_iff] at hzero
    exact hzero ▸ hc
  · intro hc
    exact ⟨'\x00', hc, (zero_mem_utf8EncodeChar_iff _).mpr rfl⟩

theorem utf8_append (front rest : String) : utf8 (front ++ rest) = utf8 front ++ utf8 rest := by
  rw [utf8, String.toList_append, List.flatMap_append]
  rfl

/-- The bytes of an entry: name, equals sign, value. -/
theorem Variable.utf8_entry (var : Variable) :
    utf8 var.entry = utf8 var.name ++ 0x3D :: utf8 var.value := by
  have hequals : utf8 "=" = [0x3D] := by decide
  rw [Variable.entry, utf8_append, utf8_append, hequals, List.append_assoc, List.singleton_append]

/-- An entry has a NUL byte only if its variable has a NUL. -/
theorem Variable.zero_mem_entry_iff (var : Variable) :
    0 ∈ utf8 var.entry ↔ var.hasNul = true := by
  have hequals : (0 : UInt8) ≠ 0x3D := by decide
  rw [Variable.utf8_entry, List.mem_append, List.mem_cons, or_iff_right hequals,
    zero_mem_utf8_iff var.name, zero_mem_utf8_iff var.value, Variable.hasNul, Bool.or_eq_true]

/-! ## The environment that is built -/

/-- The environment that the variables of a profile make up. -/
def Profile.environment (profile : Profile) : Environment :=
  ⟨profile.env.map Variable.entry⟩

/-- The entries of a profile's environment as bytes: name, equals sign, value. -/
theorem Profile.block_environment (profile : Profile) :
    profile.environment.block
      = profile.env.map fun var => utf8 var.name ++ 0x3D :: utf8 var.value := by
  rw [environment, Environment.block, List.map_map]
  exact List.map_congr_left fun var _ => var.utf8_entry

/-- The sign behind the name ends the search for it, whatever comes after. -/
theorem takeWhile_sign {α : Type} [DecidableEq α] (sign : α) (name value : List α) :
    (name ++ sign :: value).takeWhile (· ≠ sign) = name.takeWhile (· ≠ sign) := by
  induction name with
  | nil => simp
  | cons c rest ih =>
    rw [List.cons_append, List.takeWhile_cons, List.takeWhile_cons, ih]

/-- The name that is found in an entry comes from the variable's name alone: it is the part
before the first equals sign, for names that have one or are empty, too. -/
theorem Environment.entryName_entry (var : Variable) :
    entryName var.entry = String.ofList (var.name.toList.takeWhile (· ≠ '=')) := by
  have hlist : var.entry.toList = var.name.toList ++ '=' :: var.value.toList := by
    rw [Variable.entry, String.toList_append, String.toList_append, List.append_assoc]
    rfl
  rw [entryName, hlist, takeWhile_sign]

namespace Environment

/-- An environment is built from the variables as they are listed, if all of them can
be handed over. -/
theorem ofProfile_ok_iff {profile : Profile} {env : Environment} :
    ofProfile profile = .ok env ↔
      (∀ var ∈ profile.env, var.hasNul = false) ∧ env = profile.environment := by
  rw [ofProfile]
  cases hfind : profile.env.find? Variable.hasNul with
  | some var =>
    have hnul : var.hasNul = true := List.find?_some hfind
    have hmem : var ∈ profile.env := List.mem_of_find?_eq_some hfind
    constructor
    · intro h
      cases h
    · rintro ⟨hclean, -⟩
      exact absurd (hclean var hmem) (by rw [hnul]; exact Bool.true_eq_false.mp)
  | none =>
    have hclean : ∀ var ∈ profile.env, var.hasNul = false := fun var hvar =>
      Bool.eq_false_iff.mpr (List.find?_eq_none.mp hfind var hvar)
    constructor
    · intro h
      exact ⟨hclean, (Except.ok.inj h).symm⟩
    · rintro ⟨-, rfl⟩
      rfl

/-- With a validation the environment is built exactly when the profile passes. -/
theorem ofValidated_ok_iff {profile : Profile} {env : Environment} :
    ofValidated profile = .ok env ↔
      profile.validate = .ok () ∧ env = profile.environment := by
  rw [ofValidated]
  cases hvalidate : profile.validate with
  | error failure =>
    constructor
    · intro h
      cases h
    · rintro ⟨h, -⟩
      cases h
  | ok _ =>
    have hclean := Profile.variables_of_validate hvalidate
    show ofProfile profile = .ok env ↔ _
    rw [ofProfile_ok_iff]
    exact ⟨fun h => ⟨rfl, h.2⟩, fun h => ⟨hclean, h.2⟩⟩

/-- The validation is the only reason for which there is no environment. -/
theorem ofValidated_error_iff {profile : Profile} {failure : Failure} :
    ofValidated profile = .error failure ↔ profile.validate = .error failure := by
  cases hvalidate : profile.validate with
  | error cause =>
    rw [ofValidated, hvalidate]
    constructor
    · intro h
      rw [Except.error.inj h]
    · intro h
      rw [Except.error.inj h]
  | ok _ =>
    have hbuilt := ofValidated_ok_iff.mpr ⟨hvalidate, rfl⟩
    rw [hbuilt]
    constructor
    · intro h
      cases h
    · intro h
      cases h

/-- No entry of an environment that was built has a NUL byte. -/
theorem block_of_ofProfile {profile : Profile} {env : Environment}
    (h : ofProfile profile = .ok env) : ∀ entry ∈ env.block, 0 ∉ entry := by
  obtain ⟨hclean, rfl⟩ := ofProfile_ok_iff.mp h
  intro entry hentry
  rw [block, Profile.environment, List.map_map, List.mem_map] at hentry
  obtain ⟨var, hvar, rfl⟩ := hentry
  rw [Function.comp_apply, Variable.zero_mem_entry_iff, hclean var hvar]
  exact Bool.false_ne_true

end Environment

end GuardedLaunch
