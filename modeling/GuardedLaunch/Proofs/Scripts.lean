import GuardedLaunch.Profile.Shipped
import GuardedLaunch.Proofs.Exit

/-!
# One script more

The scripts of a profile are a list, but a launch looks at them for two things alone: whether
they pass the validation, and whether slot 1 of the command line is one of them. Permitting
one more script therefore changes the launches that name this script and no others, wherever
in the list it is put; and neither the order of the list nor a repetition in it has a meaning.

- `Profile.withScripts`, `Profile.permitting`: a profile with other scripts, or with one more.
- `Profile.validate_withScripts`: when such a profile passes.
- `Profile.authorize_congr`: what the gate on a command line depends on.
- `LaunchedAlike`: no host can tell two profiles apart by a command line.
- `Profile.launchedAlike`: profiles that differ in scripts which the command line does not
  name are launched alike.
-/

namespace GuardedLaunch

namespace Profile

/-! ## Profiles with other scripts -/

/-- A profile with other scripts. -/
def withScripts (profile : Profile) (scripts : List String) : Profile :=
  { profile with scripts }

/-- A profile with one more script, at some position of its list. -/
def permitting (profile : Profile) (position : Nat) (script : String) : Profile :=
  profile.withScripts (profile.scripts.insertIdx position script)

/-- A valid profile stays valid with any other scripts, as long as there is one and each is
the path of a file. -/
theorem validate_withScripts {profile : Profile} (valid : profile.validate = .ok ())
    {scripts : List String} (nonempty : scripts ≠ [])
    (absolute : ∀ script ∈ scripts, AbsolutePath script) :
    (profile.withScripts scripts).validate = .ok () := by
  obtain ⟨interpreter, -, -, env⟩ := validate_ok_iff.mp valid
  exact validate_ok_iff.mpr ⟨interpreter, nonempty, absolute, env⟩

theorem validate_permitting {profile : Profile} (valid : profile.validate = .ok ())
    {script : String} (absolute : AbsolutePath script) {position : Nat}
    (inside : position ≤ profile.scripts.length) :
    (profile.permitting position script).validate = .ok () := by
  obtain ⟨-, -, scripts, -⟩ := validate_ok_iff.mp valid
  have member {other : String} :
      other ∈ profile.scripts.insertIdx position script ↔
        other = script ∨ other ∈ profile.scripts :=
    List.mem_insertIdx inside
  refine validate_withScripts valid (List.ne_nil_of_mem (member.mpr (Or.inl rfl))) ?_
  intro other hother
  rcases member.mp hother with rfl | hother
  · exact absolute
  · exact scripts other hother

/-! ## The gate on a command line -/

/-- The gate looks at slot 1 and asks whether it is permitted. A refusal quotes the command
line and not the profile. -/
theorem authorize_congr {profile other : Profile} {argv : List Bytes}
    (same : ∀ candidate, argv[1]? = some candidate →
      (profile.Permits candidate ↔ other.Permits candidate)) :
    profile.authorize argv = other.authorize argv := by
  rw [authorize_eq, authorize_eq]
  cases named : argv[1]? with
  | none => rfl
  | some candidate => simp only [same candidate named]

/-- One script more permits one byte string more. -/
theorem permits_permitting_iff {profile : Profile} {script : String} {position : Nat}
    (inside : position ≤ profile.scripts.length) {candidate : Bytes} :
    (profile.permitting position script).Permits candidate ↔
      utf8 script = candidate ∨ profile.Permits candidate := by
  constructor
  · rintro ⟨other, hother, rfl⟩
    rcases (List.mem_insertIdx inside).mp hother with rfl | hother
    · exact Or.inl rfl
    · exact Or.inr ⟨other, hother, rfl⟩
  · rintro (rfl | ⟨other, hother, rfl⟩)
    · exact ⟨script, (List.mem_insertIdx inside).mpr (Or.inl rfl), rfl⟩
    · exact ⟨other, (List.mem_insertIdx inside).mpr (Or.inr hother), rfl⟩

end Profile

/-! ## Launches that cannot be told apart -/

/-- A command line is launched in the same way under two profiles, on every host and from
every state: with the same failure, the same events and the same state behind it, and with
the same requests on the way. -/
structure LaunchedAlike (profile other : Profile) (argv : List Bytes) : Prop where
  outcome : ∀ {σ : Type} (host : Host σ) (state : σ),
    run host profile argv state = run host other argv state
  requests : ∀ {σ : Type} (host : Host σ) (state : σ),
    (run host.observed profile argv (.fresh state)).state.requests
      = (run host.observed other argv (.fresh state)).state.requests

namespace Profile

/-- The scripts of a valid profile show in nothing but the answer of the gate. -/
theorem run_withScripts {σ : Type} (host : Host σ) {profile : Profile}
    {scripts others : List String} {argv : List Bytes}
    (valid : (profile.withScripts scripts).validate = .ok ())
    (valid' : (profile.withScripts others).validate = .ok ())
    (gate : (profile.withScripts scripts).authorize argv
      = (profile.withScripts others).authorize argv) (state : σ) :
    run host (profile.withScripts scripts) argv state
      = run host (profile.withScripts others) argv state := by
  have handover (env : Environment) : (profile.withScripts scripts).handover env argv
      = (profile.withScripts others).handover env argv := rfl
  unfold run sanitize launch
  rw [Environment.ofValidated_ok_iff.mpr ⟨valid, rfl⟩,
    Environment.ofValidated_ok_iff.mpr ⟨valid', rfl⟩]
  simp only [gate, handover]
  rfl

/-- Where two lists of scripts agree about slot 1 of a command line, it is launched alike. -/
theorem launchedAlike {profile : Profile} {scripts others : List String} {argv : List Bytes}
    (valid : (profile.withScripts scripts).validate = .ok ())
    (valid' : (profile.withScripts others).validate = .ok ())
    (same : ∀ candidate, argv[1]? = some candidate →
      ((profile.withScripts scripts).Permits candidate ↔
        (profile.withScripts others).Permits candidate)) :
    LaunchedAlike (profile.withScripts scripts) (profile.withScripts others) argv where
  outcome host state := run_withScripts host valid valid' (authorize_congr same) state
  requests host state := by
    rw [run_withScripts host.observed valid valid' (authorize_congr same)]

end Profile

/-! ## What a list of scripts means -/

/-- Permitting one more script in a valid profile, anywhere in its list, leaves it valid and
changes exactly the launches of that script: every other command line is launched as before,
and one that names the script as if it were the only one permitted. So nothing depends on the
order of the scripts or on how often each is listed. -/
theorem permitting_one_more (profile : Profile) (valid : profile.validate = .ok ()) :
    (∀ script position, AbsolutePath script → position ≤ profile.scripts.length →
      (profile.permitting position script).validate = .ok () ∧
        ∀ argv,
          (argv[1]? ≠ some (utf8 script) →
            LaunchedAlike (profile.permitting position script) profile argv) ∧
          (argv[1]? = some (utf8 script) →
            LaunchedAlike (profile.permitting position script)
              (profile.withScripts [script]) argv)) ∧
      ∀ scripts, (∀ script, script ∈ scripts ↔ script ∈ profile.scripts) →
        (profile.withScripts scripts).validate = .ok () ∧
          ∀ argv, LaunchedAlike (profile.withScripts scripts) profile argv := by
  obtain ⟨-, nonempty, absolute, -⟩ := Profile.validate_ok_iff.mp valid
  constructor
  · intro script position hscript inside
    have valid' := Profile.validate_permitting valid hscript inside
    refine ⟨valid', fun argv => ⟨fun unnamed => ?_, fun named => ?_⟩⟩
    · refine Profile.launchedAlike valid' valid fun candidate hcandidate => ?_
      have other : utf8 script ≠ candidate := by
        rintro rfl
        exact unnamed hcandidate
      exact (Profile.permits_permitting_iff inside).trans (or_iff_right other)
    · have single : (profile.withScripts [script]).validate = .ok () := by
        refine Profile.validate_withScripts valid (List.cons_ne_nil _ _) ?_
        intro other hother
        rw [List.mem_singleton.mp hother]
        exact hscript
      refine Profile.launchedAlike valid' single fun candidate hcandidate => ?_
      -- both lists permit what the command line names
      have this : utf8 script = candidate := Option.some.inj (named.symm.trans hcandidate)
      have widened := (Profile.permits_permitting_iff inside).mpr (Or.inl this)
      exact iff_of_true widened ⟨script, List.mem_singleton_self _, this⟩
  · intro scripts same
    have valid' : (profile.withScripts scripts).validate = .ok () := by
      obtain ⟨script, hscript⟩ := List.exists_mem_of_ne_nil _ nonempty
      refine Profile.validate_withScripts valid (List.ne_nil_of_mem ((same script).mpr hscript)) ?_
      exact fun other hother => absolute other ((same other).mp hother)
    refine ⟨valid', fun argv => Profile.launchedAlike valid' valid fun candidate _ => ?_⟩
    exact exists_congr fun script => and_congr_left' (same script)

/-- A second script in front of the one that the system permits: the ingestion is launched as
before, and the second script as if it were the only one. -/
theorem permitting_one_more_system :
    let script := "/opt/FitsStorage/scripts/verify.py"
    Profile.system.validate = .ok () ∧ (Profile.system.permitting 0 script).validate = .ok () ∧
      LaunchedAlike (Profile.system.permitting 0 script) .system
        [[], utf8 Profile.ingestScript] ∧
      LaunchedAlike (Profile.system.permitting 0 script) (Profile.system.withScripts [script])
        [[], utf8 script] ∧
      LaunchedAlike (Profile.system.withScripts [Profile.ingestScript, Profile.ingestScript])
        .system [[], utf8 Profile.ingestScript] := by
  intro script
  have valid := Profile.validate_system
  obtain ⟨widened, reordered⟩ := permitting_one_more .system valid
  have absolute : AbsolutePath script := isAbsolutePath_iff.mp (by decide +kernel)
  obtain ⟨valid', alike⟩ := widened script 0 absolute (Nat.zero_le _)
  obtain ⟨-, repeated⟩ := reordered [Profile.ingestScript, Profile.ingestScript] (by
    intro other
    simp [Profile.system])
  exact ⟨valid, valid', (alike _).1 (by decide +kernel), (alike _).2 rfl, repeated _⟩

end GuardedLaunch
