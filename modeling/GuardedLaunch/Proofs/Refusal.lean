import GuardedLaunch.Profile.Shipped
import GuardedLaunch.Proofs.CommandLine
import GuardedLaunch.Proofs.Spelling

/-!
# What a refusal names

A command line that is refused because of its slot 1 is reported with that slot, so whoever
reads the report has to be able to trust it. A slot that spells a text is named by that text.
A slot that spells none is named by a text with U+FFFD in it, whose bytes are not those of the
slot. A reader of the report therefore never sees the path of a permitted script, unless such
a path has U+FFFD in it to begin with.

- `ShownAs`: the text that a byte string is shown as.
- `Profile.replacement_mem_of_shown_permitted`: where the path of a permitted script is named
  nonetheless.
- `refusal_names_candidate`: the gate on a command line with the texts of its refusals.
-/

namespace GuardedLaunch

/-- The text that a byte string is shown as. -/
inductive ShownAs : Bytes → String → Prop where
  /-- A text is shown as it is. -/
  | itself (text : String) : ShownAs (utf8 text) text
  /-- What spells no text is shown with U+FFFD in it, and as a text of other bytes. -/
  | replaced {bytes : Bytes} (unspelled : ∀ text, utf8 text ≠ bytes)
      (marked : Utf8.replacement ∈ (decodeLossy bytes).toList)
      (differs : utf8 (decodeLossy bytes) ≠ bytes) : ShownAs bytes (decodeLossy bytes)

/-- Every byte string is shown. -/
theorem shownAs_decodeLossy (bytes : Bytes) : ShownAs bytes (decodeLossy bytes) := by
  by_cases spelled : ∃ text, utf8 text = bytes
  · obtain ⟨text, rfl⟩ := spelled
    rw [decodeLossy_utf8]
    exact .itself text
  · have unspelled : ∀ text, utf8 text ≠ bytes := not_exists.mp spelled
    exact .replaced unspelled (replacement_mem_decodeLossy unspelled) (unspelled _)

namespace Profile

variable {profile : Profile} {argv : List Bytes}

theorem authorize_scriptMissing_iff :
    profile.authorize argv = .error .scriptMissing ↔ argv.length < 2 := by
  rw [authorize_error_iff]
  constructor
  · rintro (⟨short, -⟩ | ⟨_, -, -, h⟩)
    · exact short
    · cases h
  · intro short
    exact Or.inl ⟨short, rfl⟩

theorem authorize_scriptNotPermitted_iff {text : String} :
    profile.authorize argv = .error (.scriptNotPermitted text) ↔
      ∃ candidate, argv[1]? = some candidate ∧ ¬ profile.Permits candidate ∧
        text = decodeLossy candidate := by
  rw [authorize_error_iff]
  constructor
  · rintro (⟨-, h⟩ | ⟨candidate, named, refused, h⟩)
    · cases h
    · exact ⟨candidate, named, refused, Failure.scriptNotPermitted.inj h⟩
  · rintro ⟨candidate, named, refused, rfl⟩
    exact Or.inr ⟨candidate, named, refused, rfl⟩

/-- Where what is refused is shown as a permitted script, it spells nothing, and that script
has U+FFFD in it. -/
theorem replacement_mem_of_shown_permitted {candidate : Bytes} {text : String}
    (refused : ¬ profile.Permits candidate) (shown : ShownAs candidate text)
    (permitted : text ∈ profile.scripts) : Utf8.replacement ∈ text.toList := by
  cases shown with
  | itself => exact absurd ⟨text, permitted, rfl⟩ refused
  | replaced _ marked _ => exact marked

end Profile

/-- The gate on a command line. It is passed with a permitted script in slot 1, byte for byte.
A command line without a slot 1 is refused as such, and any other one is refused with the text
that its slot 1 is shown as. Among profiles whose scripts have no U+FFFD in them, that text is
never the path of a permitted script. -/
theorem refusal_names_candidate (profile : Profile) (argv : List Bytes) :
    (profile.authorize argv = .ok () ↔
        2 ≤ argv.length ∧ ∃ script ∈ profile.scripts, argv[1]? = some (utf8 script)) ∧
      (profile.authorize argv = .error .scriptMissing ↔ argv.length < 2) ∧
      (∀ candidate, argv[1]? = some candidate →
        (∀ script ∈ profile.scripts, utf8 script ≠ candidate) →
          profile.authorize argv = .error (.scriptNotPermitted (decodeLossy candidate)) ∧
            ShownAs candidate (decodeLossy candidate)) ∧
      ((∀ script ∈ profile.scripts, Utf8.replacement ∉ script.toList) →
        ∀ text, profile.authorize argv = .error (.scriptNotPermitted text) →
          text ∉ profile.scripts) := by
  refine ⟨?_, Profile.authorize_scriptMissing_iff, ?_, ?_⟩
  · rw [Profile.authorize_ok_iff]
    constructor
    · rintro ⟨script, permitted, named⟩
      exact ⟨(List.getElem?_eq_some_iff.mp named).1, script, permitted, named⟩
    · rintro ⟨-, permitted⟩
      exact permitted
  · intro candidate named refused
    have unpermitted : ¬ profile.Permits candidate := fun ⟨script, permitted, same⟩ =>
      refused script permitted same
    exact ⟨Profile.authorize_scriptNotPermitted_iff.mpr ⟨candidate, named, unpermitted, rfl⟩,
      shownAs_decodeLossy candidate⟩
  · intro unmarked text gate permitted
    obtain ⟨candidate, -, refused, rfl⟩ := Profile.authorize_scriptNotPermitted_iff.mp gate
    exact unmarked _ permitted
      (Profile.replacement_mem_of_shown_permitted refused (shownAs_decodeLossy candidate) permitted)

/-- The path of the script with the bytes of a surrogate at its end, which spell no character
and are three ill-formed pieces: it is refused, and is not shown as the script. -/
theorem refusal_names_candidate_surrogate :
    let candidate := utf8 Profile.ingestScript ++ [0xED, 0xA0, 0x80]
    let text := Profile.ingestScript ++ "\uFFFD\uFFFD\uFFFD"
    (∀ script ∈ Profile.system.scripts, utf8 script ≠ candidate) ∧
      (∀ script ∈ Profile.system.scripts, Utf8.replacement ∉ script.toList) ∧
      Profile.system.authorize [[], candidate] = .error (.scriptNotPermitted text) ∧
      ShownAs candidate text ∧ text ∉ Profile.system.scripts := by
  intro candidate text
  have refused : ∀ script ∈ Profile.system.scripts, utf8 script ≠ candidate := by decide +kernel
  have unmarked : ∀ script ∈ Profile.system.scripts, Utf8.replacement ∉ script.toList := by
    decide +kernel
  have shown : decodeLossy candidate = text := by decide +kernel
  obtain ⟨-, -, named, unnamed⟩ := refusal_names_candidate .system [[], candidate]
  obtain ⟨gate, hshown⟩ := named candidate rfl refused
  rw [shown] at gate hshown
  exact ⟨refused, unmarked, gate, hshown, unnamed unmarked text gate⟩

/-- A permitted path with U+FFFD in it is what a slot with a stray byte is shown as. -/
example :
    ({ Profile.system with scripts := ["/\uFFFD"] } : Profile).authorize [[], [0x2F, 0xFF]]
      = .error (.scriptNotPermitted "/\uFFFD") := by
  decide +kernel

end GuardedLaunch
