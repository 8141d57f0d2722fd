import GuardedLaunch.Log
import GuardedLaunch.Proofs.Validation

/-!
# Texts of printable characters

What a text can do to whoever it is shown to lies in its characters. Texts are put together
from words of the program, numbers, names of variables and quoted texts; words, numbers and
names are made of plain characters, and whatever is quoted shows as printable ones.

- `Within`: texts whose characters are all allowed. They are looked at piece by piece.
- `Plain`: the visible characters of ASCII and the space.
- `Unicode.IsControl`, `Unicode.IsLineSeparator`: characters that no printable text holds.
- `plain_toDigits`, `plain_of_isVariableName`: numbers and names.
- `printable_quoted`, `printable_quotedList`: quoted texts.
- `printable_field`: what an event says beside its message.
-/

namespace GuardedLaunch

/-! ## Texts of allowed characters -/

/-- Every character of a text is allowed. -/
def Within (allowed : Char → Prop) (text : String) : Prop :=
  ∀ c ∈ text.toList, allowed c

section

variable {allowed other : Char → Prop}

instance [DecidablePred allowed] (text : String) : Decidable (Within allowed text) :=
  List.decidableBAll allowed text.toList

theorem Within.mono {text : String} (within : Within allowed text)
    (weaker : ∀ c, allowed c → other c) : Within other text := by
  intro c hc
  exact weaker c (within c hc)

@[simp] theorem within_append {front rest : String} :
    Within allowed (front ++ rest) ↔ Within allowed front ∧ Within allowed rest := by
  rw [Within, String.toList_append, List.forall_mem_append]
  rfl

@[simp] theorem within_ofList {cs : List Char} :
    Within allowed (String.ofList cs) ↔ ∀ c ∈ cs, allowed c := by
  rw [Within, String.toList_ofList]

theorem within_join {texts : List String} (h : ∀ text ∈ texts, Within allowed text) :
    Within allowed (String.join texts) := by
  rw [Within, String.toList_join, List.forall_mem_flatMap]
  exact h

theorem within_intercalate {separator : String} (hseparator : Within allowed separator)
    {texts : List String} (h : ∀ text ∈ texts, Within allowed text) :
    Within allowed (separator.intercalate texts) := by
  induction texts with
  | nil =>
    rw [String.intercalate_nil]
    exact fun c hc => absurd hc List.not_mem_nil
  | cons text rest ih =>
    obtain ⟨htext, hrest⟩ := List.forall_mem_cons.mp h
    cases rest with
    | nil =>
      rw [String.intercalate_singleton]
      exact htext
    | cons next rest =>
      rw [String.intercalate_cons_cons, within_append, within_append]
      exact ⟨⟨htext, hseparator⟩, ih hrest⟩

end

/-! ## Plain characters -/

/-- A visible character of ASCII, or the space. -/
def Plain (c : Char) : Prop :=
  ' ' ≤ c ∧ c ≤ '~'

instance : DecidablePred Plain := fun c =>
  inferInstanceAs (Decidable (' ' ≤ c ∧ c ≤ '~'))

/-- Numbers are written with digits. -/
theorem plain_toDigits {base : Nat} (low : 1 < base) (high : base ≤ 16) (n : Nat) :
    ∀ c ∈ Nat.toDigits base n, Plain c := by
  have hdigit : ∀ digit < 16, Plain (Nat.digitChar digit) := by decide
  induction n using Nat.strongRecOn with
  | ind n ih =>
    rw [Nat.toDigits_eq_if low]
    split
    · next hlt =>
      rw [List.forall_mem_singleton]
      exact hdigit n (Nat.lt_of_lt_of_le hlt high)
    · next hle =>
      rw [List.forall_mem_append, List.forall_mem_singleton]
      have hpos : 0 < n := by omega
      have hlt : n % base < 16 := Nat.lt_of_lt_of_le (Nat.mod_lt n (by omega)) high
      exact ⟨ih (n / base) (Nat.div_lt_self hpos low), hdigit _ hlt⟩

theorem plain_number (n : Nat) : Within Plain (toString n) := by
  show Within Plain n.repr
  rw [Nat.repr_eq_ofList_toDigits, within_ofList]
  exact plain_toDigits (by decide) (by decide) n

theorem plain_id (id : Id) : Within Plain (toString id) :=
  plain_number id.toNat

theorem plain_hexDigits (n : Nat) : ∀ c ∈ hexDigits n, Plain c :=
  plain_toDigits (by decide) (by decide) n

theorem plain_codePointEscape (c : Char) : ∀ c' ∈ codePointEscape c, Plain c' := by
  rw [codePointEscape, List.forall_mem_append, List.forall_mem_append]
  exact ⟨⟨within_ofList.mp (by decide), plain_hexDigits c.toNat⟩, within_ofList.mp (by decide)⟩

theorem Log.plain_byteEscape (c : Char) : ∀ c' ∈ Log.byteEscape c, Plain c' := by
  rw [Log.byteEscape, List.forall_mem_append, List.forall_mem_append]
  refine ⟨⟨within_ofList.mp (by decide), fun c' hc' => ?_⟩, plain_hexDigits c.toNat⟩
  rw [List.eq_of_mem_replicate hc']
  decide

/-- The name of a variable is plain. -/
theorem plain_of_isVariableName {name : String} (h : isVariableName name = true) :
    Within Plain name := by
  intro c hc
  rcases isNameRest_iff.mp (isNameRest_of_mem h hc) with (hc | hc | rfl) | hc
  · exact ⟨Char.le_trans (by decide) hc.1, Char.le_trans hc.2 (by decide)⟩
  · exact ⟨Char.le_trans (by decide) hc.1, Char.le_trans hc.2 (by decide)⟩
  · decide
  · exact ⟨Char.le_trans (by decide) hc.1, Char.le_trans hc.2 (by decide)⟩

/-! ## Printable characters -/

namespace Unicode

/-- The control characters. -/
def IsControl (c : Char) : Prop :=
  c.toNat ≤ 0x1F ∨ (0x7F ≤ c.toNat ∧ c.toNat ≤ 0x9F)

instance : DecidablePred IsControl := fun c =>
  inferInstanceAs (Decidable (c.toNat ≤ 0x1F ∨ (0x7F ≤ c.toNat ∧ c.toNat ≤ 0x9F)))

/-- The characters that separate lines and paragraphs. -/
def IsLineSeparator (c : Char) : Prop :=
  c = '\u2028' ∨ c = '\u2029'

variable {c : Char}

/-- No class of exceptions has a plain character. -/
theorem isPrintable_of_plain (plain : Plain c) : isPrintable c = true := by
  have apart : ∀ ranges ∈ [control, separator, format, filler, privateUse, unassignedBasic,
      unassignedSupplementary], ∀ range ∈ ranges, range.2 < 0x20 ∨ 0x7E < range.1 := by
    decide +kernel
  have hplain : 0x20 ≤ c.toNat ∧ c.toNat ≤ 0x7E := plain
  refine List.all_eq_true.mpr fun ranges hranges => ?_
  rw [Bool.not_eq_true', inRanges, List.any_eq_false]
  intro range hrange hmem
  rw [decide_eq_true_eq] at hmem
  have := apart ranges hranges range hrange
  omega

theorem not_isControl_of_isPrintable (h : isPrintable c = true) : ¬ IsControl c := by
  have apart := List.all_eq_true.mp h control List.mem_cons_self
  rw [Bool.not_eq_true', inRanges, List.any_eq_false] at apart
  rintro (low | high)
  · exact apart (0x0, 0x1F) (by decide) (decide_eq_true ⟨Nat.zero_le _, low⟩)
  · exact apart (0x7F, 0x9F) (by decide) (decide_eq_true high)

theorem not_isLineSeparator_of_isPrintable (h : isPrintable c = true) : ¬ IsLineSeparator c := by
  rintro (rfl | rfl)
  · exact absurd h (by decide)
  · exact absurd h (by decide)

end Unicode

/-- A text that shows as it is. -/
def Printable (text : String) : Prop :=
  Within (Unicode.isPrintable · = true) text

theorem printable_of_plain {text : String} (plain : Within Plain text) : Printable text :=
  plain.mono fun _ => Unicode.isPrintable_of_plain

/-- Between quotes a character is written with printable ones. -/
theorem isPrintable_escaped (c : Char) :
    ∀ c' ∈ Quoted.escaped c, Unicode.isPrintable c' = true := by
  have written {cs : List Char} (plain : Within Plain (String.ofList cs)) :
      ∀ c' ∈ cs, Unicode.isPrintable c' = true :=
    within_ofList.mp (printable_of_plain plain)
  unfold Quoted.escaped
  split
  · exact written (by decide)
  split
  · exact written (by decide)
  split
  · exact written (by decide)
  split
  · exact written (by decide)
  split
  · exact written (by decide)
  split
  · exact written (by decide)
  split
  · exact written (within_ofList.mpr (plain_codePointEscape c))
  next visible =>
  rw [Bool.or_eq_true, not_or, Bool.not_eq_true', Bool.not_eq_false] at visible
  rw [List.forall_mem_singleton]
  exact visible.2

theorem printable_quoted (text : String) : Printable (quoted text) := by
  have quote : Unicode.isPrintable '"' = true := Unicode.isPrintable_of_plain (by decide)
  rw [Printable, quoted, within_ofList, List.forall_mem_append, List.forall_mem_cons,
    List.forall_mem_flatMap, List.forall_mem_singleton]
  exact ⟨⟨quote, fun c _ => isPrintable_escaped c⟩, quote⟩

theorem printable_quotedList (texts : List String) : Printable (quotedList texts) := by
  have words : Printable "[" ∧ Printable ", " ∧ Printable "]" :=
    ⟨printable_of_plain (by decide), printable_of_plain (by decide),
      printable_of_plain (by decide)⟩
  have list : Printable (", ".intercalate (texts.map quoted)) := by
    refine within_intercalate words.2.1 fun entry hentry => ?_
    obtain ⟨text, -, rfl⟩ := List.mem_map.mp hentry
    exact printable_quoted text
  rw [Printable, quotedList, within_append, within_append]
  exact ⟨⟨words.1, list⟩, words.2.2⟩

/-! ## The parts of a log line -/

theorem plain_levelColumn (level : Level) : Within Plain (Log.levelColumn level) := by
  cases level <;> decide

theorem plain_stage (stage : Stage) : Within Plain stage.text := by
  cases stage <;> decide

/-- The values of an event are quoted names, numbers and words. -/
theorem printable_field (event : Event) {field : String × String} (h : field ∈ event.fields) :
    Printable (field.1 ++ "=" ++ field.2) := by
  have plain {name value : String} (hname : Within Plain (name ++ "="))
      (hvalue : Within Plain value) : Printable (name ++ "=" ++ value) :=
    printable_of_plain (within_append.mpr ⟨hname, hvalue⟩)
  rcases List.mem_cons.mp h with rfl | h
  · show Printable ("stage" ++ "=" ++ event.stage.text)
    exact plain (by decide) (plain_stage event.stage)
  cases event with
  | sanitized names =>
    rw [List.mem_singleton.mp h]
    show Printable ("vars" ++ "=" ++ quotedList names)
    exact within_append.mpr ⟨printable_of_plain (by decide), printable_quotedList names⟩
  | rejected failure => exact absurd h List.not_mem_nil
  | validated argc =>
    rw [List.mem_singleton.mp h]
    show Printable ("argc" ++ "=" ++ toString argc)
    exact plain (by decide) (plain_number argc)
  | normalized before =>
    rw [Event.details, List.mem_cons, List.mem_cons, List.mem_singleton] at h
    rcases h with rfl | rfl | rfl
    · cases before.isSplit with
      | true => exact printable_of_plain (by decide)
      | false => exact printable_of_plain (by decide)
    · show Printable ("uid" ++ "=" ++ toString before.effectiveUid)
      exact plain (by decide) (plain_id before.effectiveUid)
    · show Printable ("gid" ++ "=" ++ toString before.effectiveGid)
      exact plain (by decide) (plain_id before.effectiveGid)

end GuardedLaunch
