import GuardedLaunch.Proofs.Listening
import GuardedLaunch.Proofs.Printable
import GuardedLaunch.Proofs.Reporting

/-!
# The log on a terminal

Whoever reads a log may read it on a terminal, and a terminal acts on some characters. Texts of
other people get into the log by two ways. The script that is refused stands in a message, and
the characters of a message are written in an inert form; the names of variables are quoted in a
field. Nothing else in the log depends on what the caller has passed, and so no log holds a
character that a terminal would act on. Nor does the log act on the launch: it is the same for
whoever listens.

- `DrivesTerminal`, `Harmless`: the characters, and the texts without them.
- `Log.harmless_line`, `Log.harmless_text`: every line and every log is harmless.
- `Event.unquoted`, `Told.elsewhere`: what an event says beside its message and the names.
- `Told.messages`: what it says in its message.
- `LogHasNoEffect`: what is claimed of the log of a launch.
-/

namespace GuardedLaunch

/-! ## Characters that a terminal acts on -/

/-- Bell, backspace, form feed, escape and delete, and the controls beyond ASCII. -/
def DrivesTerminal (c : Char) : Prop :=
  c ∈ ['\x07', '\x08', '\x0c', '\x1b', '\x7f'] ∨ (0x80 ≤ c.toNat ∧ c.toNat ≤ 0x9F)

instance : DecidablePred DrivesTerminal := fun c =>
  inferInstanceAs (Decidable
    (c ∈ ['\x07', '\x08', '\x0c', '\x1b', '\x7f'] ∨ (0x80 ≤ c.toNat ∧ c.toNat ≤ 0x9F)))

/-- A text with none of these characters. -/
def Harmless (text : String) : Prop :=
  Within (fun c => ¬ DrivesTerminal c) text

theorem isControl_of_drivesTerminal {c : Char} (h : DrivesTerminal c) : Unicode.IsControl c := by
  have listed : Within Unicode.IsControl
      (String.ofList ['\x07', '\x08', '\x0c', '\x1b', '\x7f']) := by decide
  rcases h with hmem | ⟨low, high⟩
  · exact within_ofList.mp listed c hmem
  · exact Or.inr ⟨Nat.le_of_succ_le low, high⟩

theorem not_drivesTerminal_of_isPrintable {c : Char} (h : Unicode.isPrintable c = true) :
    ¬ DrivesTerminal c :=
  mt isControl_of_drivesTerminal (Unicode.not_isControl_of_isPrintable h)

theorem harmless_of_printable {text : String} (printable : Printable text) : Harmless text :=
  printable.mono fun _ => not_drivesTerminal_of_isPrintable

theorem not_drivesTerminal_of_plain {c : Char} (plain : Plain c) : ¬ DrivesTerminal c :=
  not_drivesTerminal_of_isPrintable (Unicode.isPrintable_of_plain plain)

namespace Log

/-- Of a message every character is written in a harmless form. -/
theorem harmless_inert (c : Char) : ∀ c' ∈ inert c, ¬ DrivesTerminal c' := by
  rw [inert]
  split
  · intro c' hc'
    exact not_drivesTerminal_of_plain (plain_byteEscape c c' hc')
  next unlisted =>
  split
  · intro c' hc'
    exact not_drivesTerminal_of_plain (plain_codePointEscape c c' hc')
  next low =>
  rw [List.forall_mem_singleton]
  rintro (listed | high)
  · exact unlisted listed
  · exact low high

theorem harmless_inertText (message : String) : Harmless (inertText message) := by
  rw [Harmless, inertText, within_ofList, List.forall_mem_flatMap]
  intro c _
  exact harmless_inert c

/-- Whatever an event says, its line is harmless. -/
theorem harmless_line (event : Event) : Harmless (line event) := by
  have level : Harmless (levelColumn event.level) :=
    harmless_of_printable (printable_of_plain (plain_levelColumn event.level))
  have parts : ∀ part ∈ levelColumn event.level :: items event, Harmless part := by
    rw [List.forall_mem_cons, items, List.forall_mem_append]
    refine ⟨level, fun part hpart => ?_, fun part hpart => ?_⟩
    · rw [Option.mem_toList, Option.map_eq_some_iff] at hpart
      obtain ⟨message, -, rfl⟩ := hpart
      exact harmless_inertText message
    · obtain ⟨field, hfield, rfl⟩ := List.mem_map.mp hpart
      exact harmless_of_printable (printable_field event hfield)
  exact within_append.mpr ⟨within_intercalate (by decide) parts, by decide⟩

theorem harmless_text (least : Level) (events : List Event) : Harmless (text least events) := by
  refine within_join fun written hwritten => ?_
  obtain ⟨event, -, rfl⟩ := List.mem_map.mp hwritten
  exact harmless_line event

end Log

/-! ## Where texts of other people stand -/

/-- The fields of an event without the list of names. -/
def Event.unquoted (event : Event) : List (String × String) :=
  event.fields.filter (·.1 ≠ "vars")

/-- No field but the list of names is called by its name. -/
theorem Event.eq_sanitized_of_vars {event : Event} {field : String × String}
    (hfield : field ∈ event.fields) (vars : field.1 = "vars") :
    ∃ names, event = .sanitized names ∧ field.2 = quotedList names := by
  rw [Event.fields, List.mem_cons] at hfield
  rcases hfield with rfl | hdetail
  · simp at vars
  cases event with
  | sanitized names => exact ⟨names, rfl, by rw [List.mem_singleton.mp hdetail]⟩
  | validated argc =>
    rw [List.mem_singleton.mp hdetail] at vars
    simp at vars
  | normalized before =>
    simp only [Event.details, List.mem_cons, List.not_mem_nil, or_false] at hdetail
    rcases hdetail with rfl | rfl | rfl <;> simp at vars
  | rejected failure => cases hdetail

/-- Two command lines that the first gate refuses, or that it lets through and that then have
the same length and fare alike at the second. -/
structure Profile.SameGates (profile : Profile) (argv argv' : List Bytes) : Prop where
  script : profile.authorize argv = .ok () ↔ profile.authorize argv' = .ok ()
  fit : profile.authorize argv = .ok () → (profile.Fit argv ↔ profile.Fit argv')
  length : profile.authorize argv = .ok () → argv.length = argv'.length

section

variable {σ : Type} {host : Host σ} {profile : Profile} {env : Environment} {argv : List Bytes}
  {state : σ} {failure : Failure} {events : List Event}

theorem Told.names (told : Told host profile env argv state failure events) {names : List String}
    (listed : .sanitized names ∈ events) : names = env.names := by
  cases told with
  | refused gate | unfit script unfit | identityKept script fit identity
  | normalized script fit identity => simpa using listed

/-- Beside the messages and the names, the events of another environment and another command
line are the same, as long as the gates make no difference between them. -/
theorem Told.elsewhere (told : Told host profile env argv state failure events)
    (env' : Environment) {argv' : List Bytes} (same : profile.SameGates argv argv') :
    ∃ failure' events', Told host profile env' argv' state failure' events' ∧
      events'.map Event.unquoted = events.map Event.unquoted := by
  cases told with
  | refused gate =>
    cases gate' : profile.authorize argv' with
    | error failure' => exact ⟨failure', _, .refused gate', rfl⟩
    | ok => cases gate.symm.trans (same.script.mpr gate')
  | unfit script unfit =>
    exact ⟨failure, _, .unfit (same.script.mp script) (mt (same.fit script).mpr unfit), rfl⟩
  | identityKept script fit identity =>
    have fit' : profile.Fit argv' := (same.fit script).mp fit
    refine ⟨failure, _, .identityKept (same.script.mp script) fit' identity, ?_⟩
    rw [same.length script]
    rfl
  | normalized script fit identity =>
    have fit' : profile.Fit argv' := (same.fit script).mp fit
    refine ⟨failure, _, .normalized (same.script.mp script) fit' identity, ?_⟩
    rw [same.length script]
    rfl

/-- The environment has no part in the messages. -/
theorem Told.messages (told : Told host profile env argv state failure events)
    (env' : Environment) :
    ∃ events', Told host profile env' argv state failure events' ∧
      events'.map Event.message? = events.map Event.message? := by
  cases told with
  | refused gate => exact ⟨_, .refused gate, rfl⟩
  | unfit script unfit => exact ⟨_, .unfit script unfit, rfl⟩
  | identityKept script fit identity => exact ⟨_, .identityKept script fit identity, rfl⟩
  | normalized script fit identity => exact ⟨_, .normalized script fit identity, rfl⟩

end

/-! ## Every launch -/

section

variable {σ : Type} (host : Host σ) (profile : Profile) (env : Environment) (argv : List Bytes)
  (state : σ)

/-- The log of a launch, from any level on, does nothing to the terminal it is read on and
nothing to the launch. -/
structure LogHasNoEffect (outcome : Outcome σ) : Prop where
  /-- No log holds a character that a terminal acts on. -/
  harmless : ∀ build : Build, Harmless (Log.text build.leastLevel outcome.events)
  /-- The standard log consists of the warnings. -/
  standard : Log.text Build.standard.leastLevel outcome.events
    = String.join ((outcome.events.filter (·.level = .warn)).map Log.line)
  /-- The log with traces consists of all events. -/
  traced : Log.text Build.traced.leastLevel outcome.events
    = String.join (outcome.events.map Log.line)
  /-- Where names are listed, they are quoted. -/
  names : ∀ event ∈ outcome.events, ∀ field ∈ event.fields, field.1 = "vars" →
    field.2 = quotedList env.names
  /-- They are in no message. -/
  messages : ∀ env', (launch host profile env' argv state).events.map Event.message?
    = outcome.events.map Event.message?
  /-- No other field depends on them, or on what the caller has passed. -/
  elsewhere : ∀ env' argv', profile.SameGates argv argv' →
    (launch host profile env' argv' state).events.map Event.unquoted
      = outcome.events.map Event.unquoted
  /-- Whoever listens, the launch ends in the same way and the host is asked the same. -/
  unheard : ∃ requests,
    launch host.observed profile env argv (.fresh state)
        = ⟨outcome.failure, outcome.events, ⟨requests, outcome.state⟩⟩ ∧
      ∀ {τ : Type} (hear : τ → Event → τ) (heard : τ),
        launchAloud host.observed hear profile env argv ⟨.fresh state, heard⟩
          = .error outcome.failure
              ⟨⟨requests, outcome.state⟩, outcome.events.foldl hear heard⟩
  /-- A log is such a listener, and its text is what it has made of the events. -/
  written : ∀ least, outcome.events.foldl (Log.write least) "" = Log.text least outcome.events

/-- On every host, for every profile, environment and command line, a terminal is not driven by
the log of a launch, and the launch does not depend on who reads it. -/
theorem log_has_no_effect :
    LogHasNoEffect host profile env argv state (launch host profile env argv state) := by
  obtain ⟨requests, exit⟩ := launch_exit host profile env argv state
  have observed := exit.observed []
  exact {
    harmless := fun build => Log.harmless_text build.leastLevel _
    standard := Log.text_standard _
    traced := Log.text_traced _
    names := fun event hevent field hfield vars => by
      obtain ⟨names, rfl, quoted⟩ := Event.eq_sanitized_of_vars hfield vars
      rw [quoted, exit.told.names hevent]
    messages := fun env' => by
      obtain ⟨events', told', messages⟩ := exit.told.messages env'
      rw [← messages, (truthful_launch host profile argv state env').only _ _ told']
    elsewhere := fun env' argv' same => by
      obtain ⟨failure', events', told', elsewhere⟩ := exit.told.elsewhere env' same
      rw [← elsewhere, (truthful_launch host profile argv' state env').only _ _ told']
    unheard := ⟨requests, observed, fun hear heard => by
      rw [launchAloud_eq, Observed.fresh, observed]
      rfl⟩
    written := fun least => by
      rw [Log.foldl_write, String.empty_append] }

end

/-- A script and a variable whose names would clear a terminal and give it a new title. The log
shows both in full and does neither. -/
theorem log_has_no_effect_title :
    let profile : Profile := { Profile.system with env := [⟨"A\x1b[2J\x9f", "0"⟩] }
    let env : Environment := ⟨["A\x1b[2J\x9f=0"]⟩
    let argv := [[], utf8 "\x1b]0;\x07\x9b" ++ [0xFF]]
    let replies : Replies := ⟨.ok ⟨1000, 0, 1000, 48⟩, .ok (), .scriptMissing⟩
    let outcome := launch Host.scripted profile env argv replies
    let listed := "DEBUG stage=env-sanitized vars=[\"A\\u\x7b1b\x7d[2J\\u\x7b9f\x7d\"]\n"
    let refused := " WARN rejected: Invoke called with invalid script: "
      ++ "\\x1b]0;\\x07\\u\x7b9b\x7d\ufffd stage=env-sanitized\n"
    Environment.ofProfile profile = .ok env ∧
      LogHasNoEffect Host.scripted profile env argv replies outcome ∧
      Log.text Build.standard.leastLevel outcome.events = refused ∧
      Log.text Build.traced.leastLevel outcome.events = listed ++ refused := by
  intro profile env argv replies outcome listed refused
  exact ⟨rfl, log_has_no_effect Host.scripted profile env argv replies,
    by decide +kernel, by decide +kernel⟩

end GuardedLaunch
