import GuardedLaunch.Proofs.Exit

/-!
# The order of the gates

Seven gates stand between a caller and the interpreter. Which of them would stop a
launch is said of each gate on its own, without regard to the others; a launch then
reports the first gate that would, and asks nothing of the host that lies behind it.

- `Gate`, `Stops`: the gates, and what each of them stops for.
- `Gate.requests`: what a launch that a gate stops has asked of its host.
- `StopsFirst`: a gate that stops, with none before it that does.
- `RunExit.stopsFirst`: every ending of a launch has such a gate.
- `FailsClosed`: the failure and the requests of a launch are those of the first gate that
  stops. This is so on every host.
-/

namespace GuardedLaunch

/-- What may stop a launch. -/
inductive Gate where
  | profile
  | argumentCount
  | script
  | arguments
  | identity
  | signals
  | exec
  deriving DecidableEq

namespace Gate

/-- The place of a gate in the order in which they are passed. -/
def rank : Gate → Nat
  | profile => 0
  | argumentCount => 1
  | script => 2
  | arguments => 3
  | identity => 4
  | signals => 5
  | exec => 6

theorem rank_injective {gate other : Gate} (h : gate.rank = other.rank) : gate = other := by
  cases gate <;> cases other <;> first | rfl | cases h

/-- What has been asked of the host when a gate stops a launch: everything up to the
gate itself. -/
def requests (handover : Handover) : Gate → List Request
  | profile | argumentCount | script | arguments => [.wipe]
  | identity => [.wipe, .normalizeIdentity]
  | signals => [.wipe, .normalizeIdentity, .resetSignals]
  | exec => [.wipe, .normalizeIdentity, .resetSignals, .exec handover]

end Gate

variable {σ : Type}

/-- A gate stops a launch with a failure. The operations of the host are asked in the
states in which a launch would ask them; the other gates look at the profile and the
command line alone. -/
inductive Stops (host : Host σ) (profile : Profile) (argv : List Bytes) (state : σ) :
    Gate → Failure → Prop
  | profile {failure : Failure} (invalid : profile.validate = .error failure) :
      Stops host profile argv state .profile failure
  | argumentCount (short : argv.length < 2) :
      Stops host profile argv state .argumentCount .scriptMissing
  | script {candidate : Bytes} (named : argv[1]? = some candidate)
      (forbidden : ¬ profile.Permits candidate) :
      Stops host profile argv state .script (.scriptNotPermitted (decodeLossy candidate))
  | arguments {slot : Nat} (nul : FirstNul argv slot) :
      Stops host profile argv state .arguments
        (.notExecuted .invalidArgument s!"argument {slot}")
  | identity {failure : Failure} {after : σ}
      (answer : host.normalizeIdentity (host.wipe state) = .error failure after) :
      Stops host profile argv state .identity failure
  | signals {before : Identity} {failure : Failure} {settled after : σ}
      (normalized : host.normalizeIdentity (host.wipe state) = .ok before settled)
      (answer : host.resetSignals settled = .error failure after) :
      Stops host profile argv state .signals failure
  | exec {before : Identity} {settled clean : σ}
      (normalized : host.normalizeIdentity (host.wipe state) = .ok before settled)
      (reset : host.resetSignals settled = .ok () clean) :
      Stops host profile argv state .exec
        (host.exec (profile.prepared profile.environment argv) clean).1

section

variable {host : Host σ} {profile : Profile} {argv : List Bytes} {state : σ}

/-- A gate stops with one failure only. -/
theorem Stops.functional {gate : Gate} {failure other : Failure}
    (h : Stops host profile argv state gate failure)
    (h' : Stops host profile argv state gate other) : failure = other := by
  cases h with
  | profile invalid =>
    cases h' with
    | profile invalid' => exact Except.error.inj (invalid.symm.trans invalid')
  | argumentCount =>
    cases h' with
    | argumentCount => rfl
  | script named =>
    cases h' with
    | script named' => rw [Option.some.inj (named.symm.trans named')]
  | arguments nul =>
    cases h' with
    | arguments nul' => rw [nul.unique nul']
  | identity answer =>
    cases h' with
    | identity answer' => exact (EStateM.Result.error.inj (answer.symm.trans answer')).1
  | signals normalized answer =>
    cases h' with
    | signals normalized' answer' =>
      obtain ⟨-, rfl⟩ := EStateM.Result.ok.inj (normalized.symm.trans normalized')
      exact (EStateM.Result.error.inj (answer.symm.trans answer')).1
  | exec normalized reset =>
    cases h' with
    | exec normalized' reset' =>
      obtain ⟨-, rfl⟩ := EStateM.Result.ok.inj (normalized.symm.trans normalized')
      obtain ⟨-, rfl⟩ := EStateM.Result.ok.inj (reset.symm.trans reset')
      rfl

end

section

variable (host : Host σ) (profile : Profile) (argv : List Bytes) (state : σ)

/-- A gate lets a launch through. -/
def Passes (gate : Gate) : Prop :=
  ∀ failure, ¬ Stops host profile argv state gate failure

/-- Every gate before a place lets a launch through. -/
def PassesBefore (place : Nat) : Prop :=
  ∀ gate : Gate, gate.rank < place → Passes host profile argv state gate

/-- A gate stops a launch that every gate before it lets through. -/
def StopsFirst (gate : Gate) (failure : Failure) : Prop :=
  PassesBefore host profile argv state gate.rank ∧ Stops host profile argv state gate failure

end

section

variable {host : Host σ} {profile : Profile} {argv : List Bytes} {state : σ}

/-- One more gate that lets a launch through. -/
theorem PassesBefore.next {gate : Gate}
    (before : PassesBefore host profile argv state gate.rank)
    (h : Passes host profile argv state gate) :
    PassesBefore host profile argv state (gate.rank + 1) := by
  intro other hlt
  rcases Nat.lt_or_eq_of_le (Nat.le_of_lt_succ hlt) with hlt | heq
  · exact before other hlt
  · rw [Gate.rank_injective heq]
    exact h

/-- At most one gate stops first, and with one failure only. -/
theorem StopsFirst.unique {gate other : Gate} {failure failure' : Failure}
    (h : StopsFirst host profile argv state gate failure)
    (h' : StopsFirst host profile argv state other failure') :
    other = gate ∧ failure' = failure := by
  rcases Nat.lt_trichotomy other.rank gate.rank with hlt | heq | hlt
  · exact absurd h'.2 (h.1 other hlt failure')
  · cases Gate.rank_injective heq
    exact ⟨rfl, h'.2.functional h.2⟩
  · exact absurd h.2 (h'.1 gate hlt failure)

/-! ## Gates that let a launch through -/

theorem passesBefore_zero : PassesBefore host profile argv state 0 :=
  fun _ hlt => absurd hlt (Nat.not_lt_zero _)

theorem passesBefore_argumentCount (valid : profile.validate = .ok ()) :
    PassesBefore host profile argv state Gate.argumentCount.rank := by
  refine @PassesBefore.next _ _ _ _ _ .profile passesBefore_zero fun failure stops => ?_
  cases stops with
  | profile invalid =>
    rw [valid] at invalid
    cases invalid

theorem passesBefore_script (valid : profile.validate = .ok ()) {candidate : Bytes}
    (named : argv[1]? = some candidate) :
    PassesBefore host profile argv state Gate.script.rank := by
  refine (passesBefore_argumentCount valid).next fun failure stops => ?_
  cases stops with
  | argumentCount short =>
    rw [List.getElem?_eq_none (Nat.le_of_lt_succ short)] at named
    cases named

theorem passesBefore_arguments (valid : profile.validate = .ok ())
    (script : profile.authorize argv = .ok ()) :
    PassesBefore host profile argv state Gate.arguments.rank := by
  obtain ⟨permitted, hpermitted, named⟩ := Profile.authorize_ok_iff.mp script
  refine (passesBefore_script valid named).next fun failure stops => ?_
  cases stops with
  | script named' forbidden =>
    cases Option.some.inj (named.symm.trans named')
    exact forbidden ⟨permitted, hpermitted, rfl⟩

theorem passesBefore_identity (valid : profile.validate = .ok ())
    (script : profile.authorize argv = .ok ()) {env : Environment} {handover : Handover}
    (prepared : profile.handover env argv = .ok handover) :
    PassesBefore host profile argv state Gate.identity.rank := by
  obtain ⟨-, hclean, -⟩ := Profile.handover_ok_iff.mp prepared
  refine (passesBefore_arguments valid script).next fun failure stops => ?_
  cases stops with
  | @arguments slot nul =>
    obtain ⟨arg, harg, hmem⟩ := nul.found
    obtain ⟨index, rfl⟩ := Nat.exists_eq_succ_of_ne_zero (Nat.ne_of_gt nul.pos)
    rw [← List.getElem?_tail] at harg
    exact hclean arg (List.mem_of_getElem? harg) hmem

theorem passesBefore_signals {before : Identity} {settled : σ}
    (earlier : PassesBefore host profile argv state Gate.identity.rank)
    (normalized : host.normalizeIdentity (host.wipe state) = .ok before settled) :
    PassesBefore host profile argv state Gate.signals.rank := by
  refine earlier.next fun failure stops => ?_
  cases stops with
  | identity answer =>
    rw [normalized] at answer
    cases answer

theorem passesBefore_exec {before : Identity} {settled clean : σ}
    (earlier : PassesBefore host profile argv state Gate.identity.rank)
    (normalized : host.normalizeIdentity (host.wipe state) = .ok before settled)
    (reset : host.resetSignals settled = .ok () clean) :
    PassesBefore host profile argv state Gate.exec.rank := by
  refine (passesBefore_signals earlier normalized).next fun failure stops => ?_
  cases stops with
  | signals normalized' answer =>
    obtain ⟨-, rfl⟩ := EStateM.Result.ok.inj (normalized.symm.trans normalized')
    rw [reset] at answer
    cases answer

/-! ## The first gate that stops -/

/-- However a launch ends, a gate has stopped it that no gate before would have, and the
requests are those up to that gate. -/
theorem RunExit.stopsFirst {requests : List Request} {outcome : Outcome σ}
    (exit : RunExit host profile argv state requests outcome) :
    ∃ gate, StopsFirst host profile argv state gate outcome.failure ∧
      requests = gate.requests (profile.prepared profile.environment argv) := by
  cases exit with
  | unusable invalid =>
    exact ⟨.profile, ⟨passesBefore_zero, .profile invalid⟩, rfl⟩
  | launched valid exit =>
    cases exit with
    | refused gate =>
      rcases Profile.authorize_error_iff.mp gate with
        ⟨short, rfl⟩ | ⟨candidate, named, forbidden, rfl⟩
      · exact ⟨.argumentCount, ⟨passesBefore_argumentCount valid, .argumentCount short⟩, rfl⟩
      · exact ⟨.script, ⟨passesBefore_script valid named, .script named forbidden⟩, rfl⟩
    | unprepared script gate =>
      -- the interpreter has been validated, so an argument is to blame
      have hinterpreter := Profile.interpreter_of_validate valid
      obtain ⟨slot, nul, rfl⟩ := (Profile.handover_error_iff hinterpreter).mp gate
      exact ⟨.arguments, ⟨passesBefore_arguments valid script, .arguments nul⟩, rfl⟩
    | identityKept script prepared identity =>
      exact ⟨.identity, ⟨passesBefore_identity valid script prepared, .identity identity⟩, rfl⟩
    | signalsKept script prepared identity signals =>
      have earlier : PassesBefore host profile argv state Gate.identity.rank :=
        passesBefore_identity valid script prepared
      exact ⟨.signals, ⟨passesBefore_signals earlier identity, .signals identity signals⟩, rfl⟩
    | executed script prepared identity signals =>
      have earlier : PassesBefore host profile argv state Gate.identity.rank :=
        passesBefore_identity valid script prepared
      obtain ⟨-, -, rfl⟩ := Profile.handover_ok_iff.mp prepared
      exact ⟨.exec, ⟨passesBefore_exec earlier identity signals, .exec identity signals⟩, rfl⟩

/-- The gates before a place all let a launch through when the first one that stops is
not among them. -/
theorem StopsFirst.passesBefore_iff {gate : Gate} {failure : Failure}
    (h : StopsFirst host profile argv state gate failure) (place : Nat) :
    PassesBefore host profile argv state place ↔ place ≤ gate.rank := by
  constructor
  · intro before
    exact Nat.le_of_not_lt fun hlt => before gate hlt failure h.2
  · intro hle other hlt
    exact h.1 other (Nat.lt_of_lt_of_le hlt hle)

end

/-! ## Requests -/

namespace Gate

/-- All that a launch can ask of its host, in order. -/
def allRequests (handover : Handover) : List Request :=
  [.wipe, .normalizeIdentity, .resetSignals, .exec handover]

theorem requests_ordered (gate : Gate) (handover : Handover) :
    gate.requests handover <+: allRequests handover := by
  cases gate with
  | profile | argumentCount | script | arguments => exact ⟨_, rfl⟩
  | identity => exact ⟨_, rfl⟩
  | signals => exact ⟨_, rfl⟩
  | exec => exact ⟨[], rfl⟩

theorem requests_ne_nil (gate : Gate) (handover : Handover) :
    gate.requests handover ≠ [] := by
  cases gate <;> exact List.cons_ne_nil _ _

theorem allRequests_nodup (handover : Handover) : (allRequests handover).Nodup := by
  simp [allRequests]

theorem mem_requests_normalizeIdentity (gate : Gate) (handover : Handover) :
    .normalizeIdentity ∈ gate.requests handover ↔ Gate.identity.rank ≤ gate.rank := by
  cases gate <;> simp [requests, rank]

theorem mem_requests_resetSignals (gate : Gate) (handover : Handover) :
    .resetSignals ∈ gate.requests handover ↔ Gate.signals.rank ≤ gate.rank := by
  cases gate <;> simp [requests, rank]

theorem mem_requests_exec (gate : Gate) (handover other : Handover) :
    .exec other ∈ gate.requests handover ↔ Gate.exec.rank ≤ gate.rank ∧ other = handover := by
  cases gate <;> simp [requests, rank]

end Gate

/-! ## The order -/

/-- A failure and the requests made before it are those of the first gate that stops: no
failure of a later gate is reported, nothing behind the gate is asked, and everything up
to it is asked once and in order. -/
structure FailsClosed (host : Host σ) (profile : Profile) (argv : List Bytes) (state : σ)
    (failure : Failure) (requests : List Request) : Prop where
  stopped : ∃ gate, StopsFirst host profile argv state gate failure
  only : ∀ gate other, StopsFirst host profile argv state gate other → other = failure
  nonempty : requests ≠ []
  ordered : requests <+: Gate.allRequests (profile.prepared profile.environment argv)
  once : requests.Nodup
  identity : .normalizeIdentity ∈ requests ↔
    PassesBefore host profile argv state Gate.identity.rank
  signals : .resetSignals ∈ requests ↔
    PassesBefore host profile argv state Gate.signals.rank
  exec : ∀ handover, .exec handover ∈ requests ↔
    PassesBefore host profile argv state Gate.exec.rank ∧
      handover = profile.prepared profile.environment argv

/-- On every host a launch fails closed, and watching the host changes nothing in it. -/
theorem first_gate_decides (host : Host σ) (profile : Profile) (argv : List Bytes)
    (state : σ) :
    FailsClosed host profile argv state (run host profile argv state).failure
        (run host.observed profile argv (.fresh state)).state.requests ∧
      (run host.observed profile argv (.fresh state)).failure
        = (run host profile argv state).failure ∧
      (run host.observed profile argv (.fresh state)).state.state
        = (run host profile argv state).state := by
  obtain ⟨requests, exit⟩ := run_exit host profile argv state
  rw [exit.observed]
  refine ⟨?_, rfl, rfl⟩
  obtain ⟨gate, first, rfl⟩ := exit.stopsFirst
  have hfront := gate.requests_ordered (profile.prepared profile.environment argv)
  exact {
    stopped := ⟨gate, first⟩
    only := fun _ _ h => (first.unique h).2
    nonempty := gate.requests_ne_nil _
    ordered := hfront
    once := (Gate.allRequests_nodup _).sublist hfront.sublist
    identity := by
      rw [gate.mem_requests_normalizeIdentity, first.passesBefore_iff]
    signals := by
      rw [gate.mem_requests_resetSignals, first.passesBefore_iff]
    exec := by
      intro handover
      rw [gate.mem_requests_exec, first.passesBefore_iff] }

end GuardedLaunch
