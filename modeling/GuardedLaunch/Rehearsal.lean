import GuardedLaunch.Answer
import GuardedLaunch.Launch

/-!
# Rehearsals

A rehearsal goes through the parts of a launch against a scripted host, so that
nothing happens to the process, and shows what each part would give back, report
and ask for. The environment built by the last successful sanitizing is kept for
the launches that follow.

- `Rehearsal`: what is rehearsed with.
- `Rehearsal.Step`, `Rehearsal.follow`: the steps.
- `Rehearsal.play`: a sequence of them.
-/

namespace GuardedLaunch

/-- A profile, a command line, the replies of the host, and the environment that
a launch is given, once there is one. -/
structure Rehearsal where
  profile : Profile
  argv : List Bytes
  replies : Replies
  kept : Option Environment

namespace Rehearsal

/-- A rehearsal before its first step. -/
def start (profile : Profile) (argv : List Bytes) (replies : Replies) : Rehearsal :=
  { profile, argv, replies, kept := none }

/-- A step of a rehearsal: replace something, or go through a part of a
launch. -/
inductive Step where
  | useProfile (profile : Profile)
  | useArgv (argv : List Bytes)
  | useReplies (replies : Replies)
  | validate
  | authorize
  | interpreterArgv
  | sanitize
  | launch
  | run

/-- What a part of a launch gave back, reported and asked of the host. -/
structure Report where
  answer : Answer
  events : List Event
  requests : List Request

namespace Report

/-- The report of a part that asks nothing of the host. -/
def quiet (answer : Answer) : Report :=
  { answer, events := [], requests := [] }

/-- The report of a launch that was watched. -/
def ofOutcome (outcome : Outcome (Observed Replies)) : Report where
  answer := .failed outcome.failure
  events := outcome.events
  requests := outcome.state.requests

end Report

/-- The scripted host under observation. -/
def host : Host (Observed Replies) :=
  Host.scripted.observed

/-- Sanitize, and keep the environment if there is one. -/
def sanitized (rehearsal : Rehearsal) : Report × Rehearsal :=
  let result := GuardedLaunch.sanitize host rehearsal.profile (.fresh rehearsal.replies)
  let report : Report :=
    { answer := .ofExcept .environment result.1, events := [], requests := result.2.requests }
  match result.1 with
  | .ok env => (report, { rehearsal with kept := some env })
  | .error _ => (report, rehearsal)

/-- Launch in the environment that was kept or, if none was, in the one that the
profile describes. -/
def launched (rehearsal : Rehearsal) : Report :=
  let environment : Except Failure Environment :=
    match rehearsal.kept with
    | some env => .ok env
    | none => Environment.ofProfile rehearsal.profile
  match environment with
  | .error failure => .quiet (.failed failure)
  | .ok env =>
    .ofOutcome (GuardedLaunch.launch host rehearsal.profile env rehearsal.argv
      (.fresh rehearsal.replies))

/-- Go through the whole launch. -/
def ran (rehearsal : Rehearsal) : Report :=
  .ofOutcome (GuardedLaunch.run host rehearsal.profile rehearsal.argv
    (.fresh rehearsal.replies))

/-- Follow a step. A step that only replaces something has no report. -/
def follow (rehearsal : Rehearsal) : Step → Option Report × Rehearsal
  | .useProfile profile => (none, { rehearsal with profile })
  | .useArgv argv => (none, { rehearsal with argv })
  | .useReplies replies => (none, { rehearsal with replies })
  | .validate => (some (.quiet (.ofCheck rehearsal.profile.validate)), rehearsal)
  | .authorize =>
    (some (.quiet (.ofCheck (rehearsal.profile.authorize rehearsal.argv))), rehearsal)
  | .interpreterArgv =>
    let argv := rehearsal.profile.interpreterArgv rehearsal.argv
    (some (.quiet (.ofExcept .arguments argv)), rehearsal)
  | .sanitize =>
    let sanitized := rehearsal.sanitized
    (some sanitized.1, sanitized.2)
  | .launch => (some rehearsal.launched, rehearsal)
  | .run => (some rehearsal.ran, rehearsal)

/-- The reports of a sequence of steps. -/
def play (rehearsal : Rehearsal) : List Step → List (Option Report)
  | [] => []
  | step :: rest =>
    let followed := rehearsal.follow step
    followed.1 :: followed.2.play rest

end Rehearsal

end GuardedLaunch
