import GuardedLaunch.Profile.Basic

/-!
# The shipped profiles

Both profiles permit the same one script and differ in the interpreter that
runs it and in what that interpreter has to be told about its installation.

- `Profile.system`: the interpreter of the system.
- `Profile.conda`: the interpreter of a separate installation, with the
  variables that identify it.
-/

namespace GuardedLaunch.Profile

/-- The script that takes an uploaded file in. -/
def ingestScript : String := "/opt/FitsStorage/scripts/ingest_uploaded_file.py"

/-- Run the script under the interpreter of the system. -/
def system : Profile where
  interpreter := "/usr/bin/python"
  scripts := [ingestScript]
  env := [⟨"PYTHONPATH", "/opt/FitsStorage"⟩]

/-- Run the script under the interpreter of a separate installation. -/
def conda : Profile where
  interpreter := "/opt/anaconda3/envs/fitsstorage/bin/python"
  scripts := [ingestScript]
  env :=
    [⟨"PYTHONPATH", "/opt/FitsStorage"⟩,
     ⟨"CONDA_DEFAULT_ENV", "fitsstorage"⟩,
     ⟨"CONDA_PREFIX", "/opt/anaconda3/envs/fitsstorage"⟩]

end GuardedLaunch.Profile
