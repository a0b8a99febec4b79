import WorkloadScan.Settings.Arguments
import WorkloadScan.Settings.Json

/-! The command line: shows the settings that its words and the environment give. -/
namespace WorkloadScan

def environment : IO (List (String × String)) := do
  let names := Settings.Parameter.all.filterMap Settings.Parameter.envVar?
  let values ← names.mapM fun name => do pure ((← IO.getEnv name).map (name, ·))
  pure (values.filterMap id)

end WorkloadScan

open WorkloadScan in
def main (words : List String) : IO UInt32 := do
  let env ← environment
  match Settings.Arguments.read words fun name => (env.find? (·.1 = name)).map Prod.snd with
  | .ok settings =>
    IO.println settings.redacted.toJson.compact
    return 0
  | .error fault =>
    IO.eprintln ("error: " ++ fault.message)
    return 2
