import CandleFeed.Command.Options
import CandleFeed.Config.Reader

/-!
# The command

Reads the settings of a feed, from a file or from the environment alone, checks them, and prints
them as they would be used, followed by the instruments that would be subscribed.  Settings that
cannot be used end the command with a message.
-/

namespace CandleFeed

/-- The variables of the environment in which settings may stand. -/
def settingVariables : List String :=
  ["QUOTEBAR_AUTH_TOKEN", "QUOTEBAR_REDIS_URL", "QUOTEBAR_DATABASE_URL", "QUOTEBAR_SYMBOLS"]

/-- The environment. -/
def readEnvironment : IO FeedConfig.Environment := do
  let values ← settingVariables.mapM fun name => return (name, ← IO.getEnv name)
  return fun name => (values.lookup name).join

/-- The text of a file, if it can be read. -/
def readFile? (path : String) : IO (Option String) := do
  try
    return some (← IO.FS.readFile path)
  catch _ => return none

/-- The settings for a command line. -/
def settingsFor (o : Options) : IO (Except ConfigFault FeedConfig) := do
  let env ← readEnvironment
  let path := o.config.or (← IO.getEnv "QUOTEBAR_CONFIG")
  let loaded ← match path with
    | some path => do pure (FeedConfig.load (← readFile? path) env)
    | none => pure (FeedConfig.ofEnvironment env)
  return loaded.bind fun c =>
    let c := o.apply c
    c.validate.map fun _ => c

/-- Prints the settings, or why they cannot be used; the result is the exit code. -/
def report : Except ConfigFault FeedConfig → IO UInt32
  | .error fault => do
    IO.eprintln ("Error: " ++ fault.message?.getD "failed to parse the settings")
    return 1
  | .ok c => do
    IO.println c.toJson.render
    match c.instruments with
    | .ok is => is.forM fun i => IO.println i.name
    | .error _ => pure ()
    return 0

end CandleFeed

/-- The command. -/
def main (arguments : List String) : IO UInt32 := do
  match CandleFeed.Options.parse arguments with
  | .error fault => do
    IO.eprintln ("error: " ++ fault.message)
    return 2
  | .ok options => CandleFeed.report (← CandleFeed.settingsFor options)
