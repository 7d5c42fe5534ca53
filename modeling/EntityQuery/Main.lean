import EntityQuery.CommandLine.Program

/-!
# Command line

Reads the settings file, the environment and the certificate file, and prints what the program
reports. The settings file of a user lies in a directory that is named after the program.
Connections are not opened at this place, so a command that needs a server finds none.
-/

namespace EntityQuery.CommandLine

/-- The text of a file, if it can be read. -/
def readText? (path : String) : IO (Option String) := do
  try
    return some (← IO.FS.readFile path)
  catch _ =>
    return none

/-- The settings file of the user, in the directory for settings or in the current one. -/
def userConfigPath : IO String := do
  let program := ((toString (← IO.appPath)).splitOn "/").getLast?.getD ""
  let named := (← IO.getEnv "XDG_CONFIG_HOME").filter (·.startsWith "/")
  let base := named.or ((← IO.getEnv "HOME").map (· ++ "/.config"))
  return base.getD "." ++ "/" ++ program ++ "/config.toml"

/-- The settings of the user; the default ones if there is no file. -/
def readUserSettings : IO (Except SettingsError Settings) := do
  let path ← userConfigPath
  try
    return Settings.load path (some (← IO.FS.readFile path))
  catch
    | .noFileOrDirectory .. => return .ok {}
    | _ => return .error (.unreadable path)

/-- The settings of the named file, or those of the user. -/
def readSettings (config : Option String) : IO (Except SettingsError Settings) := do
  match config with
  | some path => return Settings.load path (← readText? path)
  | none => readUserSettings

/-- What is around the program for some settings. -/
def lookAround (s : Settings) : IO Surroundings := do
  let certificate ← match s.connection.requiredCertificate? with
    | some path => readText? path
    | none => pure none
  return { password := ← IO.getEnv "PGPASSWORD", certificate }

/-- Prints a report. -/
def printReport (r : Report) : IO UInt32 := do
  r.output.forM IO.println
  r.notes.forM IO.eprintln
  return r.exitCode

end EntityQuery.CommandLine

open EntityQuery EntityQuery.CommandLine

/-- Runs the command that the arguments ask for. -/
def main (args : List String) : IO UInt32 := do
  match Invocation.ofArguments? args with
  | none => printReport .misused
  | some invocation =>
    match ← readSettings invocation.config with
    | .error e => printReport (.failed e.message)
    | .ok settings =>
      printReport (CommandLine.run settings (← lookAround settings) invocation.command)
