import BaseGateway.Command.Run

/-!
# The program

Reads the environment and the files, runs the command line, and writes back what it changed. There
is no network here: every call to the service fails.
-/

namespace BaseGateway.Program

/-- The variables of the environment that matter. -/
def variableNames : List String :=
  ["AIRTABLE_PAT", "AIRTABLE_BASE_ID", "AIRTABLE_TIMEOUT", "LOG_LEVEL", "MCP_TRANSPORT",
   "MCP_HOST", "MCP_PORT", "MCP_PATH"]

def readEnvironment : IO Environment := do
  let entries ← variableNames.mapM fun name => do return (name, ← IO.getEnv name)
  return entries.filterMap fun (name, s) => s.map (name, ·)

def isFolder (path : String) : IO Bool := do
  try
    (← IO.FS.realPath path).isDir
  catch _ => return false

/-- The folder of the settings. -/
def settingsFolder (home : String) : IO String := do
  return (← IO.getEnv "AIRTABLE_MCP_CONFIG_DIR").getD (home ++ "/.airtable-mcp")

def readSettings (home : String) : IO SettingsFile := do
  let path := (← settingsFolder home) ++ "/config.json"
  if ← isFolder path then return { path, content := .directory }
  try
    return { path, content := .text (← IO.FS.readFile path) }
  catch _ => return { path }

/-- The folders that the words of a command line lead through. -/
def foldersIn (args : List String) : IO (List String) := do
  let paths := args.flatMap fun word =>
    let steps := Folder.steps word
    (List.range (steps.length + 1)).map fun n => Folder.join word (steps.take n)
  paths.filterM isFolder

/-- The least level of messages whose weight reaches `weight`. -/
def threshold (weight : Nat) : Level :=
  if weight ≤ Level.debug.weight then .debug
  else if weight ≤ Level.info.weight then .info
  else if weight ≤ Level.warning.weight then .warning
  else .error

def readConsole (args : List String) : IO (Console Float) := do
  let home := (← IO.getEnv "HOME").getD ""
  let environment ← readEnvironment
  let settings ← readSettings home
  let folders ← foldersIn args
  let now := (← IO.monoMsNow).toFloat / 1000
  let (level, journal) := (Settings.logLevel environment settings).run.run {}
  let level := level.toOption.getD Level.info.weight
  return {
    now, environment, settings, journal := { journal with threshold := threshold level }
    machine := { home, executable := (← IO.appPath).toString }
    folder := { hasFolder := folders.contains } }

/-- Writes back what a command changed. -/
def writeBack (start last : Console Float) : IO Unit := do
  match last.settings.content with
  | .text s =>
    if last.settings.content != start.settings.content then
      let home := (← IO.getEnv "HOME").getD ""
      IO.FS.createDirAll (← settingsFolder home)
      IO.FS.writeFile last.settings.path s
  | _ => return
  for (path, text) in last.folder.files do
    IO.FS.writeFile path text

def run (args : List String) : IO UInt32 := do
  let start ← readConsole args
  let (ended, last) := CommandLine.run args start
  writeBack start last
  for note in last.journal.notes do
    IO.eprintln note.text
  IO.print last.printed
  match ended with
  | .exit code => return code.toUInt32
  | .failed f =>
    IO.eprintln f.message
    return 1
  | .listening _ => return 0

end BaseGateway.Program

def main (args : List String) : IO UInt32 := BaseGateway.Program.run args
