import Std.Time.DateTime.Timestamp
import PubSub.Program

/-! # Command line

Reads the files and the environment, serves standard input line by line, writes replies to standard
output and the log to standard error. -/

namespace PubSub

/-- The text of a file, if it can be read. -/
def readFile? (path : String) : IO (Option String) := do
  try
    pure (some (← IO.FS.readFile path))
  catch _ => pure none

/-- The text of the nearest file of environment variables, in the working directory or above it. -/
def readDotenv? : IO (Option String) := do
  let depth := (← IO.currentDir).toString.toList.count '/'
  for steps in List.range (depth + 1) do
    let up := String.join (List.replicate steps "../")
    if let some text ← readFile? (up ++ Program.dotenvPath) then return some text
  return none

/-- The files that matter. -/
def readFiles : IO Files := do
  let mut files : Files := []
  if let some text ← readDotenv? then
    files := files ++ [(Program.dotenvPath, text)]
  for path in [tomlPath, jsonPath] do
    if let some text ← readFile? path then
      files := files ++ [(path, text)]
  pure files

/-- The environment, as the system shows it. -/
def readEnvironment : IO Environment := do
  try
    let bytes ← IO.FS.readBinFile "/proc/self/environ"
    pure ((bytes.toList.splitOn 0).filterMap fun item => do
      let text ← decodeLine item
      let cs := text.toList
      let name := cs.takeWhile (· != '=')
      if name.isEmpty then none
      else some (String.ofList name, String.ofList (cs.drop (name.length + 1))))
  catch _ => pure []

/-- Write a record if it passes the threshold. -/
def writeRecord (threshold : LogLevel) (record : LogRecord) : IO Unit := do
  if threshold.admits record.level then
    IO.eprintln (record.level.name ++ " " ++ record.text)

/-- Serve standard input line by line; the answer says whether it was read to its end. -/
partial def serveInput (settings : RegistrySettings) (threshold : LogLevel) (input output : IO.FS.Stream)
    (r : Registry) : IO Bool := do
  let bytes ← readLine input ByteArray.empty
  if bytes.isEmpty then return true
  let now ← Std.Time.Timestamp.now
  let t := serve settings (fun _ => now.toNanosecondsSinceUnixEpoch.val) none r bytes.toList
  for e in t.exchanges do
    output.putStrLn e.reply.line
    output.flush
    for record in e.records do
      writeRecord threshold record
  if t.failure.isSome then return false
  serveInput settings threshold input output t.registry
where
  /-- The bytes of one line, with its line feed. -/
  readLine (input : IO.FS.Stream) (line : ByteArray) : IO ByteArray := do
    let byte ← input.read 1
    if byte.isEmpty then return line
    let line := line ++ byte
    if byte[0]? = some lineFeed then return line
    readLine input line

end PubSub

open PubSub in
/-- The program. -/
def main : IO UInt32 := do
  match Program.settings (← readFiles) (← readEnvironment) with
  | .error e =>
    IO.eprintln ("Error: " ++ e.message)
    return e.exitCode.toUInt32
  | .ok settings =>
    let threshold := LogLevel.ofSetting settings.logLevel
    writeRecord threshold .serving
    let complete ← serveInput settings.registry threshold (← IO.getStdin) (← IO.getStdout)
      (.ofSettings settings.registry)
    if complete then
      writeRecord threshold .inputClosed
      return 0
    else
      IO.eprintln "Error: stream did not contain valid UTF-8"
      return 1
