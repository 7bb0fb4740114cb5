import PubSub.Journal
import PubSub.Settings.Dotenv
import PubSub.Settings.Loading

/-! # The program

Load the settings, set up the registry, serve the input.

* **`Policy.denying`** — the policy that refuses titles by how they begin.
* **`Registry.ofSettings`** — the registry that the program begins with.
* **`Program.run`** — everything the program does with its files, environment and input: the
  transcript of the session, the records it tells, and its exit code. -/

namespace PubSub

/-- The policy that **refuses** the titles that begin with one of the given texts; the reason names
the first that fits. -/
def Policy.denying (beginnings : List String) : Policy := fun title _ =>
  (beginnings.find? fun beginning => beginning.toList.isPrefixOf title.toList).map fun beginning =>
    "prefix " ++ beginning ++ " is denied"

/-- The **registry** that the program begins with. -/
def Registry.ofSettings (settings : RegistrySettings) : Registry :=
  if settings.denyPrefixes.isEmpty then .empty
  else Registry.empty.setPolicy (some (.denying settings.denyPrefixes))

namespace Program

/-- The file of environment variables. -/
def dotenvPath : String := ".env"

/-- Why the program **does not start**. -/
inductive StartError
  /-- The file of environment variables gives a variable a value that none can have. -/
  | unusableVariable
  /-- There are no settings. -/
  | settings (cause : SettingsError)
  deriving DecidableEq, Repr

/-- The wording of an error. -/
def StartError.message : StartError → String
  | unusableVariable => "a value in " ++ dotenvPath ++ " holds NUL"
  | settings cause => cause.message

/-- The exit code that tells of an error. -/
def StartError.exitCode : StartError → UInt8
  | unusableVariable => 101
  | settings _ => 1

/-- The environment with the variables of the file. -/
def environment? (files : Files) (env : Environment) : Option Environment :=
  match files.get? dotenvPath with
  | some file => Dotenv.load? env file
  | none => some env

/-- The **settings** of the program: the file of environment variables is loaded first. -/
def settings (files : Files) (env : Environment) : Except StartError Settings :=
  match environment? files env with
  | none => .error .unusableVariable
  | some env =>
    match Settings.load files env with
    | .error cause => .error (.settings cause)
    | .ok settings => .ok settings

/-- The **outcome** of a run. -/
structure Outcome where
  /-- The replies written to standard output. -/
  replies : List Reply
  /-- The records that pass the threshold of the log. -/
  records : List LogRecord
  /-- The exit code. -/
  exitCode : UInt8

/-- What is told of a session: its beginning, its lines, and its end if the input was read to the
end. -/
def sessionRecords (t : Transcript) : List LogRecord :=
  .serving :: t.exchanges.flatMap Exchange.records ++
    (if t.failure.isNone then [.inputClosed] else [])

/-- **Run** the program. Without usable settings it does nothing and fails; it also fails if the
session ends early. -/
def run (clock : Nat → Time) (files : Files) (env : Environment) (input : List UInt8) : Outcome :=
  match settings files env with
  | .error e => ⟨[], [], e.exitCode⟩
  | .ok settings =>
    let threshold := LogLevel.ofSetting settings.logLevel
    let t := serve settings.registry clock none (.ofSettings settings.registry) input
    ⟨t.replies, (sessionRecords t).filter fun r => threshold.admits r.level,
      if t.failure.isNone then 0 else 1⟩

end Program

end PubSub
