import PathRouter.Environment
import PathRouter.Files.Snapshot
import PathRouter.Log.Filter
import PathRouter.Service.Error
/-!
# Configuration of the log

What the log tells, how and where.  `LogConfig.filter` decides which entries are written: the directives of the
configuration come before those of the variable `RUST_LOG`, and those before the level.  `LogConfig.setUp` checks the
filter, opens the output and installs the log, which fails in a process that has one, for a log can be installed once
only.  `LogConfig.install` is for such a process.
-/
namespace PathRouter

/-- When a file of a rolling log is followed by the next one. -/
inductive Rotation where
  | minutely | hourly | daily | never
deriving Repr, DecidableEq

/-- Where entries go. -/
inductive LogOutput where
  | stdout
  | stderr
  /-- To the end of one file. -/
  | file (path : String)
  /-- To files of a directory that share the start of their names. -/
  | rolling (directory namesStart : String) (rotation : Rotation)
deriving Repr, DecidableEq

structure LogConfig where
  level : LogLevel := .info
  format : LogFormat := .json
  output : LogOutput := .stdout
  threadIds : Bool := false
  targets : Bool := true
  fileAndLine : Bool := false
  spans : Bool := false
  colors : Bool := false
  /-- Directives that stand before the level. -/
  directives : Option String := none
deriving Repr, DecidableEq

/-- Why a log cannot be set up. -/
inductive LogFault where
  /-- The directives do not make a filter. -/
  | badDirectives (directives : String)
  | cannotOpen (fault : FileFault)
  | installedBefore
deriving Repr, DecidableEq

/-- The failure that is reported of a fault.  What a filter or an installation fails on is not told; a star stands for
it. -/
def LogFault.report : LogFault → ServiceError
  | .badDirectives directives => .logging ("invalid filter '" ++ directives ++ "': *")
  | .cannotOpen fault => .io fault.message
  | .installedBefore => .logging "*"

namespace LogConfig

/-- The variable that holds directives. -/
def variableName : String := "RUST_LOG"

/-- The filter of a configuration.  Directives of the environment that make no filter are passed over. -/
def filter (c : LogConfig) (env : Environment) : Except LogFault LogFilter :=
  match c.directives with
  | some directives =>
    match LogFilter.ofText? directives with
    | some f => .ok f
    | none => .error (.badDirectives directives)
  | none => .ok (((env.get? variableName).bind LogFilter.ofText?).getD (.ofLevel c.level))

/-- Opens the first file of a rolling log, and makes its directory if that is what is missing.  Only a log that never
rotates has a file whose name is known before the time is. -/
def openRolling (directory namesStart : String) (files : Snapshot) : Except FileFault Snapshot :=
  let path := FilePath.join directory namesStart
  match files.openForAppend path with
  | .ok files => .ok files
  | .error e =>
    match path.parent? with
    | none => .error e
    | some parent => (files.makeDirectories parent).bind (·.openForAppend path)

/-- The files once the output is open. -/
def openOutput (output : LogOutput) (files : Snapshot) : Except FileFault Snapshot :=
  match output with
  | .stdout | .stderr => .ok files
  | .file path => files.openForAppend (.ofText path)
  | .rolling directory namesStart _ => openRolling directory namesStart files

/-- Installs a log in a process that has one already: the fault, and the files that are left. -/
def install (c : LogConfig) (env : Environment) (files : Snapshot) : LogFault × Snapshot :=
  match c.filter env with
  | .error fault => (fault, files)
  | .ok _ =>
    match openOutput c.output files with
    | .error fault => (.cannotOpen fault, files)
    | .ok files => (.installedBefore, files)

/-- Sets up a log; `installed` tells whether the process has one already.  The fault if there is one, and the files that
are left. -/
def setUp (c : LogConfig) (env : Environment) (files : Snapshot) (installed : Bool) :
    Except LogFault Unit × Snapshot :=
  match c.filter env with
  | .error fault => (.error fault, files)
  | .ok _ =>
    match openOutput c.output files with
    | .error fault => (.error (.cannotOpen fault), files)
    | .ok files => (if installed then .error .installedBefore else .ok (), files)

/-- Where there is a log, setting up another one is `install`. -/
theorem setUp_installed (c : LogConfig) (env : Environment) (files : Snapshot) :
    c.setUp env files true = (.error (c.install env files).1, (c.install env files).2) := by
  unfold setUp install
  cases c.filter env with
  | error fault => rfl
  | ok f => cases openOutput c.output files <;> rfl

end LogConfig
end PathRouter
