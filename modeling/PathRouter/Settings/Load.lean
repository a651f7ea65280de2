import PathRouter.Log.Config
import PathRouter.Service.Config
import PathRouter.Settings.Format
import PathRouter.Settings.Override
import PathRouter.Settings.Rules
/-!
# Loading and using settings

Settings come from a text, from a file or from the environment.  `Settings.loadBy` is what a service does when it starts:
it loads the nearest `.env` file into the environment, reads a file if there is one, lets the environment override it, and
checks the rules.  Overrides are a map, and a listing tells in which order they are taken up; without one this is the
ascending order.  Settings in use give the configuration of the log and the page for requests that no route takes.
-/
namespace PathRouter
namespace Settings

/-! ## Sources -/

/-- Reads a text.  Assignments are overrides of the defaults. -/
def parseBy (o : Listing) (format : SettingsFormat) (env : Environment) (content : String) :
    Except SettingsError Settings :=
  match format.parse env content with
  | .error e => .error e
  | .ok v =>
    match format with
    | .env => overrideBy o {} (Override.collect (some Override.nameStart) v.texts)
    | .json | .toml => (ofValue v).mapError .shape

def parse (format : SettingsFormat) (env : Environment) (content : String) : Except SettingsError Settings :=
  parseBy .ascending format env content

/-- Reads the file at a path, whose name tells its format. -/
def ofFileBy (o : Listing) (env : Environment) (files : Snapshot) (path : String) : Except SettingsError Settings :=
  match SettingsFormat.ofPath path with
  | .error e => .error e
  | .ok format =>
    match SettingsFormat.readFile files path with
    | .error e => .error e
    | .ok content => parseBy o format env content

def ofFile (env : Environment) (files : Snapshot) (path : String) : Except SettingsError Settings :=
  ofFileBy .ascending env files path

/-- Lets the environment override settings. -/
def withEnvironmentBy (o : Listing) (s : Settings) (env : Environment) : Except SettingsError Settings :=
  s.overrideBy o (Override.ofEnvironment env)

/-- The defaults as the environment overrides them. -/
def ofEnvironment (env : Environment) : Except SettingsError Settings :=
  withEnvironmentBy .ascending {} env

/-- The name of the file of assignments that is loaded into the environment. -/
def dotEnvName : String := ".env"

/-- The environment once the nearest `.env` file is loaded, if there is one. -/
def loadDotEnv (env : Environment) (files : Snapshot) : Except SettingsError Environment :=
  match files.findUp? dotEnvName with
  | none => .ok env
  | some bytes =>
    match (Text.ofBytes? bytes).bind (DotEnv.loadInto? env) with
    | none => .error .badDotEnv
    | some env => .ok env

/-- Settings as a service starts with them.  The overrides of the settings file and those of the environment are two maps,
each with its own listing. -/
def loadBy (o o' : Listing) (env : Environment) (files : Snapshot) (path : Option String) :
    Except SettingsError Settings := do
  let env ← loadDotEnv env files
  let s ← match path with
    | some path => ofFileBy o env files path
    | none => pure {}
  let s ← s.withEnvironmentBy o' env
  s.validate files
  return s

def load (env : Environment) (files : Snapshot) (path : Option String) : Except SettingsError Settings :=
  loadBy .ascending .ascending env files path

/-! ## Use -/

/-- Whether there is a page for requests that no route takes. -/
def hasNotFoundPage (s : Settings) : Bool :=
  s.router.notFoundTemplate.isSome || s.router.notFoundTemplateFile.isSome

def logConfig (s : Settings) : LogConfig where
  level := s.log.level
  format := s.log.format
  output := match s.log.file with
    | some path => .file path
    | none => .stdout
  spans := s.log.spans
  directives := s.log.envFilter

/-- The page for requests that no route takes: the page itself, or else what its file holds. -/
def notFoundPage (s : Settings) (files : Snapshot) : Except SettingsError (Option String) :=
  match s.router.notFoundTemplate, s.router.notFoundTemplateFile with
  | some page, _ => .ok (some page)
  | none, none => .ok none
  | none, some path =>
    match files.readText (.ofText path) with
    | .error fault => .error (.io fault)
    | .ok page => .ok (some page)

/-- Gives a service the page of the settings, if they have one. -/
def apply (s : Settings) (files : Snapshot) (service : Service) : Except SettingsError Service :=
  (s.notFoundPage files).map (fun page => page.elim service service.setNotFoundPage)

end Settings
end PathRouter
