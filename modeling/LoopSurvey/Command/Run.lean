import LoopSurvey.Command.Options
import LoopSurvey.Outline.TextTree
import LoopSurvey.Record.Load
import LoopSurvey.Sample.Demo
import LoopSurvey.Screen.Palette
import LoopSurvey.Settings.File
import LoopSurvey.Viewer.Offline
import LoopSurvey.Web.Address
/-!
# Running the command line

What the program does with its arguments, its environment and its files, up to the point where it
has printed the text tree, has failed, or has all it needs to show the outline. The steps come in a
fixed order: options, settings file, environment, overrides, diagnostics file, outline, and then the
text tree or the palette.
-/

namespace LoopSurvey.Command

/-- How the program reaches its files. Failures are told as texts. -/
structure Files (m : Type → Type) where
  isFile : String → m Bool
  read : String → m (Except String String)
  openLog : String → m (Except String Unit)

/-- Where the program runs. -/
structure Surroundings where
  program : String
  environment : String → Option String
  /-- The settings file that is read, if it is there, unless another one is named. -/
  defaultConfig : Option String
  /-- The diagnostics file unless another one is set. -/
  defaultLog : String
  /-- How the tables of a document are hashed in this run. -/
  order : Record.KeyOrder

/-- All that is needed to show an outline. -/
structure Prepared where
  session : Session
  settings : Settings
  palette : Palette
  source? : String → Option String

/-- The viewer of the outline, with a service in memory. -/
def Prepared.desk (p : Prepared) : Desk where
  viewer := .start {
      identity := p.settings.identity
      link := p.settings.linkContext
      judgments := p.settings.judgmentValues
      dataAddress := p.settings.dataAddress
      palette := p.palette } p.session
  service := { source? := p.source? }

/-- How the program ends. -/
inductive Outcome
  | usage
  | failed (message : String)
  | printed (text : String)
  | ready (prepared : Prepared)

/-- The variable that holds a palette. -/
def paletteVariable : String := "EBT_OUTLINE_PALETTE"

section
variable {m : Type → Type} [Monad m]

/-- The settings of the named file, of the default one if it is there, or the defaults. -/
def readSettings (files : Files m) (place : Surroundings) (named : Option String) :
    ExceptT String m Settings := do
  let path : Option String ←
    match named, place.defaultConfig with
    | some path, _ => pure (some path)
    | none, some path =>
      if ← liftM (files.isFile path) then pure (some path) else pure none
    | none, none => pure none
  match path with
  | none => pure {}
  | some path =>
    match ← liftM (files.read path) with
    | .error reason => throw (SettingsError.message (.read path reason))
    | .ok text =>
      match Settings.ofFile path text with
      | .ok settings => pure settings
      | .error e => throw e.message

/-- Opens the diagnostics file unless diagnostics are turned off. -/
def openLog (files : Files m) (place : Surroundings) (log : LogSettings) : ExceptT String m Unit := do
  if log.enabled then
    let path := log.path.getD place.defaultLog
    match ← liftM (files.openLog path) with
    | .ok () => pure ()
    | .error reason => throw ("cannot open log file " ++ path ++ ": " ++ reason)

/-- The session of the text of an outline document. -/
def sessionOf (place : Surroundings) (text : String) : ExceptT String m Session :=
  match Record.loadText place.order text with
  | .ok (outline, tables) => pure { outline, tables }
  | .error e => throw e.message

/-- The session of the outline document that the settings name. The base address is looked at
before the document. -/
def readOutline (files : Files m) (place : Surroundings) (settings : Settings) :
    ExceptT String m Session := do
  match settings.dataAddress with
  | none => throw "no outline data: pass --data <url|file> or --demo"
  | some data =>
    if let some base := settings.baseAddress then
      if let .error e := Address.parse base then throw (e.message base)
    if ← liftM (files.isFile data) then
      match ← liftM (files.read data) with
      | .error reason => throw reason
      | .ok text => sessionOf place text
    else if settings.baseAddress.isNone then
      throw "remote outline data needs --base-url (or EBT_OUTLINE_BASE_URL)"
    else throw ("cannot fetch " ++ data)

/-- The steps after the options have been read. -/
def runOptions (files : Files m) (place : Surroundings) (options : Options) :
    ExceptT String m Outcome := do
  let settings ← readSettings files place options.config
  let settings := (settings.withEnvironment place.environment).withOverrides options.overrides
  openLog files place settings.log
  let session ←
    if options.demo then sessionOf place Sample.demoText
    else readOutline files place settings
  if options.textTree then pure (.printed session.outline.textTree)
  else
    match Palette.parse ((place.environment paletteVariable).getD "") with
    | .error e => throw e.message
    | .ok palette =>
      pure (.ready {
        session, settings, palette
        source? := if options.demo then Sample.demoSource? else fun _ => none })

/-- Runs the program with its arguments. -/
def run (files : Files m) (place : Surroundings) (arguments : List String) : m Outcome := do
  match Options.parse? arguments with
  | none => pure .usage
  | some options =>
    match ← (runOptions files place options).run with
    | .ok outcome => pure outcome
    | .error message => pure (.failed message)

end

end LoopSurvey.Command
