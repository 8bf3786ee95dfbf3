import LoopSurvey.Settings.Basic
import LoopSurvey.Toml.Reader
/-!
# Settings files

Settings from a TOML document. Every setting may be missing, unknown ones are passed over, and the
list of judgments must not be empty.
-/

namespace LoopSurvey

/-- Why a settings file was refused. -/
inductive SettingsError
  | read (path reason : String)
  | parse (path : String)
  | noJudgments
deriving DecidableEq, Repr

/-- The wording of a settings error. -/
def SettingsError.message : SettingsError → String
  | .read path reason => "cannot read config " ++ path ++ ": " ++ reason
  | .parse path => "invalid config " ++ path ++ ": not a settings file"
  | .noJudgments => "judgment list must not be empty"

namespace Settings

open Toml (Value Entries)

/-- A setting that may be missing. -/
def entry? (entries : Entries) (key : String) (missing : α) (decode : Value → Option α) : Option α :=
  match entries.lookup key with
  | some value => decode value
  | none => some missing

/-- A text. -/
def text? : Value → Option String
  | .string s => some s
  | _ => none

/-- A truth value. -/
def bool? : Value → Option Bool
  | .bare (.boolean b) => some b
  | _ => none

/-- A whole number from 0 up. -/
def count? : Value → Option Nat
  | .bare (.integer n) => if 0 ≤ n then some n.toNat else none
  | _ => none

/-- A list of texts. -/
def texts? : Value → Option (List String)
  | .array items => items.mapM text?
  | _ => none

/-- The settings of the diagnostics. -/
def logOf? (entries : Entries) : Option LogSettings := do
  pure {
    enabled := ← entry? entries "enabled" true bool?
    path := ← entry? entries "path" none (fun v => (text? v).map some)
    filter := ← entry? entries "filter" "info" text? }

/-- The table of the diagnostics, or an array of their values. -/
def log? : Value → Option LogSettings
  | .table _ entries => logOf? entries
  | .array items => logOf? (["enabled", "path", "filter"].zip items)
  | _ => none

/-- The settings that the tables of a document give. -/
def ofEntries? (entries : Entries) : Option Settings := do
  let defaults : Settings := {}
  let optional (key : String) : Option (Option String) :=
    entry? entries key none fun v => (text? v).map some
  pure {
    user := ← entry? entries "user" defaults.user text?
    project := ← entry? entries "proj" defaults.project text?
    version := ← entry? entries "ver" defaults.version text?
    baseAddress := ← optional "base_url"
    dataAddress := ← optional "data_url"
    kind := ← entry? entries "view_kind" defaults.kind fun v => (text? v).map ViewKind.ofName
    viewId := ← optional "view_id"
    algorithm := ← entry? entries "algo" defaults.algorithm text?
    method := ← entry? entries "meth" defaults.method text?
    journalEnabled := ← entry? entries "log_enabled" defaults.journalEnabled bool?
    timeout := ← entry? entries "request_timeout_ms" defaults.timeout count?
    judgments := ← entry? entries "judgments" defaults.judgments texts?
    log := ← entry? entries "logging" defaults.log log? }

/-- The settings of a file with the given text. -/
def ofFile (path text : String) : Except SettingsError Settings :=
  match (Toml.parse? text).bind ofEntries? with
  | none => .error (.parse path)
  | some s => if s.judgments.isEmpty then .error .noJudgments else .ok s

end Settings

end LoopSurvey
