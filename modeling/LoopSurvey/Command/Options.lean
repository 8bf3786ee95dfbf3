import LoopSurvey.Settings.Basic
/-!
# Command line options

Options are flags, or names followed by a value that does not begin with two hyphens. Each may be
given once, in any order. The demo needs no data of its own.
-/

namespace LoopSurvey.Command

/-- The options given. -/
structure Options where
  config : Option String := none
  base : Option String := none
  data : Option String := none
  user : Option String := none
  project : Option String := none
  version : Option String := none
  kind : Option String := none
  viewId : Option String := none
  noLog : Bool := false
  demo : Bool := false
  textTree : Bool := false
deriving DecidableEq, Repr

namespace Options

/-- Whether a text can be no value, because it begins like an option. -/
def looksLikeOption (text : String) : Bool :=
  match text.toList with
  | '-' :: '-' :: _ => true
  | _ => false

/-- The options with one more of those that have a value, unless it is unknown or was given
before. -/
def withValue? (o : Options) (name value : String) : Option Options :=
  let fresh (given : Option String) (o : Options) : Option Options :=
    if given.isSome then none else some o
  match name with
  | "--config" => fresh o.config { o with config := some value }
  | "--base-url" => fresh o.base { o with base := some value }
  | "--data" => fresh o.data { o with data := some value }
  | "--user" => fresh o.user { o with user := some value }
  | "--proj" => fresh o.project { o with project := some value }
  | "--ver" => fresh o.version { o with version := some value }
  | "--view-kind" => fresh o.kind { o with kind := some value }
  | "--view-id" => fresh o.viewId { o with viewId := some value }
  | _ => none

/-- The options with one more flag, if the name is that of a flag; none inside if it was given
before. -/
def withFlag? (o : Options) (name : String) : Option (Option Options) :=
  match name with
  | "--no-log" => some (if o.noLog then none else some { o with noLog := true })
  | "--demo" => some (if o.demo then none else some { o with demo := true })
  | "--text-tree" => some (if o.textTree then none else some { o with textTree := true })
  | _ => none

/-- Reads more arguments. -/
def read? (o : Options) : List String → Option Options
  | [] => if o.demo && o.data.isSome then none else some o
  | [name] =>
    match o.withFlag? name with
    | some (some o) => read? o []
    | _ => none
  | name :: value :: rest =>
    match o.withFlag? name with
    | some (some o) => read? o (value :: rest)
    | some none => none
    | none =>
      if looksLikeOption value then none
      else
        match o.withValue? name value with
        | some o => read? o rest
        | none => none

/-- The options that arguments give, if they follow the rules. -/
def parse? (arguments : List String) : Option Options := read? {} arguments

/-- What the options override. -/
def overrides (o : Options) : Overrides where
  user := o.user
  project := o.project
  version := o.version
  baseAddress := o.base
  dataAddress := o.data
  kind := o.kind.map ViewKind.ofName
  viewId := o.viewId
  noJournal := o.noLog

end Options

/-- How the program is used. -/
def usage (program : String) : String :=
  String.join <| List.map (· ++ "\n")
    ["Usage:",
      "  " ++ program ++ " --data <url|file> [--base-url <url>] [options]",
      "  " ++ program ++ " --demo [options]",
      "",
      "Options:",
      "  --config <file>      Read settings from <file> instead of the default config path",
      "  --base-url <url>     Outline page directory on the survey backend",
      "  --data <url|file>    Tree JSON, relative to --base-url, absolute, or a local file",
      "  --user <name>        User name sent with every log record",
      "  --proj <name>        Project name",
      "  --ver <name>         Project version",
      "  --view-kind <kind>   GITREV or RELEASE (source links)",
      "  --view-id <id>       Revision or version directory for source links",
      "  --no-log             Do not post actions to the backend log",
      "  --text-tree          Print the outline as indented text and exit",
      "  --demo               Use the built-in demo outline (offline)",
      "",
      "Environment: EBT_OUTLINE_USER, EBT_OUTLINE_BASE_URL, EBT_OUTLINE_LOG (log filter)."]

end LoopSurvey.Command
