import LoopSurvey.Journal.Entry
import LoopSurvey.Source.Link
/-!
# Settings

What the program can be told about the survey: who surveys what, where the outline and the sources
come from, and which judgments there are. Defaults are overridden by a file, the file by the
environment, and the environment by the command line.
-/

namespace LoopSurvey

/-- Where diagnostics go. -/
structure LogSettings where
  enabled : Bool := true
  path : Option String := none
  filter : String := "info"
deriving DecidableEq, Repr

/-- The settings of the program. -/
structure Settings where
  user : String := "anonymous"
  project : String := ""
  version : String := ""
  /-- The directory of the outline page on the server. -/
  baseAddress : Option String := none
  /-- The outline document: a file, or an address that may be relative to the base. -/
  dataAddress : Option String := none
  kind : ViewKind := .release
  /-- The revision or version directory of the sources; the version unless given. -/
  viewId : Option String := none
  algorithm : String := ""
  method : String := ""
  journalEnabled : Bool := true
  timeout : Nat := 5000
  /-- The names of the judgments in the order in which they are cycled through. -/
  judgments : List String := ["NotYet", "Kernel", "NotKernel", "Unsure"]
  log : LogSettings := {}
deriving DecidableEq, Repr

/-- What the command line overrides. -/
structure Overrides where
  user : Option String := none
  project : Option String := none
  version : Option String := none
  baseAddress : Option String := none
  dataAddress : Option String := none
  kind : Option ViewKind := none
  viewId : Option String := none
  noJournal : Bool := false
deriving DecidableEq, Repr

namespace Settings

/-- The variable that names the user. -/
def userVariable : String := "EBT_OUTLINE_USER"

/-- The variable that holds the base address. -/
def baseVariable : String := "EBT_OUTLINE_BASE_URL"

/-- Applies the environment; empty variables count as unset. -/
def withEnvironment (s : Settings) (lookup : String → Option String) : Settings :=
  let given (name : String) : Option String := (lookup name).filter (· ≠ "")
  { s with
    user := (given userVariable).getD s.user
    baseAddress := (given baseVariable).or s.baseAddress }

/-- Applies what the command line overrides. -/
def withOverrides (s : Settings) (o : Overrides) : Settings :=
  { s with
    user := o.user.getD s.user
    project := o.project.getD s.project
    version := o.version.getD s.version
    baseAddress := o.baseAddress.or s.baseAddress
    dataAddress := o.dataAddress.or s.dataAddress
    kind := o.kind.getD s.kind
    viewId := o.viewId.or s.viewId
    journalEnabled := s.journalEnabled && !o.noJournal }

/-- What the links of the survey have in common. -/
def linkContext (s : Settings) : LinkContext where
  project := s.project
  version := s.version
  kind := s.kind
  viewId := s.viewId.getD s.version
  algorithm := s.algorithm
  method := s.method

/-- Who surveys what. -/
def identity (s : Settings) : Journal.Identity where
  user := s.user
  project := s.project
  version := s.version

/-- The judgments in the order in which they are cycled through. -/
def judgmentValues (s : Settings) : List Judgment := s.judgments.map Judgment.ofName

end Settings

end LoopSurvey
