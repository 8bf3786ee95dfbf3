import LoopSurvey.Outline.Node
import LoopSurvey.Source.Locator
/-!
# Links to sources

The address of the source file of a node, and the link that opens the viewer on the node's lines.
-/

namespace LoopSurvey

/-- Whether sources come from a repository or from the directory of a release. -/
inductive ViewKind
  | revision
  | release
deriving DecidableEq, Repr

/-- The name that means sources from a repository. -/
def ViewKind.revisionName : String := "GITREV"

/-- The kind with a name; any other name means a release. -/
def ViewKind.ofName (name : String) : ViewKind :=
  if name = revisionName then revision else release

/-- The name of a kind. -/
def ViewKind.name : ViewKind → String
  | revision => revisionName
  | release => "RELEASE"

/-- What all links of a survey have in common. -/
structure LinkContext where
  project : String := ""
  version : String := ""
  kind : ViewKind := .release
  /-- The revision or the version directory that sources are served from. -/
  viewId : String := ""
  algorithm : String := ""
  method : String := ""
deriving DecidableEq, Repr

namespace LinkContext

/-- A text without its ending, if it ends so. -/
def beforeEnding? (ending cs : List Char) : Option (List Char) :=
  (Locator.after? ending.reverse cs.reverse).map List.reverse

/-- The name of the project's repository: `_git` at its end stands for `.git`. -/
def repositoryName (c : LinkContext) : String :=
  match beforeEnding? "_git".toList c.project.toList with
  | some stem => String.ofList stem ++ ".git"
  | none => c.project

/-- Where the sources of the survey are. -/
def locator (c : LinkContext) : Locator :=
  match c.kind with
  | .revision => .repository c.repositoryName c.viewId
  | .release => .directory c.project c.viewId

/-- The address of a node's source file. -/
def sourceAddress (c : LinkContext) (p : Payload) : String :=
  let path := p.path.getD ""
  match c.kind with
  | .revision =>
    "/gitweb/?p=" ++ c.repositoryName ++ ";a=blob_plain;f=" ++ path ++ ";h=" ++ p.fileId.getD ""
      ++ ";hb=" ++ c.viewId
  | .release => "projects/" ++ c.project ++ "/" ++ c.viewId ++ "/" ++ path

/-- The parameters of a node's viewer link. The lines are given if both are known and not 0. -/
def linkParameters (c : LinkContext) (p : Payload) : List (String × String) :=
  [("proj", c.project), ("algo", c.algorithm), ("meth", c.method), ("path", p.path.getD ""),
    ("ver", c.version), ("src", c.sourceAddress p)]
    ++ (match p.startLine.filter (0 < ·), p.endLine.filter (0 < ·) with
      | some first, some last => [("startl", Nat.repr first), ("endl", Nat.repr last)]
      | _, _ => [])

/-- A query from its parameters: names as they are, values percent-encoded. -/
def query (parameters : List (String × String)) : String :=
  String.intercalate "&" (parameters.map fun p => p.1 ++ "=" ++ Text.Percent.encode p.2)

/-- The viewer link of a node. -/
def link (c : LinkContext) (p : Payload) : String :=
  "openviewer?" ++ query (c.linkParameters p)

end LinkContext

end LoopSurvey
