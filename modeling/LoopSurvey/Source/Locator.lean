import LoopSurvey.Text.Percent
/-!
# Source locators

Sources are served from a repository at a revision or from the directory of a project's version. A
locator says which; it makes the addresses of source files and can be found out again from such an
address.
-/

namespace LoopSurvey

/-- Where the files of a source tree are served from. -/
inductive Locator
  | repository (name revision : String)
  | directory (project version : String)
deriving DecidableEq, Repr

namespace Locator

/-- The text after a beginning, if the text begins so. -/
def after? : List Char → List Char → Option (List Char)
  | [], cs => some cs
  | _ :: _, [] => none
  | p :: ps, c :: cs => if p = c then after? ps cs else none

/-- Cuts a text at the last occurrence of a separator that has some text before and after it. -/
def cutAtLast? (separator : List Char) : List Char → Option (List Char × List Char)
  | [] => none
  | c :: rest =>
    match cutAtLast? separator rest with
    | some (before, behind) => some (c :: before, behind)
    | none =>
      match after? separator rest with
      | some (d :: behind) => some ([c], d :: behind)
      | _ => none

/-- Cuts a text into the characters before the first one that is `stop`, at least one, and what
follows from there. -/
def upTo? (stop : Char) (cs : List Char) : Option (List Char × List Char) :=
  match cs.takeWhile (· ≠ stop) with
  | [] => none
  | before => some (before, cs.dropWhile (· ≠ stop))

/-- The repository and revision named in an address that begins here. -/
def repositoryAt? (cs : List Char) : Option Locator := do
  let rest ← after? "/gitweb/?p=".toList cs
  let (name, rest) ← upTo? ';' rest
  let rest ← after? ";a=blob_plain;".toList rest
  if rest.contains '\n' then none
  let (_, revision) ← cutAtLast? ";hb=".toList rest
  pure (repository (String.ofList name) (String.ofList revision))

/-- The project and version named in an address that begins here. -/
def directoryAt? (cs : List Char) : Option Locator := do
  let rest ← after? "projects/".toList cs
  let (project, rest) ← upTo? '/' rest
  let rest ← after? ['/'] rest
  let (version, rest) ← upTo? '/' rest
  let rest ← after? ['/'] rest
  if rest.isEmpty ∨ rest.contains '\n' then none
  pure (directory (String.ofList project) (String.ofList version))

/-- The first answer that some end of the text gives, from the whole text to shorter ones. -/
def firstMatch? (matchAt? : List Char → Option Locator) : List Char → Option Locator
  | [] => matchAt? []
  | c :: rest => (matchAt? (c :: rest)).or (firstMatch? matchAt? rest)

/-- The locator that an address was made with, if the address has one of the two forms. -/
def ofAddress? (address : String) : Option Locator :=
  let cs := address.toList
  if (after? "/gitweb".toList cs).isSome then firstMatch? repositoryAt? cs
  else if (after? "projects".toList cs).isSome then firstMatch? directoryAt? cs
  else none

/-- The address of a file. -/
def addressOf (path : String) : Locator → String
  | repository name revision =>
    "/gitweb/?p=" ++ name ++ ";a=blob_plain;f=" ++ path ++ ";hb=" ++ revision
  | directory project version => "projects/" ++ project ++ "/" ++ version ++ "/" ++ path

/-- The revision or version. -/
def version : Locator → String
  | repository _ revision => revision
  | directory _ version => version

/-- The viewer link to a line of a file. -/
def definitionLink (l : Locator) (path : String) (line : Nat) : String :=
  "openviewer?path=" ++ Text.Percent.encode path ++ "&src="
    ++ Text.Percent.encode (l.addressOf path) ++ "&ver=" ++ l.version
    ++ "&startl=" ++ Nat.repr line ++ "&endl=" ++ Nat.repr line

end Locator

end LoopSurvey
