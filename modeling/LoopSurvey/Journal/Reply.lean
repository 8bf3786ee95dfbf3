import LoopSurvey.Json.Reader
/-!
# Journal replies

The answer to a journal entry: when and from where it was taken, what was journalled, and which
fields were not.
-/

namespace LoopSurvey.Journal

/-- The answer to an entry. Reasons of failure come sorted by field. -/
structure Reply where
  time : Option String := none
  user : Option String := none
  address : Option String := none
  taken : List Json := []
  failures : List (String × Json) := []

/-- A reply while its text is read: what is known of each field so far. -/
structure Reply.Draft where
  time : Option (Option String) := none
  user : Option (Option String) := none
  address : Option (Option String) := none
  taken : Option (List Json) := none
  failures : Option (List (String × Json)) := none

namespace Reply

open Json.Reader (value record fields once optional string list ignored)

/-- Values inside a reply may nest two levels less than in a text of their own. -/
def inner : Json.Reader Json := value (Json.maxDepth - 2)

/-- An object whose members are kept. -/
def members : Json.Reader (List (String × Json)) := do
  let reversed ← record (fun key ms => .ok do pure ((key, ← inner) :: ms)) []
  pure reversed.reverse

/-- The fields of a reply. -/
def fieldNames : List String := ["time", "user", "ip", "log", "failure"]

/-- Reads a field of a reply. -/
def member (key : String) (d : Draft) : Except Json.Fault (Json.Reader Draft) :=
  match key with
  | "time" => once d.time (optional string) fun x => { d with time := some x }
  | "user" => once d.user (optional string) fun x => { d with user := some x }
  | "ip" => once d.address (optional string) fun x => { d with address := some x }
  | "log" => once d.taken (list inner) fun x => { d with taken := some x }
  | "failure" => once d.failures members fun x => { d with failures := some x }
  | _ => .ok do ignored; pure d

/-- The finished reply; fields that did not come are empty. -/
def Draft.finished (d : Draft) : Reply where
  time := d.time.getD none
  user := d.user.getD none
  address := d.address.getD none
  taken := d.taken.getD []
  failures := Json.sortMembers (d.failures.getD [])

/-- Reads the text of a reply. -/
def parse (text : String) : Except Json.Fault Reply :=
  (Json.Reader.run (fields fieldNames member {}) text).map Draft.finished

/-- A reason of failure as a text: texts are themselves, other values are written compactly. -/
def reasonText : Json → String
  | .str s => s
  | value => value.compact

/-- The failed fields with their reasons, if any failed. -/
def failureMessage? (r : Reply) : Option String :=
  if r.failures.isEmpty then none
  else some (String.intercalate ", " (r.failures.map fun f => f.1 ++ ":" ++ reasonText f.2))

end Reply

end LoopSurvey.Journal
