import Durable.Json.Text
import Durable.Sql.Like
import Durable.Singleton.Admission

/-! The SQL store's tag filter: a `LIKE` over the JSON text of a run's tags. -/

namespace Durable.Tags

/-- A text with the metacharacters of `LIKE` escaped. -/
def escapeLike (value : List Char) : List Char :=
  value.flatMap fun char => if char ∈ ['!', '%', '_'] then ['!', char] else [char]

/-- The pattern for a tag in the JSON text of a list. -/
def tagPattern (tag : String) : List Char :=
  ['%', '"'] ++ escapeLike tag.toList ++ ['"', '%']

/-- `toJson(tags)`, the text that is stored. -/
def tagsText (tags : List String) : List Char :=
  (JsonValue.arr (tags.map .str)).chars JsonValue.noNumbers

/-- Whether a row passes the filter on a tag; one without tags holds no text. -/
def hasTag (stored : Option (List String)) (tag : String) : Bool :=
  match stored with
  | none => false
  | some tags => Sql.like '!' (tagPattern tag) (tagsText tags)

/-- Whether a run passes the in-memory store's filter on a tag. -/
def includesTag (stored : Option (List String)) (tag : String) : Bool :=
  match stored with
  | none => false
  | some tags => tags.contains tag

/-- Whether a run is an active one of a workflow. -/
def isActive (workflow : String) (run : SingletonRun) : Bool :=
  run.workflow == workflow && singletonActiveStatuses.contains run.status

/-- The rows that `tryAdmitSingleton` reads under its lock. -/
def sharing (runs : List SingletonRun) (workflow tag : String) : List SingletonRun :=
  runs.filter fun run => isActive workflow run && hasTag (some run.tags) tag

end Durable.Tags
