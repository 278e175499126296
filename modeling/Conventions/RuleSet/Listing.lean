import Conventions.Json
import Conventions.RuleSet
import Conventions.Table

/-!
# Listings of rules

The rules of a rule set in order, as JSON or as a table.
-/

namespace Conventions.RuleSet

/-- A rule in a listing as JSON. -/
def ruleJson (r : Rule) : Json :=
  .object [("id", .text r.id), ("category", .text r.category.word),
    ("severity", .text r.severity.word), ("enabled", .bool r.enabled), ("matcher", .text r.matcher),
    ("description", .text r.description)]

/-- The rules as JSON. -/
def listingJson (s : RuleSet) : Json := .list (s.rules.map ruleJson)

/-- The row of a rule. -/
def tableRow (r : Rule) : List String :=
  [r.id, r.category.word, r.severity.word, if r.enabled then "yes" else "no", r.description]

/-- The rules as a table, with the source of the rule set in the title. -/
def listingTable (s : RuleSet) (source : String) : Table where
  title := s!"Rules ({source})"
  header := ["id", "category", "severity", "enabled", "description"]
  rows := s.rules.map tableRow

end Conventions.RuleSet
