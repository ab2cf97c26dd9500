import SinkAudit.Text.Character

/-!
# Severities

Four levels, ordered from `low` to `critical`.  Each is written in one way and read in several:
blanks around the word and the case of its letters do not matter, and `medium` and `critical` have
short forms.
-/

namespace SinkAudit

/-- How much harm a confirmed sink can do. -/
inductive Severity where
  | low
  | medium
  | high
  | critical
  deriving DecidableEq, Repr, Inhabited

namespace Severity

/-- The place of a level in the order, counted from the lowest. -/
def rank : Severity → Nat
  | low => 0
  | medium => 1
  | high => 2
  | critical => 3

instance : LE Severity := ⟨fun a b => a.rank ≤ b.rank⟩

instance (a b : Severity) : Decidable (a ≤ b) := Nat.decLe a.rank b.rank

/-- Every level, highest first. -/
def all : List Severity := [critical, high, medium, low]

/-- The written form of a level. -/
def name : Severity → String
  | low => "Low"
  | medium => "Medium"
  | high => "High"
  | critical => "Critical"

/-- The level a word stands for, if any. -/
def ofWord? (s : String) : Option Severity :=
  match Text.keyword (Text.trim s) with
  | "low" => some low
  | "medium" => some medium
  | "med" => some medium
  | "moderate" => some medium
  | "high" => some high
  | "critical" => some critical
  | "crit" => some critical
  | _ => none

/-- What is said of a word that stands for no level. -/
def unknownMessage (word : String) : String :=
  "unknown severity '" ++ word ++ "'"

/-- The levels of a list from the lowest to the highest. -/
def sort (l : List Severity) : List Severity :=
  l.mergeSort fun a b => decide (a ≤ b)

/-- The highest level of a list. -/
def max? (l : List Severity) : Option Severity :=
  (sort l).getLast?

end Severity

end SinkAudit
