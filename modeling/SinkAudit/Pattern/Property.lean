import SinkAudit.Pattern.Script
import SinkAudit.Pattern.Trait
import SinkAudit.Pattern.Written

/-!
# Properties of characters

A class can be named by a property: a trait, a general category, a script, or a property and its
value.  Names are compared without regard to case, blanks, dashes and underscores, and without `is` at
the front.

* `PropertyName.class?`: the characters with a property.
-/

namespace SinkAudit.Pattern

/-- A name without `is` at its front. -/
def dropIs : List Char → Bool × List Char
  | a :: b :: r =>
    if (a == 'i' || a == 'I') && (b == 's' || b == 'S') then (true, r) else (false, a :: b :: r)
  | s => (false, s)

/-- A name in the form in which names are compared.  A single `c` behind `is` is a name of its own. -/
def plainName (name : String) : String :=
  let (cut, rest) := dropIs name.toList
  let kept := rest.filter fun c => c != ' ' && c != '_' && c != '-' && c.toNat < 0x80
  let s := String.ofList (kept.map Char.toLower)
  if cut && s == "c" then "isc" else s

/-- The class of a name alone: a trait, a category or a script. -/
def nameClass? (name : String) : Option CharClass :=
  Trait.class? name <|> Category.class? name <|> Script.class? name

/-- The class of a property and its value. -/
def valueClass? (name value : String) : Option CharClass :=
  if name == "gc" || name == "generalcategory" then Category.class? value
  else if name == "sc" || name == "script" then Script.class? value
  else if name == "scx" || name == "scriptextensions" then Script.extended? value
  else none

/-- The class of a property. -/
def PropertyName.class? (p : PropertyName) : Option CharClass :=
  match p.value with
  | none => nameClass? (plainName p.name)
  | some v => valueClass? (plainName p.name) (plainName v)

end SinkAudit.Pattern
