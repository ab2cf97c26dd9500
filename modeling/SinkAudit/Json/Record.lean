import SinkAudit.Json.Reader

/-!
# Records

A record has named fields.  It is written as an object, or as an array with the fields in their
order.  In an object every field may occur once, and members with other names are passed over; an
array may end early.  What a missing field means is said where it is fetched.
-/

namespace SinkAudit

/-- The fields that were given, with the form in which they came. -/
structure Record where
  /-- The fields came as an array. -/
  listed : Bool
  fields : List (String × Json)

namespace Record

/-- The members with one of the given names; none when a name stands for no string or when one of
the given names occurs twice. -/
def pick? (names : List String) : List (Option String × Json) → Option (List (String × Json))
  | [] => some []
  | (none, _) :: _ => none
  | (some k, v) :: ms =>
    match pick? names ms with
    | none => none
    | some l =>
      if !names.contains k then some l
      else if l.any fun f => f.1 == k then none
      else some ((k, v) :: l)

/-- The record with the given fields that a value is.  `surplus` says whether an array may have
more items than there are fields. -/
def ofJson? (names : List String) (surplus : Bool) : Json → Option Record
  | .obj members => (pick? names members).map (⟨false, ·⟩)
  | .arr items =>
    if !surplus && names.length < items.length then none else some ⟨true, names.zip items⟩
  | _ => none

/-- The value given for a field. -/
def get? (r : Record) (name : String) : Option Json :=
  (r.fields.find? fun f => f.1 == name).map (·.2)

/-- A field that has to be given. -/
def required (r : Record) (name : String) (read : Json → Option α) : Option α :=
  (r.get? name).bind read

/-- A field that has a default. -/
def defaulted (r : Record) (name : String) (read : Json → Option α) (dflt : α) : Option α :=
  match r.get? name with
  | none => some dflt
  | some v => read v

/-- A value or `null`. -/
def orNull (read : Json → Option α) : Json → Option (Option α)
  | .null => some none
  | v => (read v).map some

/-- A field that may be `null`, and may be left out of an object. -/
def nullable (r : Record) (name : String) (read : Json → Option α) : Option (Option α) :=
  match r.get? name with
  | none => if r.listed then none else some none
  | some v => orNull read v

end Record

end SinkAudit
