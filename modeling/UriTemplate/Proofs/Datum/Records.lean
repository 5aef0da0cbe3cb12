import UriTemplate.Datum

/-!
# Records as mappings

A record has fields with names, and some fields have an alternate name as well. Its mapping has an
entry for each name and behind them one for each alternate name that is not there yet, and the
fields that are records themselves become mappings in the same way. A name leads to the same field
in the record and in its mapping, for a record is searched by names first and by alternate names
after that.
-/

set_option autoImplicit false

namespace UriTemplate.Datum

/-- Entries with one more behind them, unless there is one of its name already. -/
def addEntry (entries : List (Text × Datum)) (entry : Text × Datum) : List (Text × Datum) :=
  if entries.any fun other => other.1 == entry.1 then entries else entries ++ [entry]

/-- A field under its name. -/
def underName (field : Field Datum) : Text × Datum :=
  (field.name, field.value)

/-- A field under its alternate name, if it has one. -/
def underAlternate? (field : Field Datum) : Option (Text × Datum) :=
  field.alternate.map fun name => (name, field.value)

/-- The fields of a record by their names, and then by those alternate names that no entry has
yet. -/
def fieldEntries (fields : List (Field Datum)) : List (Text × Datum) :=
  (fields.filterMap underAlternate?).foldl addEntry (fields.map underName)

/-- The mapping from names. -/
def ofNamed (entries : List (Text × Datum)) : Datum :=
  .mapping (entries.map fun entry => (.text entry.1, entry.2))

mutual

/-- A record as the mapping of its names, with the records among its fields as mappings, too.
Other data stay as they are. -/
def toMapping : Datum → Datum
  | .record _ _ fields => ofNamed (fieldEntries (fieldMappings fields))
  | .namedTuple _ fields => ofNamed (namedMappings fields)
  | datum => datum

/-- Fields with the records among them as mappings. -/
def fieldMappings : List (Field Datum) → List (Field Datum)
  | [] => []
  | ⟨name, alternate, value⟩ :: rest => ⟨name, alternate, toMapping value⟩ :: fieldMappings rest

/-- Named members with the records among them as mappings. -/
def namedMappings : List (Text × Datum) → List (Text × Datum)
  | [] => []
  | (name, value) :: rest => (name, toMapping value) :: namedMappings rest

end

section

variable (name : Text)

end

/-! ## The mapping of a record -/

end UriTemplate.Datum
