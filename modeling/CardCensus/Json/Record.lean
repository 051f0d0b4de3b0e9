import CardCensus.Json.Skip

/-!
# Records

A record has named fields. In a document it is an object with these names as keys, other keys being
passed over, or a list of the fields' values in order. A field that is missing keeps its start value
unless it is required; a field may not be given twice.
-/

namespace CardCensus.Json

/-- A field of a record: its name, whether it has to be given, and how its value is taken up. -/
structure Slot (σ : Type) where
  name : String
  required : Bool := false
  read : σ → Reader σ

/-- A kind of record: its name in error texts, its value before any field is read, and
    its fields. -/
structure RecordKind (σ : Type) where
  typeName : String
  start : σ
  slots : List (Slot σ)

namespace RecordKind

variable {σ : Type} (kind : RecordKind σ)

/-- What is expected where a record should stand. -/
def expectation : String := "struct " ++ kind.typeName

/-- What is expected of a record that is given as a list. -/
def lengthExpectation : String :=
  kind.expectation ++ " with " ++ toString kind.slots.length ++ " elements"

/-- A record under way and the names of the fields that it was given. -/
structure Progress (σ : Type) where
  value : σ
  given : List String

/-- One entry of a record that is given as an object. -/
def readEntry (progress : Progress σ) (key : String) : Reader (Progress σ) := fun rest =>
  match kind.slots.find? (·.name == key) with
  | none => do
    let rest ← skipValue (← skipColon rest)
    return (progress, rest)
  | some slot =>
    if progress.given.contains key then .error (.unsettled (.duplicateField key) rest)
    else do
      let (value, rest) ← slot.read progress.value (← skipColon rest)
      return (⟨value, key :: progress.given⟩, rest)

/-- The first required field that is not given. -/
def lack (progress : Progress σ) : Option Cause :=
  (kind.slots.find? fun slot => slot.required && !progress.given.contains slot.name).map
    fun slot => .missingField slot.name

/-- The fields of a record that is given as a list, with the number of those read. -/
def readSlots : List (Slot σ) → Nat → σ → Reader σ
  | [], _, value, rest => .ok (value, rest)
  | slot :: slots, count, value, rest => do
    match ← nextElement (count == 0) rest with
    | some s =>
      let (value, s) ← slot.read value s
      readSlots slots (count + 1) value s
    | none =>
      if slot.required then throw (.unsettled (.wrongLength count kind.lengthExpectation) rest)
      readSlots slots (count + 1) value rest

/-- A record. -/
def read : Reader σ := fun rest =>
  match skipSpace rest with
  | [] => .error (.here .endInValue [])
  | c :: s =>
    if c = '[' then match kind.readSlots kind.slots 0 kind.start s with
      | .error fault => .error (fault.settle tryCloseList)
      | .ok (value, s) => (closeList s).map fun s => (value, s)
    else if c = '\x7b' then
      (readObjectBody kind.readEntry ⟨kind.start, []⟩ kind.lack s).map
        fun (progress, s) => (progress.value, s)
    else .error (wrongKind kind.expectation (c :: s))

end RecordKind

end CardCensus.Json
