import CardCensus.Export.Release

/-!
# Exports

An export is a document that maps keys to sets. Its sets are kept in the order of the keys' first
places; of two sets under one key the last counts.

Results:
* `map_fst_put`: giving a key a set keeps the keys and their order, a new key going last.
-/

namespace CardCensus

open CardCensus.Json (Fault Reader)
open CardCensus.Export (ExportedSet)

/-- The sets of an export under their keys, in order. -/
abbrev Export := List (String × ExportedSet)

namespace Export

/-- The export with a set under a key: in the place of the key, or at the end. -/
def put (sets : Export) (key : String) (set : ExportedSet) : Export :=
  if sets.any (·.1 == key) then sets.map fun entry => if entry.1 == key then (key, set) else entry
  else sets ++ [(key, set)]

/-- Takes up one entry of an export. -/
def readEntry (sets : Export) (key : String) : Reader Export := fun rest => do
  let (set, rest) ← ExportedSet.record.read (← Json.skipColon rest)
  return (sets.put key set, rest)

/-- Reads an export. -/
def readSets : Reader Export := fun rest =>
  match Json.skipSpace rest with
  | [] => .error (.here .endInValue [])
  | c :: s =>
    if c = '\x7b' then Json.readObjectBody readEntry [] (fun _ => none) s
    else .error (Json.wrongKind "a map" (c :: s))

/-- The export that a document holds, and nothing besides (`parse_sets`). -/
def ofText (document : String) : Except Fault Export := do
  let (sets, rest) ← readSets document.toList
  match Json.skipSpace rest with
  | [] => return sets
  | rest => throw (.next .trailingCharacters rest)

theorem map_fst_put (sets : Export) (key : String) (set : ExportedSet) :
    (sets.put key set).map (·.1) =
      if sets.any (·.1 == key) then sets.map (·.1) else sets.map (·.1) ++ [key] := by
  unfold put
  split
  · rw [List.map_map]
    apply List.map_congr_left
    intro entry _
    by_cases h : entry.1 = key <;> simp [h]
  · simp

end Export

end CardCensus
