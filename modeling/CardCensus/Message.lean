import CardCensus.Text.Blank
import CardCensus.Text.Split

/-!
# Spans of a chat message

A span stands between an opening mark and the next closing mark `]]`. Statistics open with `#[[`,
lookups with `[[`. A lookup counts only at the start of the message or after a blank; the scan goes
on after the closing mark in either case and ends at an opening mark that is never closed.
-/

namespace CardCensus.Message

/-- The mark that opens statistics. -/
def statsMark : List Char := ['#', '[', '[']

/-- The mark that opens a lookup. -/
def lookupMark : List Char := ['[', '[']

/-- The mark that closes a span. -/
def closingMark : List Char := [']', ']']

/-- A span: where its opening mark starts in the message, and what stands between the marks. -/
structure Span where
  start : Nat
  interior : List Char
  deriving Repr, DecidableEq

/-- The spans of the rest of a message, given the place where the rest starts and the character
    before it (`extract`). A span is kept when the character before its opening mark
    is acceptable. -/
def spansFrom (opening : List Char) (accepts : Option Char → Bool) (start : Nat)
    (previous : Option Char)
    (rest : List Char) : List Span :=
  match _h : Text.cutAt opening rest with
  | none => []
  | some (before, inside) =>
    match _h' : Text.cutAt closingMark inside with
    | none => []
    | some (interior, after) =>
      let here := start + before.length
      let next := here + opening.length + interior.length + closingMark.length
      let spans := spansFrom opening accepts next closingMark.getLast? after
      if accepts (before.getLast?.or previous) then ⟨here, interior⟩ :: spans else spans
termination_by rest.length
decreasing_by
  have h₁ := Text.length_of_cutAt _h
  have h₂ := Text.length_of_cutAt _h'
  simp only [closingMark, List.length_cons, List.length_nil] at h₂
  omega

/-- Statistics count wherever they stand. -/
def acceptsAnywhere (_ : Option Char) : Bool := true

/-- Lookups count at the start and after a blank. -/
def acceptsAfterBlank : Option Char → Bool
  | none => true
  | some c => Text.isBlank c

/-- The statistics spans of a message. -/
def statsSpans (message : String) : List Span :=
  spansFrom statsMark acceptsAnywhere 0 none message.toList

/-- The lookup spans of a message. -/
def lookupSpans (message : String) : List Span :=
  spansFrom lookupMark acceptsAfterBlank 0 none message.toList

/-- The interiors of the statistics spans (`extract_stats_matches`). -/
def stats (message : String) : List String :=
  (statsSpans message).map fun span => String.ofList span.interior

/-- The interiors of the lookup spans (`extract_lookup_matches`). -/
def lookups (message : String) : List String :=
  (lookupSpans message).map fun span => String.ofList span.interior

end CardCensus.Message
