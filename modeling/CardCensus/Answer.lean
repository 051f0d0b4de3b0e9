import CardCensus.Diagnostic
import CardCensus.Lookup
import CardCensus.Message
import CardCensus.Plan.Compiled
import CardCensus.Settings
import CardCensus.Store.Aggregate

/-!
# Answers to messages

Every statistics span is answered by a line for each request, every lookup by a line for the card.
In strict mode the diagnostics of a span come before its answers. When the time is up, each request
fails.

Results:
* `respond_eq_none_iff`: a message is answered exactly when it holds a span.
* `length_answers`: there is one answer for each request.
-/

namespace CardCensus

/-- A request with its answer. -/
structure Outcome where
  request : Request
  result : Except StoreError Aggregate

namespace Outcome

/-- The start of the line for a request. -/
def heading (request : Request) : String :=
  request.verb.label ++ " " ++ request.column ++ ": "

/-- A failed request as a line. -/
def failureLine (request : Request) (cause : StoreError) : String :=
  heading request ++ "failed (" ++ cause.message ++ ")"

/-- The part of a line that shows what was found. -/
def found (template : String) (verb : Verb) (aggregate : Aggregate) : String :=
  if aggregate.isNotFound verb then "not found"
  else match aggregate.card with
    | some card => card.name ++ " " ++ Picture.address template card.multiverseId
    | none => aggregate.value.display

/-- An outcome as a line (`render_outcome`). -/
def line (template : String) (outcome : Outcome) : String :=
  match outcome.result with
  | .error cause => failureLine outcome.request cause
  | .ok aggregate => heading outcome.request ++ found template outcome.request.verb aggregate

end Outcome

namespace Answer

/-- The outcomes of requests over a plan (`execute`). -/
def execute (store : Store) (expired : Bool) (plan : Plan) (requests : List Request) :
    List Outcome :=
  requests.map fun request =>
    ⟨request, if expired then .error (.deadlineExceeded .aggregation)
      else store.aggregate plan request⟩

/-- The lines for the requests of a match. -/
def answers (store : Store) (settings : AnswerSettings) (parsed : Match) : List String :=
  if settings.isExpired then
    parsed.requests.map fun request => Outcome.failureLine request (.deadlineExceeded .compilation)
  else (execute store false (.ofQuery parsed.query) parsed.requests).map
    (Outcome.line settings.imageTemplate)

/-- The diagnostics of a match in strict mode. -/
def warnings (settings : AnswerSettings) (parsed : Match) : List String :=
  if settings.strict then (Diagnostic.ofMatch parsed).map Diagnostic.message else []

/-- The lines for the interior of a statistics span (`answer_stats_within`). -/
def stats (store : Store) (settings : AnswerSettings) (interior : String) : List String :=
  let parsed := Match.ofText interior
  warnings settings parsed ++ answers store settings parsed

/-- The card that the interior of a lookup span finds; a search that fails finds none. -/
def lookup (store : Store) (interior : String) : Option FoundCard :=
  match store.lookup (.ofText interior) with
  | .ok found => found
  | .error _ => none

/-- The lines for the spans of a message (`answer_lookups`). -/
def lines (store : Store) (settings : AnswerSettings) (message : String) : List String :=
  (Message.stats message).flatMap (stats store settings) ++
    Lookup.lines settings.imageTemplate ((Message.lookups message).map (lookup store))

/-- The answer to a message; a message without spans has none (`Engine.respond`). -/
def respond (store : Store) (settings : AnswerSettings) (message : String) : Option String :=
  if (Message.stats message).isEmpty && (Message.lookups message).isEmpty then none
  else some ("\n".intercalate (lines store settings message))

theorem respond_eq_none_iff {store : Store} {settings : AnswerSettings} {message : String} :
    respond store settings message = none ↔ Message.stats message = [] ∧
      Message.lookups message = [] := by
  simp [respond]

theorem length_answers (store : Store) (settings : AnswerSettings) (parsed : Match) :
    (answers store settings parsed).length = parsed.requests.length := by
  unfold answers execute
  split <;> simp

end Answer

end CardCensus
