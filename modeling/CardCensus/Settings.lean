/-!
# Settings

Where the store lies, how pictures are addressed, how long an answer may take, and whether parts of
a query without effect are reported.
-/

namespace CardCensus

/-- The settings of the program. -/
structure Settings where
  database : String := "mtg.db"
  imageTemplate : String :=
    "http://gatherer.wizards.com/Handlers/Image.ashx?multiverseid=\x7bid\x7d&type=card"
  /-- How long an answer may take, in milliseconds. -/
  deadline : Nat := 2000
  /-- Parts of a query without effect are reported. -/
  strict : Bool := false
  logLevel : String := "info"
  deriving Repr, DecidableEq, Inhabited

/-- The settings that answers depend on. -/
structure AnswerSettings where
  imageTemplate : String
  deadline : Nat
  strict : Bool
  deriving Repr, DecidableEq, Inhabited

/-- The part of the settings that answers depend on. -/
def Settings.forAnswers (settings : Settings) : AnswerSettings :=
  ⟨settings.imageTemplate, settings.deadline, settings.strict⟩

/-- The time is up before an answer starts. A deadline that leaves any time counts as ample. -/
def AnswerSettings.isExpired (settings : AnswerSettings) : Bool :=
  settings.deadline == 0

end CardCensus
