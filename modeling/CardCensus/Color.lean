import CardCensus.Text.Blank
import CardCensus.Text.Fold

/-!
# Colours

A card has any of five colour channels. A `ColorMask` is the set of its channels; the empty set is
called colourless. A colour term in a query is a word for colourless or a row of channel letters,
and an export lists channels by long name or letter.

Results:
* `ColorMask.has_insert`: a channel is in a mask after insertion exactly when it was inserted or was
  there.
* `ColorMask.ext_has`: masks with the same channels are equal.
-/

namespace CardCensus

/-- One of the five colours. -/
inductive Channel where
  | white
  | blue
  | black
  | red
  | green
  deriving Repr, DecidableEq, Inhabited

namespace Channel

/-- The channels in their customary order. -/
def all : List Channel := [white, blue, black, red, green]

/-- The letter that stands for the channel. -/
def letter : Channel → Char
  | white => 'w'
  | blue => 'u'
  | black => 'b'
  | red => 'r'
  | green => 'g'

/-- The column that holds the channel's flag. -/
def column (channel : Channel) : String :=
  String.singleton channel.letter

/-- The channel's name in the language of the data. -/
def longName : Channel → String
  | white => "white"
  | blue => "blue"
  | black => "black"
  | red => "red"
  | green => "green"

/-- The channel with the given letter, in either case (`from_letter`). -/
def ofLetter? (c : Char) : Option Channel :=
  all.find? fun channel => channel.letter == c.toLower

/-- The channel with the given long name, in any case (`from_name`). -/
def ofName? (name : String) : Option Channel :=
  all.find? fun channel => channel.longName.toList == Text.fold name.toList

theorem mem_all (channel : Channel) : channel ∈ all := by
  cases channel <;> decide

end Channel

/-- A set of channels. -/
structure ColorMask where
  white : Bool := false
  blue : Bool := false
  black : Bool := false
  red : Bool := false
  green : Bool := false
  deriving Repr, DecidableEq, Inhabited

namespace ColorMask

/-- No channel at all. -/
def colorless : ColorMask := {}

/-- The mask holds the channel. -/
def has (mask : ColorMask) : Channel → Bool
  | .white => mask.white
  | .blue => mask.blue
  | .black => mask.black
  | .red => mask.red
  | .green => mask.green

/-- The mask with the channel (`with`). -/
def insert (mask : ColorMask) : Channel → ColorMask
  | .white => { mask with white := true }
  | .blue => { mask with blue := true }
  | .black => { mask with black := true }
  | .red => { mask with red := true }
  | .green => { mask with green := true }

/-- The mask holds no channel. -/
def isColorless (mask : ColorMask) : Bool :=
  Channel.all.all fun channel => !mask.has channel

theorem has_insert (mask : ColorMask) (a b : Channel) :
    (mask.insert a).has b = (decide (a = b) || mask.has b) := by
  cases a <;> cases b <;> simp [insert, has]

theorem has_colorless (channel : Channel) : colorless.has channel = false := by
  cases channel <;> rfl

theorem ext_has {a b : ColorMask} (h : ∀ channel, a.has channel = b.has channel) : a = b := by
  have hw := h .white
  have hu := h .blue
  have hb := h .black
  have hr := h .red
  have hg := h .green
  cases a
  cases b
  simp_all [has]

/-- The mask of a row of channel letters; a character that is no channel letter makes the row
    unreadable. -/
def ofLetters? : List Char → Option ColorMask
  | [] => some colorless
  | c :: rest => do
    let channel ← Channel.ofLetter? c
    let mask ← ofLetters? rest
    return mask.insert channel

/-- The words for no colour. -/
def colorlessWords : List String := ["c", "colorless"]

/-- The mask that a colour term stands for (`ColorMask.parse`). -/
def ofTerm? (term : String) : Option ColorMask :=
  let term := Text.trim term.toList
  if colorlessWords.any fun word => word.toList == Text.fold term then some colorless
  else ofLetters? term

/-- The channel that an export calls by the given name: its long name or its letter. -/
def channelOfName? (name : String) : Option Channel :=
  match Channel.ofName? name with
  | some channel => some channel
  | none => match name.toList with
    | [c] => Channel.ofLetter? c
    | _ => none

/-- The mask of a list of channel names; other names are passed over (`from_names`). -/
def ofNames (names : List String) : ColorMask :=
  (names.filterMap channelOfName?).foldl insert colorless

/-- The column that holds the flag for no colour. -/
def colorlessColumn : String := "colorless"

/-- The flag columns of a mask with their values. -/
def flags (mask : ColorMask) : List (String × Bool) :=
  Channel.all.map (fun channel => (channel.column, mask.has channel)) ++
    [(colorlessColumn, mask.isColorless)]

/-- The mask as a text: its letters in upper case, or `C`. -/
def display (mask : ColorMask) : String :=
  if mask.isColorless then "C"
  else String.ofList ((Channel.all.filter mask.has).map fun channel => channel.letter.toUpper)

end ColorMask

end CardCensus
