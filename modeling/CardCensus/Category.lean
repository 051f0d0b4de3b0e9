import CardCensus.Text.Words

/-!
# Category tags

A card carries types, supertypes and rarities. A `Tag` is one of the values that a query may ask
for, on one of the three axes, and `Tag.ofTerm?` reads the words that players use for them.

Results:
* `Tag.axis_of_ofTerm?`: a term stands for a tag of its axis.
-/

namespace CardCensus

/-- A kind of category. -/
inductive Axis where
  | type
  | supertype
  | rarity
  deriving Repr, DecidableEq, Inhabited

namespace Axis

/-- The axis as a word of the query language, which is also the column that holds its values. -/
def name : Axis → String
  | type => "type"
  | supertype => "supertype"
  | rarity => "rarity"

/-- The table that pairs cards with their values on the axis. -/
def table (axis : Axis) : String :=
  "card_" ++ axis.name

end Axis

/-- A value that a query may ask for. -/
inductive Tag where
  | artifact
  | creature
  | enchantment
  | instant
  | land
  | planeswalker
  | sorcery
  | tribal
  | basic
  | legendary
  | ongoing
  | snow
  | world
  | common
  | uncommon
  | rare
  | mythic
  | special
  deriving Repr, DecidableEq, Inhabited

namespace Tag

/-- Every tag, axis by axis. -/
def all : List Tag :=
  [artifact, creature, enchantment, instant, land, planeswalker, sorcery, tribal,
    basic, legendary, ongoing, snow, world, common, uncommon, rare, mythic, special]

/-- The axis of the tag. -/
def axis : Tag → Axis
  | artifact | creature | enchantment | instant | land | planeswalker | sorcery | tribal => .type
  | basic | legendary | ongoing | snow | world => .supertype
  | common | uncommon | rare | mythic | special => .rarity

/-- The name of the tag. -/
def name : Tag → String
  | artifact => "Artifact"
  | creature => "Creature"
  | enchantment => "Enchantment"
  | instant => "Instant"
  | land => "Land"
  | planeswalker => "Planeswalker"
  | sorcery => "Sorcery"
  | tribal => "Tribal"
  | basic => "Basic"
  | legendary => "Legendary"
  | ongoing => "Ongoing"
  | snow => "Snow"
  | world => "World"
  | common => "Common"
  | uncommon => "Uncommon"
  | rare => "Rare"
  | mythic => "Mythic"
  | special => "Special"

/-- The value that the tables hold for the tag (`stored_value`). -/
def storedValue : Tag → String
  | mythic => "Mythic Rare"
  | tag => tag.name

/-- The view of the cards that carry the tag (`view_name`). -/
def view : Tag → String
  | artifact => "artifacts"
  | creature => "creatures"
  | enchantment => "enchantments"
  | instant => "instants"
  | land => "lands"
  | planeswalker => "planeswalkers"
  | sorcery => "sorceries"
  | tribal => "tribals"
  | basic => "basics"
  | legendary => "legendaries"
  | ongoing => "ongoings"
  | snow => "snows"
  | world => "worlds"
  | common => "commons"
  | uncommon => "uncommons"
  | rare => "rares"
  | mythic => "mythics"
  | special => "specials"

/-- The words for each tag, in lower case with single spaces. -/
def synonyms : List (String × Tag) :=
  [("artifact", artifact), ("artifacts", artifact),
    ("creature", creature), ("creatures", creature),
    ("enchantment", enchantment), ("enchantments", enchantment),
    ("instant", instant), ("instants", instant),
    ("land", land), ("lands", land),
    ("planeswalker", planeswalker), ("planeswalkers", planeswalker), ("pw", planeswalker),
    ("sorcery", sorcery), ("sorceries", sorcery),
    ("tribal", tribal), ("tribals", tribal),
    ("basic", basic), ("basics", basic),
    ("legendary", legendary), ("legendaries", legendary), ("legend", legendary),
      ("legends", legendary),
    ("ongoing", ongoing), ("ongoings", ongoing),
    ("snow", snow), ("snows", snow),
    ("world", world), ("worlds", world),
    ("common", common), ("commons", common), ("c", common),
    ("uncommon", uncommon), ("uncommons", uncommon), ("u", uncommon), ("uc", uncommon),
    ("rare", rare), ("rares", rare), ("r", rare),
    ("mythic", mythic), ("mythics", mythic), ("mythic rare", mythic), ("mythic rares", mythic),
    ("mr", mythic), ("m", mythic),
    ("special", special), ("specials", special), ("s", special)]

/-- The words for the tags of one axis (`synonyms`). -/
def synonymsOn (axis : Axis) : List (String × Tag) :=
  synonyms.filter fun (_, tag) => tag.axis == axis

/-- The lower case of a character as far as it can be an ASCII letter. The only character outside
    ASCII with an ASCII letter as its lower case is the kelvin sign. -/
def lowerTermChar (c : Char) : Char :=
  if c = '\u212A' then 'k' else c.toLower

/-- A term in lower case, its words separated by single spaces (`normalize`). -/
def normalTerm (term : List Char) : List Char :=
  ([' '].intercalate (Text.words term)).map lowerTermChar

/-- The tag that a term stands for on an axis (`resolve`). -/
def ofTerm? (axis : Axis) (term : String) : Option Tag :=
  ((synonymsOn axis).find? fun (word, _) => word.toList == normalTerm term.toList).map (·.2)

/-- A term stands for a tag of its axis. -/
theorem axis_of_ofTerm? {axis : Axis} {term : String} {tag : Tag}
    (h : ofTerm? axis term = some tag) :
    tag.axis = axis := by
  rw [ofTerm?, Option.map_eq_some_iff] at h
  obtain ⟨⟨word, found⟩, hfound, rfl⟩ := h
  exact beq_iff_eq.mp (List.mem_filter.mp (List.mem_of_find?_eq_some hfound)).2

end Tag

end CardCensus
