import CardCensus.Category
import CardCensus.Color
import CardCensus.Negation
import CardCensus.Proofs.Text.Folding
import CardCensus.Query.Clause

/-!
# Match texts in another case

Folding the ASCII letters of a match text folds the terms, the columns and the unknown fields that
it names. Its known fields, its verbs and the masks and tags that its terms stand for stay what they
are.

Results:
* `ofTerm?_folded` (of masks and of tags): a term stands for the same in any case.
* `Clause.read_fold`: a folded clause is read as the folded reading of the clause.
* `Match.known_folded`, `Match.requests_folded`: the filters and the requests of a folded text.
-/

namespace CardCensus

/-! ## Terms -/

namespace Negation

theorem negated?_folded (term : String) :
    negated? (Text.folded term) = (negated? term).map Text.folded := by
  rw [negated?, negated?, Text.toList_folded]
  cases term.toList with
  | nil => rfl
  | cons c rest =>
    have hmark : c.toLower = mark ↔ c = mark := Text.toLower_eq_iff (by decide) (by decide)
    have hcons : Text.fold (c :: rest) = c.toLower :: Text.fold rest := rfl
    simp only [hcons, hmark]
    split
    · rw [Option.map_some, Text.folded_ofList]
    · rfl

theorem positives_folded (terms : List String) :
    positives (terms.map Text.folded) = (positives terms).map Text.folded := by
  rw [positives, List.filter_map, positives]
  congr 2
  funext term
  rw [Function.comp_apply, negated?_folded, Option.isNone_map]

theorem negatives_folded (terms : List String) :
    negatives (terms.map Text.folded) = (negatives terms).map Text.folded := by
  rw [negatives, negatives, List.filterMap_map, List.map_filterMap]
  congr 1
  funext term
  exact negated?_folded term

end Negation

namespace ColorMask

theorem ofLetters?_fold (letters : List Char) :
    ofLetters? (Text.fold letters) = ofLetters? letters := by
  induction letters with
  | nil => rfl
  | cons c rest ih =>
    have hletter : Channel.ofLetter? c.toLower = Channel.ofLetter? c := by
      rw [Channel.ofLetter?, Channel.ofLetter?, Text.toLower_toLower]
    have hcons : Text.fold (c :: rest) = c.toLower :: Text.fold rest := rfl
    rw [hcons, ofLetters?, ofLetters?, hletter, ih]

theorem ofTerm?_folded (term : String) : ofTerm? (Text.folded term) = ofTerm? term := by
  simp only [ofTerm?, Text.toList_folded, Text.trim_fold, Text.fold_fold, ofLetters?_fold]

end ColorMask

namespace Tag

theorem lowerTermChar_toLower (c : Char) : lowerTermChar c.toLower = lowerTermChar c := by
  have hkelvin : c.toLower = '\u212A' ↔ c = '\u212A' := Text.toLower_eq_iff (by decide) (by decide)
  simp only [lowerTermChar, hkelvin, Text.toLower_toLower]

theorem normalTerm_fold (term : List Char) : normalTerm (Text.fold term) = normalTerm term := by
  have hlower : lowerTermChar ∘ Char.toLower = lowerTermChar := funext lowerTermChar_toLower
  have hjoin : [' '].intercalate ((Text.words term).map Text.fold) =
      Text.fold ([' '].intercalate (Text.words term)) := (Text.fold_intercalate [' '] _).symm
  rw [normalTerm, Text.words_fold, hjoin, Text.fold, List.map_map, hlower, normalTerm]

theorem ofTerm?_folded (axis : Axis) (term : String) :
    ofTerm? axis (Text.folded term) = ofTerm? axis term := by
  rw [ofTerm?, ofTerm?, Text.toList_folded, normalTerm_fold]

end Tag

/-! ## Words -/

namespace Field

/-- The language knows the field. -/
def isKnown : Field → Bool
  | unknown _ => false
  | _ => true

/-- The field in lower case; only an unknown one can be in another. -/
def folded : Field → Field
  | unknown word => unknown (Text.folded word)
  | field => field

theorem isKnown_folded (field : Field) : field.folded.isKnown = field.isKnown := by
  cases field <;> rfl

theorem folded_of_isKnown {field : Field} (h : field.isKnown = true) : field.folded = field := by
  cases field with
  | unknown word => cases h
  | _ => rfl

theorem isKnown_of_mem_words : ∀ entry ∈ words, entry.2.isKnown = true := by
  decide

theorem ofWord_folded (word : String) : ofWord (Text.folded word) = (ofWord word).folded := by
  rw [ofWord, ofWord, Text.toList_folded, Text.fold_fold]
  cases hfound : words.find? fun entry => entry.1.toList == Text.fold word.toList with
  | none => rfl
  | some entry =>
    exact (folded_of_isKnown (isKnown_of_mem_words entry (List.mem_of_find?_eq_some hfound))).symm

end Field

theorem Verb.ofWord?_folded (word : String) :
    Verb.ofWord? (Text.folded word) = Verb.ofWord? word := by
  rw [Verb.ofWord?, Verb.ofWord?, Text.toList_folded, Text.fold_fold]

/-- The request with its column in lower case. -/
def Request.folded (request : Request) : Request :=
  ⟨request.verb, Text.folded request.column⟩

/-! ## Clauses -/

namespace Clause

/-- The clause in lower case. -/
def folded : Clause → Clause
  | skipped text => skipped (Text.folded text)
  | filter field terms => filter field.folded (terms.map Text.folded)
  | request verb columns => request verb (columns.map Text.folded)

theorem values_fold (s : List Char) : values (Text.fold s) = (values s).map Text.folded := by
  have hbar : ∀ c : Char, (c.toLower == valueSeparator) = (c == valueSeparator) :=
    Text.beq_toLower (by decide)
  rw [values, Text.pieces_fold hbar, values, List.map_map, List.map_map]
  apply List.map_congr_left
  intro value _
  rw [Function.comp_apply, Function.comp_apply, Text.trim_fold, Text.folded_ofList]

theorem filter_filled_folded (columns : List String) :
    (columns.map Text.folded).filter (· ≠ "") = (columns.filter (· ≠ "")).map Text.folded := by
  rw [List.filter_map]
  congr 2
  funext column
  simp only [Function.comp_apply, ne_eq, Text.folded_eq_empty_iff]

/-- A folded clause is read as the folded reading of the clause. -/
theorem read_fold (clause : List Char) : read (Text.fold clause) = (read clause).folded := by
  rw [read, read, Text.cutAtChar_fold (by decide)]
  cases Text.cutAtChar fieldMark clause with
  | none =>
    show skipped _ = skipped _
    rw [Text.trim_fold, Text.folded_ofList]
  | some parts =>
    obtain ⟨head, rest⟩ := parts
    have hword : String.ofList (Text.trim (Text.fold head)) =
        Text.folded (String.ofList (Text.trim head)) := by
      rw [Text.trim_fold, Text.folded_ofList]
    simp only [Option.map_some, hword, Verb.ofWord?_folded, values_fold, filter_filled_folded,
      Field.ofWord_folded]
    cases Verb.ofWord? (String.ofList (Text.trim head)) <;> rfl

theorem readAll_fold (text : List Char) : readAll (Text.fold text) = (readAll text).map folded := by
  have hcomma : ∀ c : Char, (c.toLower == separator) = (c == separator) :=
    Text.beq_toLower (by decide)
  have hblank : (fun clause => !Text.isBlankText clause) ∘ Text.fold = fun clause =>
      !Text.isBlankText clause := by
    funext clause
    rw [Function.comp_apply, Text.isBlankText_fold]
  rw [readAll, Text.pieces_fold hcomma, List.takeWhile_map, hblank, List.map_map, readAll,
    List.map_map]
  exact List.map_congr_left fun clause _ => read_fold clause

theorem requests_folded (clause : Clause) :
    clause.folded.requests = clause.requests.map Request.folded := by
  cases clause with
  | skipped | filter => rfl
  | request verb columns =>
    show (columns.map Text.folded).map (Request.mk verb) =
      (columns.map (Request.mk verb)).map Request.folded
    rw [List.map_map, List.map_map]
    rfl

end Clause

/-! ## Match texts -/

namespace Query

/-- The fields that the language knows, with their terms. -/
def known (query : Query) : List (Field × List String) :=
  query.fields.filter fun entry => entry.1.isKnown

/-- A field with its terms changed one by one. -/
def mapEntry (change : Field → String → String) (entry : Field × List String) :
    Field × List String :=
  (entry.1, entry.2.map (change entry.1))

/-- Terms can be changed before or after they are added. -/
theorem addTo_map (change : Field → String → String) (field : Field) (terms : List String)
    (fields : List (Field × List String)) :
    addTo field (terms.map (change field)) (fields.map (mapEntry change)) =
      (addTo field terms fields).map (mapEntry change) := by
  induction fields with
  | nil => rfl
  | cons entry rest ih =>
    obtain ⟨other, others⟩ := entry
    by_cases hfield : other = field
    · subst hfield
      simp [addTo, mapEntry]
    · simp [addTo, mapEntry, hfield] at ih ⊢
      exact ih

/-- A field with its terms in lower case. -/
def foldEntry (entry : Field × List String) : Field × List String :=
  (entry.1, entry.2.map Text.folded)

theorem known_add_of_isKnown (query : Query) {field : Field} (h : field.isKnown = true)
    (terms : List String) :
    (query.add field terms).known = addTo field terms query.known := by
  obtain ⟨fields⟩ := query
  simp only [known, add]
  induction fields with
  | nil => simp [addTo, h]
  | cons entry rest ih =>
    obtain ⟨other, others⟩ := entry
    by_cases hfield : other = field
    · simp [addTo, hfield, h]
    · cases hother : other.isKnown <;> simp [addTo, hfield, hother, ih]

theorem known_add_of_not_isKnown (query : Query) {field : Field} (h : field.isKnown = false)
    (terms : List String) : (query.add field terms).known = query.known := by
  obtain ⟨fields⟩ := query
  simp only [known, add]
  induction fields with
  | nil => simp [addTo, h]
  | cons entry rest ih =>
    obtain ⟨other, others⟩ := entry
    by_cases hfield : other = field
    · simp [addTo, hfield, h]
    · cases hother : other.isKnown <;> simp [addTo, hfield, hother, ih]

/-- **Step.** A folded clause does to the folded filters what the clause does to the filters. -/
theorem known_addTo_folded {query other : Query} (h : other.known = query.known.map foldEntry)
    (clause : Clause) : (clause.folded.addTo other).known =
      (clause.addTo query).known.map foldEntry := by
  cases clause with
  | skipped | request => exact h
  | filter field terms =>
    show (other.add field.folded (terms.map Text.folded)).known =
      (query.add field terms).known.map foldEntry
    cases hknown : field.isKnown with
    | true =>
      rw [Field.folded_of_isKnown hknown, known_add_of_isKnown _ hknown,
        known_add_of_isKnown _ hknown, h]
      exact addTo_map (fun _ => Text.folded) field terms query.known
    | false =>
      have hfolded : field.folded.isKnown = false := by rw [Field.isKnown_folded, hknown]
      rw [known_add_of_not_isKnown _ hfolded, known_add_of_not_isKnown _ hknown, h]

/-- **Run.** The filters of folded clauses are the folded filters of the clauses. -/
theorem known_foldl_addTo_folded (clauses : List Clause) {query other : Query}
    (h : other.known = query.known.map foldEntry) :
    ((clauses.map Clause.folded).foldl Clause.addTo other).known =
      (clauses.foldl Clause.addTo query).known.map foldEntry := by
  induction clauses generalizing query other with
  | nil => exact h
  | cons clause rest ih => exact ih (known_addTo_folded h clause)

end Query

namespace Match

theorem known_folded (text : String) :
    (ofText (Text.folded text)).query.known = (ofText text).query.known.map Query.foldEntry := by
  rw [ofText, Text.toList_folded, Clause.readAll_fold]
  exact Query.known_foldl_addTo_folded _ rfl

theorem orStandard_folded (requests : List Request) :
    orStandard (requests.map Request.folded) = (orStandard requests).map Request.folded := by
  cases requests with
  | nil =>
    have hstandard : Request.standard.folded = Request.standard := by decide
    show [Request.standard] = [Request.standard.folded]
    rw [hstandard]
  | cons request rest => rfl

theorem requests_folded (text : String) :
    (ofText (Text.folded text)).requests = (ofText text).requests.map Request.folded := by
  have hrequests : ∀ clauses : List Clause, (clauses.map Clause.folded).flatMap Clause.requests =
      (clauses.flatMap Clause.requests).map Request.folded := by
    intro clauses
    rw [List.flatMap_map, List.map_flatMap]
    exact congrArg (fun f => List.flatMap f clauses) (funext Clause.requests_folded)
  rw [ofText, Text.toList_folded, Clause.readAll_fold, ofClauses, hrequests, orStandard_folded]
  rfl

end Match

end CardCensus
