import CardCensus.Text.Blank
import CardCensus.Text.Split

/-!
# Words

The words of a text are its longest runs of characters that are not blank.

Results:
* `ne_nil_of_mem_words`: no word is empty.
* `exists_words_cons`: a text that starts with no blank starts with its first word.
-/

namespace CardCensus.Text

/-- The longest runs of characters that are not blank, in order. -/
def words (s : List Char) : List (List Char) :=
  (pieces isBlank s).filter fun word => !word.isEmpty

theorem ne_nil_of_mem_words {s word : List Char} (h : word ∈ words s) : word ≠ [] := by
  simp only [words, List.mem_filter] at h
  intro hn
  simp [hn] at h

/-- A text that starts with no blank starts with its first word. -/
theorem exists_words_cons {c : Char} (h : isBlank c = false) (rest : List Char) :
    ∃ word others, words (c :: rest) = (c :: word) :: others := by
  rw [words, pieces, if_neg (Bool.eq_false_iff.mp h)]
  split
  · exact ⟨[], [], rfl⟩
  · rename_i piece others _
    exact ⟨piece, _, List.filter_cons_of_pos rfl⟩

end CardCensus.Text
