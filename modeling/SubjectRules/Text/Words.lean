/-!
# Words of a text

Words are the longest runs of characters between separators.
-/

namespace SubjectRules.Text

def flush (word : List Char) : List (List Char) := if word.isEmpty then [] else [word]

/-- The words of a text that begins inside `word`. -/
def wordsFrom (separates : Char → Bool) (word : List Char) : List Char → List (List Char)
  | [] => flush word
  | c :: rest =>
      if separates c then flush word ++ wordsFrom separates [] rest
      else wordsFrom separates (word ++ [c]) rest

def words (separates : Char → Bool) (text : List Char) : List (List Char) :=
  wordsFrom separates [] text

def trimmed (separates : Char → Bool) (text : List Char) : List Char :=
  ((text.dropWhile separates).reverse.dropWhile separates).reverse

end SubjectRules.Text
