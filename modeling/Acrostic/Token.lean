import Acrostic.Rule.Error
import Acrostic.Text.Split
import Acrostic.Unicode.Word.Boundary

namespace Acrostic

-- A word or a punctuation mark of a phrase
abbrev Token := List Char

-- The segments between word boundaries, trimmed. White space is no token.
def tokenize (text : List Char) : List Token :=
  ((Unicode.segments text).map Text.trim).filter (!·.isEmpty)

-- A source of tokens for a language, named by its tag.
-- The boundaries are those that all languages with spaces between words share.
structure Tokenizer where
  locale : String := "en"

namespace Tokenizer

-- Absent text is an error, empty text is not.
def tokenize? (_ : Tokenizer) : Option (List Char) → Except Rule.Error (List Token)
  | some text => .ok (tokenize text)
  | none => .error (.missingInput "tokenizer")

end Tokenizer

end Acrostic
