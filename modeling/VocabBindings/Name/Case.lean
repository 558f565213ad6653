import VocabBindings.Text.Lowercase

/-!
Snake case. A word boundary is marked in two passes, an underscore at each: first before a capital
letter with small letters after it, then between a small letter or digit and a capital letter.
Capital letters, small letters and digits are the ASCII ones; the result is then lower-cased as a
whole.
-/

set_option autoImplicit false

namespace VocabBindings.Name

def isCapital (c : Char) : Bool := 'A' ≤ c && c ≤ 'Z'

def isSmall (c : Char) : Bool := 'a' ≤ c && c ≤ 'z'

def isDigit (c : Char) : Bool := '0' ≤ c && c ≤ '9'

def startsSmall : Text → Bool
  | [] => false
  | c :: _ => isSmall c

/-- Marks the capitalised words of a text. A word consists of a capital letter and the small letters
after it, and is marked if a character other than a line feed comes before it that belongs to no
word marked just before. The flag says that the scan stands inside the small letters of a word. -/
def markWords : Bool → Text → Text
  | inWord, c :: u :: rest =>
    if inWord && isSmall c then c :: markWords true (u :: rest)
    else if c ≠ '\n' && isCapital u && startsSmall rest then c :: '_' :: u :: markWords true rest
    else c :: markWords false (u :: rest)
  | _, t => t

/-- Marks every place between a small letter or a digit and a capital letter. -/
def markCapitals : Text → Text
  | c :: u :: rest =>
    if (isSmall c || isDigit c) && isCapital u then c :: '_' :: markCapitals (u :: rest)
    else c :: markCapitals (u :: rest)
  | t => t

def snakeCase (name : Text) : Text := Text.lower (markCapitals (markWords false name))

end VocabBindings.Name
