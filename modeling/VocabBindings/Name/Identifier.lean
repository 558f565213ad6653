import VocabBindings.Name.Case

/-!
Identifiers of the printed modules. Every character outside the ASCII letters, digits and the
underscore becomes an underscore; a digit at the start gets an underscore in front, and a reserved
word one behind.
-/

set_option autoImplicit false

namespace VocabBindings.Name

def reservedWords : List Text :=
  ["False", "None", "True", "and", "as", "assert", "async", "await", "break", "class", "continue",
   "def", "del", "elif", "else", "except", "finally", "for", "from", "global", "if", "import", "in",
   "is", "lambda", "nonlocal", "not", "or", "pass", "raise", "return", "try", "while", "with",
   "yield", "_", "case", "match"].map String.toList

def isIdentifierChar (c : Char) : Bool := isCapital c || isSmall c || isDigit c || c = '_'

def shieldDigit : Text → Text
  | [] => []
  | c :: rest => if isDigit c then '_' :: c :: rest else c :: rest

theorem mem_of_mem_shieldDigit {t : Text} {c : Char} (h : c ∈ shieldDigit t) : c = '_' ∨ c ∈ t := by
  cases t with
  | nil => exact .inr h
  | cons first rest =>
    rw [shieldDigit] at h
    split at h
    · exact List.mem_cons.mp h
    · exact .inr h

def shieldReserved (t : Text) : Text := if t ∈ reservedWords then t ++ ['_'] else t

theorem mem_of_mem_shieldReserved {t : Text} {c : Char} (h : c ∈ shieldReserved t) :
    c = '_' ∨ c ∈ t := by
  rw [shieldReserved] at h
  split at h
  · exact (List.mem_append.mp h).symm.imp_left List.mem_singleton.mp
  · exact .inr h

def identifier (name : Text) : Text :=
  shieldReserved (shieldDigit (name.map fun c => if isIdentifierChar c then c else '_'))

theorem isIdentifierChar_of_mem_identifier {name : Text} {c : Char} (h : c ∈ identifier name) :
    isIdentifierChar c := by
  have hunderscore : isIdentifierChar '_' := by decide
  rcases mem_of_mem_shieldReserved h with rfl | h
  · exact hunderscore
  · rcases mem_of_mem_shieldDigit h with rfl | h
    · exact hunderscore
    · obtain ⟨d, -, rfl⟩ := List.mem_map.mp h
      split
      · assumption
      · exact hunderscore

def fieldName (label : Text) : Text := identifier (snakeCase label)

def moduleName (className : Text) : Text := identifier (snakeCase className)

def className (name : Text) : Text := identifier name

end VocabBindings.Name
