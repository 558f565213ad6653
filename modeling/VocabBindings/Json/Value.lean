import VocabBindings.Text.Quoted
import VocabBindings.Decimal.Shortest

/-!
JSON values. The fields of an object keep the order in which their keys first occurred; a repeated
key keeps its place and takes the later value. The text form of a value is what stands for it where
a text is wanted.
-/

set_option autoImplicit false

namespace VocabBindings

inductive Json where
  | null
  | bool (b : Bool)
  | int (z : Int)
  | number (x : Binary64)
  | text (t : Text)
  | array (items : List Json)
  | object (fields : List (Text × Json))

namespace Json

def toItems : Json → List Json
  | null => []
  | array items => items
  | v => [v]

/-- Whether a value says something: it is not null, false, zero or empty. -/
def isGiven : Json → Bool
  | null => false
  | bool b => b
  | int z => z ≠ 0
  | number x => !x.isZero
  | text t => t ≠ []
  | array items => !items.isEmpty
  | object fields => !fields.isEmpty

mutual

def innerForm : Json → Text
  | null => "None".toList
  | bool b => if b then "True".toList else "False".toList
  | int z => Text.ofInt z
  | number x => x.text
  | text t => Text.quoted t
  | array items => '[' :: Text.joined ", ".toList (itemForms items) ++ [']']
  | object fields => '\x7b' :: Text.joined ", ".toList (fieldForms fields) ++ ['\x7d']

def itemForms : List Json → List Text
  | [] => []
  | v :: rest => innerForm v :: itemForms rest

def fieldForms : List (Text × Json) → List Text
  | [] => []
  | (k, v) :: rest => (Text.quoted k ++ ": ".toList ++ innerForm v) :: fieldForms rest

end

def toText : Json → Text
  | text t => t
  | v => innerForm v

end Json

end VocabBindings
