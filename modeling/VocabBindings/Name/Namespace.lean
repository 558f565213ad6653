import VocabBindings.Text.Basic

/-!
Namespaces. A local name is an identifier without the first namespace, in the order of a list, that
it starts with. Only one namespace is removed.
-/

set_option autoImplicit false

namespace VocabBindings.Name

def vocabularyNamespaces : List Text :=
  ["http://schema.org/", "https://schema.org/", "schema:"].map String.toList

def localName : List Text → Text → Text
  | [], identifier => identifier
  | ns :: rest, identifier =>
    match Text.after? ns identifier with
    | some name => name
    | none => localName rest identifier

end VocabBindings.Name
