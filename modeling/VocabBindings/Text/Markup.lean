import VocabBindings.Text.Blank

/-!
Removal of inline tags. A tag starts with `<` and ends at the next `>`; a `<` with no `>` after it
is ordinary text, and so is every `>` outside a tag.
-/

set_option autoImplicit false

namespace VocabBindings.Text

/-- Drops the tags of a text. The first argument holds, last character first, the tag that was
opened and not yet closed; if the text ends inside it, it was no tag and stays. -/
def dropTags : Option Text → Text → Text
  | none, [] => []
  | some opened, [] => opened.reverse
  | none, c :: rest => if c = '<' then dropTags (some ['<']) rest else c :: dropTags none rest
  | some opened, c :: rest =>
    if c = '>' then dropTags none rest else dropTags (some (c :: opened)) rest

def withoutMarkup (t : Text) : Text := trim (dropTags none t)

end VocabBindings.Text
