import Mathlib.Data.Set.Operations
import VocabBindings.Proofs.Name.FieldName
import VocabBindings.Proofs.Text.Lowercase
import VocabBindings.Proofs.Text.Pieces

/-!
Names in camel case. Every word but the first starts with a capital letter, and the first one does
or starts with a small letter. Snake case puts one underscore between two words and changes nothing
else but the capitals, so that the words, and with them the name, can be read back from it. A
reserved word gets an underscore where no snake case of such a name has one.
-/

set_option autoImplicit false

namespace VocabBindings.Name

def isCapitalWord : Text → Bool
  | [] => false
  | c :: rest => isCapital c && !rest.isEmpty && rest.all isSmallOrDigit

def isSmallWord : Text → Bool
  | [] => false
  | c :: rest => isSmall c && rest.all isSmallOrDigit

/-- The words of a name in camel case, with a condition on the first one. -/
def IsCamel (isFirst : Text → Bool) : List Text → Prop
  | [] => False
  | first :: rest => isFirst first ∧ ∀ word ∈ rest, isCapitalWord word

instance (isFirst : Text → Bool) : (words : List Text) → Decidable (IsCamel isFirst words)
  | [] => inferInstanceAs (Decidable False)
  | _ :: _ => inferInstanceAs (Decidable (_ ∧ _))

abbrev IsUpperCamel (words : List Text) : Prop := IsCamel isCapitalWord words

abbrev IsLowerCamel (words : List Text) : Prop := IsCamel isSmallWord words

def isWord (word : Text) : Bool := isCapitalWord word || isSmallWord word

theorem IsCamel.mono {isFirst isFirst' : Text → Bool}
    (hfirst : ∀ word, isFirst word → isFirst' word) {words : List Text}
    (h : IsCamel isFirst words) : IsCamel isFirst' words := by
  cases words with
  | nil => exact h
  | cons first rest => exact ⟨hfirst first h.1, h.2⟩

theorem isWord_of_isCapitalWord {word : Text} (h : isCapitalWord word) : isWord word := by
  simp [isWord, h]

theorem isWord_of_isSmallWord {word : Text} (h : isSmallWord word) : isWord word := by
  simp [isWord, h]

theorem IsCamel.isWord {words : List Text} (h : IsCamel isWord words) :
    ∀ word ∈ words, isWord word := by
  cases words with
  | nil => exact h.elim
  | cons first rest =>
    exact List.forall_mem_cons.mpr
      ⟨h.1, fun word hword => isWord_of_isCapitalWord (h.2 word hword)⟩

theorem exists_of_isCapitalWord {word : Text} (h : isCapitalWord word) :
    ∃ c rest, word = c :: rest ∧ isCapital c ∧ rest ≠ [] ∧ ∀ d ∈ rest, isSmallOrDigit d := by
  cases word with
  | nil => simp [isCapitalWord] at h
  | cons c rest => exact ⟨c, rest, rfl, by simpa [isCapitalWord, and_assoc] using h⟩

theorem exists_of_isSmallWord {word : Text} (h : isSmallWord word) :
    ∃ c rest, word = c :: rest ∧ isSmall c ∧ ∀ d ∈ rest, isSmallOrDigit d := by
  cases word with
  | nil => simp [isSmallWord] at h
  | cons c rest => exact ⟨c, rest, rfl, by simpa [isSmallWord] using h⟩

theorem exists_of_isWord {word : Text} (h : isWord word) :
    ∃ c rest, word = c :: rest ∧ (isCapital c ∧ rest ≠ [] ∨ isSmall c) ∧
      ∀ d ∈ rest, isSmallOrDigit d := by
  rcases Bool.or_eq_true_iff.mp h with h | h
  · obtain ⟨c, rest, rfl, hc, hne, hrest⟩ := exists_of_isCapitalWord h
    exact ⟨c, rest, rfl, .inl ⟨hc, hne⟩, hrest⟩
  · obtain ⟨c, rest, rfl, hc, hrest⟩ := exists_of_isSmallWord h
    exact ⟨c, rest, rfl, .inr hc, hrest⟩

theorem isSmallOrDigit_of_isSmall {c : Char} (h : isSmall c) : isSmallOrDigit c := by
  simp [isSmallOrDigit, h]

theorem isSmallOrDigit_iff {c : Char} :
    isSmallOrDigit c ↔
      0x61 ≤ c.toNat ∧ c.toNat ≤ 0x7A ∨ 0x30 ≤ c.toNat ∧ c.toNat ≤ 0x39 := by
  simp [isSmallOrDigit, isSmall, isDigit, Char.le_def, UInt32.le_iff_toNat_le]

theorem isCapital_eq_false_of_isSmallOrDigit {c : Char} (h : isSmallOrDigit c) :
    isCapital c = false := by
  rw [Bool.eq_false_iff, ne_eq, isCapital_iff]
  rw [isSmallOrDigit_iff] at h
  omega

theorem isCapital_or_of_mem {word : Text} (h : isWord word) {c : Char} (hc : c ∈ word) :
    isCapital c ∨ isSmallOrDigit c := by
  obtain ⟨first, rest, rfl, hfirst, hrest⟩ := exists_of_isWord h
  rcases List.mem_cons.mp hc with rfl | hc
  · exact hfirst.imp And.left isSmallOrDigit_of_isSmall
  · exact .inr (hrest c hc)

/-! Where words start. -/

theorem marked_of_isSmallOrDigit {c : Char} {rest : Text} (h : ∀ d ∈ rest, isSmallOrDigit d) :
    marked (c :: rest) = c :: rest := by
  induction rest generalizing c with
  | nil => rfl
  | cons d rest ih =>
    have hd := isCapital_eq_false_of_isSmallOrDigit (h d List.mem_cons_self)
    rw [marked, ih fun e he => h e (List.mem_cons_of_mem d he)]
    simp [wordFollows, hd]

theorem marked_append {c : Char} {rest : Text} (h : ∀ d ∈ rest, isSmallOrDigit d)
    (hlast : isSmallOrDigit c ∨ rest ≠ []) {u : Char} (hu : isCapital u) (more : Text) :
    marked (c :: rest ++ u :: more) = c :: rest ++ '_' :: marked (u :: more) := by
  induction rest generalizing c with
  | nil =>
    have hc : isSmallOrDigit c := hlast.resolve_right (not_not_intro rfl)
    simp [marked, wordFollows, hu, hc]
  | cons d rest ih =>
    have hd := h d List.mem_cons_self
    have hrest := ih (fun e he => h e (List.mem_cons_of_mem d he)) (.inl hd)
    rw [List.cons_append, List.cons_append, marked, ← List.cons_append, hrest]
    simp [wordFollows, isCapital_eq_false_of_isSmallOrDigit hd]

theorem marked_flatten {words : List Text} (h : IsCamel isWord words) :
    marked words.flatten = Text.joined ['_'] words := by
  induction words with
  | nil => exact h.elim
  | cons word words ih =>
    obtain ⟨c, rest, rfl, hfirst, hrest⟩ := exists_of_isWord h.1
    have hlast := hfirst.symm.imp isSmallOrDigit_of_isSmall And.right
    cases words with
    | nil => simp [Text.joined, marked_of_isSmallOrDigit hrest]
    | cons next words =>
      have hnext := h.2 next List.mem_cons_self
      have hmarked := ih ⟨isWord_of_isCapitalWord hnext, fun w hw =>
        h.2 w (List.mem_cons_of_mem next hw)⟩
      obtain ⟨u, more, rfl, hu, -⟩ := exists_of_isCapitalWord hnext
      calc marked (c :: rest ++ u :: (more ++ words.flatten))
        _ = c :: rest ++ '_' :: marked (u :: (more ++ words.flatten)) :=
            marked_append hrest hlast hu _
        _ = c :: rest ++ '_' :: Text.joined ['_'] ((u :: more) :: words) := by
            rw [← hmarked]
            rfl
        _ = Text.joined ['_'] ((c :: rest) :: (u :: more) :: words) := by
            simp [Text.joined, List.intercalate_cons_cons]

/-! Lower case. -/

def lowered (word : Text) : Text := word.map Char.toLower

theorem lowered_of_isSmallOrDigit {t : Text} (h : ∀ d ∈ t, isSmallOrDigit d) : lowered t = t := by
  have hid : lowered t = t.map id := List.map_congr_left fun d hd =>
    toLower_of_isCapital_eq_false (isCapital_eq_false_of_isSmallOrDigit (h d hd))
  rw [hid, List.map_id]

theorem isSmallOrDigit_of_mem_lowered {word : Text} (h : isWord word) {c : Char}
    (hc : c ∈ lowered word) : isSmallOrDigit c := by
  obtain ⟨d, hd, rfl⟩ := List.mem_map.mp hc
  rw [isSmallOrDigit_iff, toNat_toLower]
  rcases isCapital_or_of_mem h hd with hd | hd
  · rw [if_pos hd]
    rw [isCapital_iff] at hd
    omega
  · rw [isCapital_eq_false_of_isSmallOrDigit hd]
    exact isSmallOrDigit_iff.mp hd

theorem lowered_inj_of_isCapitalWord {word word' : Text} (h : isCapitalWord word)
    (h' : isCapitalWord word') (heq : lowered word = lowered word') : word = word' := by
  obtain ⟨c, rest, rfl, hc, -, hrest⟩ := exists_of_isCapitalWord h
  obtain ⟨c', rest', rfl, hc', -, hrest'⟩ := exists_of_isCapitalWord h'
  obtain ⟨hfirst, htail⟩ := List.cons.inj heq
  have hcode := congrArg Char.toNat hfirst
  rw [toNat_toLower, toNat_toLower, if_pos hc, if_pos hc', Nat.add_right_cancel_iff] at hcode
  have hsame : rest = rest' := by
    rw [← lowered_of_isSmallOrDigit hrest, ← lowered_of_isSmallOrDigit hrest']
    exact htail
  rw [Char.toNat_inj.mp hcode, hsame]

theorem lowered_of_isSmallWord {word : Text} (h : isSmallWord word) : lowered word = word := by
  obtain ⟨c, rest, rfl, hc, hrest⟩ := exists_of_isSmallWord h
  exact lowered_of_isSmallOrDigit
    (List.forall_mem_cons.mpr ⟨isSmallOrDigit_of_isSmall hc, hrest⟩)

theorem lowered_inj_of_isSmallWord {word word' : Text} (h : isSmallWord word)
    (h' : isSmallWord word') (heq : lowered word = lowered word') : word = word' := by
  rwa [lowered_of_isSmallWord h, lowered_of_isSmallWord h'] at heq

theorem eq_of_map_lowered {words words' : List Text} (h : ∀ word ∈ words, isCapitalWord word)
    (h' : ∀ word ∈ words', isCapitalWord word) (heq : words.map lowered = words'.map lowered) :
    words = words' := by
  induction words generalizing words' with
  | nil => exact (List.map_eq_nil_iff.mp heq.symm).symm
  | cons word words ih =>
    obtain ⟨word', words', rfl, hword, hwords⟩ := List.map_eq_cons_iff.mp heq.symm
    rw [List.forall_mem_cons] at h h'
    rw [lowered_inj_of_isCapitalWord h.1 h'.1 hword.symm, ih h.2 h'.2 hwords.symm]

/-- The words of a name are known from their lower case if the first one is. -/
theorem IsCamel.eq_of_map_lowered {isFirst : Text → Bool}
    (hfirst : ∀ {word word'}, isFirst word → isFirst word' → lowered word = lowered word' →
      word = word')
    {words words' : List Text} (h : IsCamel isFirst words) (h' : IsCamel isFirst words')
    (heq : words.map lowered = words'.map lowered) : words = words' := by
  cases words with
  | nil => exact h.elim
  | cons first rest =>
    obtain ⟨first', rest', rfl, hword, hwords⟩ := List.map_eq_cons_iff.mp heq.symm
    rw [hfirst h.1 h'.1 hword.symm, Name.eq_of_map_lowered h.2 h'.2 hwords.symm]

theorem snakeCase_flatten {words : List Text} (h : IsCamel isWord words) :
    snakeCase words.flatten = Text.joined ['_'] (words.map lowered) := by
  have hmarked : markCapitals (markWords false words.flatten) = Text.joined ['_'] words := by
    rw [markCapitals_markWords, marked_flatten h]
  have hbound : ∀ c ∈ Text.joined ['_'] words, c.toNat < 0xC0 := by
    intro c hc
    rcases Text.mem_of_mem_joined hc with hc | ⟨word, hword, hc⟩
    · rw [List.mem_singleton.mp hc]
      decide
    · have hchar := isCapital_or_of_mem (h.isWord word hword) hc
      rw [isCapital_iff, isSmallOrDigit_iff] at hchar
      omega
  rw [snakeCase, hmarked, Text.lower_of_lt hbound, Text.map_joined (by decide)]
  rfl

/-! Names that are read back. -/

theorem pieces_snakeCase_flatten {words : List Text} (h : IsCamel isWord words) :
    Text.pieces '_' (snakeCase words.flatten) = words.map lowered := by
  have hne : words.map lowered ≠ [] := by
    cases words with
    | nil => exact h.elim
    | cons first rest => exact List.cons_ne_nil _ _
  rw [snakeCase_flatten h, Text.pieces_joined hne]
  intro p hp hunderscore
  obtain ⟨word, hword, rfl⟩ := List.mem_map.mp hp
  exact absurd (isSmallOrDigit_of_mem_lowered (h.isWord word hword) hunderscore) (by decide)

theorem shielded_eq_self {t : Text} (h : [] ∉ Text.pieces '_' (shielded t)) : shielded t = t := by
  rcases shielded_cases t with ht | ⟨-, ht⟩ | ⟨-, ht⟩
  · exact ht
  · rw [ht, Text.pieces_append_cons] at h
    exact absurd (List.mem_append_right _ (List.mem_singleton_self [])) h
  · rw [ht, ← List.nil_append ('_' :: t), Text.pieces_append_cons] at h
    exact absurd (List.mem_append_left _ (List.mem_singleton_self [])) h

theorem fieldName_flatten {words : List Text} (h : IsCamel isWord words) :
    fieldName words.flatten = shielded (snakeCase words.flatten) := by
  rw [fieldName, identifier_eq, map_replaced]
  intro c hc
  rw [snakeCase_flatten h] at hc
  rcases Text.mem_of_mem_joined hc with hc | ⟨p, hp, hc⟩
  · rw [List.mem_singleton.mp hc]
    decide
  · obtain ⟨word, hword, rfl⟩ := List.mem_map.mp hp
    have hchar := isSmallOrDigit_of_mem_lowered (h.isWord word hword) hc
    simp only [isSmallOrDigit, isIdentifierChar] at hchar ⊢
    grind

theorem map_lowered_of_fieldName {words words' : List Text} (h : IsCamel isWord words)
    (h' : IsCamel isWord words') (heq : fieldName words.flatten = fieldName words'.flatten) :
    words.map lowered = words'.map lowered := by
  have hwhole : ∀ {us : List Text}, IsCamel isWord us →
      [] ∉ Text.pieces '_' (snakeCase us.flatten) := by
    intro us hus hnil
    rw [pieces_snakeCase_flatten hus] at hnil
    obtain ⟨word, hword, hlowered⟩ := List.mem_map.mp hnil
    obtain ⟨c, rest, rfl, -⟩ := exists_of_isWord (hus.isWord word hword)
    exact List.cons_ne_nil _ _ hlowered
  rw [← pieces_snakeCase_flatten h, ← pieces_snakeCase_flatten h']
  rw [fieldName_flatten h, fieldName_flatten h', shielded_eq_iff] at heq
  -- A shield would add an empty piece to the lower-case words of the other name.
  rcases heq with heq | heq | heq
  · rw [heq]
  · rw [← heq, shielded_eq_self (heq ▸ hwhole h')]
  · rw [heq, shielded_eq_self (heq ▸ hwhole h)]

theorem injOn_fieldName {isFirst : Text → Bool} (hword : ∀ word, isFirst word → isWord word)
    (hfirst : ∀ {word word'}, isFirst word → isFirst word' → lowered word = lowered word' →
      word = word') :
    Set.InjOn fieldName {name | ∃ words, IsCamel isFirst words ∧ words.flatten = name} := by
  rintro _ ⟨words, h, rfl⟩ _ ⟨words', h', rfl⟩ heq
  have hlowered := map_lowered_of_fieldName (h.mono hword) (h'.mono hword) heq
  exact congrArg List.flatten (h.eq_of_map_lowered hfirst h' hlowered)

/-- The snake case of a name in camel case is its words in lower case with an underscore between two
of them. Two classes in upper camel case have different module names, and two properties in lower
camel case different field names. -/
theorem snakeCase_of_camelCase :
    (∀ words, IsUpperCamel words ∨ IsLowerCamel words →
      snakeCase words.flatten = Text.joined ['_'] (words.map fun word => word.map Char.toLower)) ∧
    Set.InjOn moduleName {name | ∃ words, IsUpperCamel words ∧ words.flatten = name} ∧
    Set.InjOn fieldName {name | ∃ words, IsLowerCamel words ∧ words.flatten = name} := by
  refine ⟨fun words h => ?_, ?_, ?_⟩
  · rcases h with h | h
    · exact snakeCase_flatten (h.mono fun _ => isWord_of_isCapitalWord)
    · exact snakeCase_flatten (h.mono fun _ => isWord_of_isSmallWord)
  · exact injOn_fieldName (fun _ => isWord_of_isCapitalWord) lowered_inj_of_isCapitalWord
  · exact injOn_fieldName (fun _ => isWord_of_isSmallWord) lowered_inj_of_isSmallWord

theorem snakeCase_of_camelCase_apart :
    snakeCase "WebPage3X9yElement".toList = "web_page3_x9y_element".toList ∧
      moduleName "WorksFor".toList ≠ moduleName "Worksfor".toList ∧
      fieldName "from".toList ≠ fieldName "fRom".toList := by
  have hpage : IsUpperCamel (["Web", "Page3", "X9y", "Element"].map String.toList) := by decide
  have hworksFor : IsUpperCamel (["Works", "For"].map String.toList) := by decide
  have hworksfor : IsUpperCamel (["Worksfor"].map String.toList) := by decide
  have hfrom : IsLowerCamel (["from"].map String.toList) := by decide
  have hfRom : IsLowerCamel (["f", "Rom"].map String.toList) := by decide
  refine ⟨?_, fun heq => ?_, fun heq => ?_⟩
  · exact snakeCase_of_camelCase.1 _ (.inl hpage)
  · have hsame := snakeCase_of_camelCase.2.1 ⟨_, hworksFor, rfl⟩ ⟨_, hworksfor, rfl⟩ heq
    exact absurd hsame (by decide)
  · have hsame := snakeCase_of_camelCase.2.2 ⟨_, hfrom, rfl⟩ ⟨_, hfRom, rfl⟩ heq
    exact absurd hsame (by decide)

end VocabBindings.Name
