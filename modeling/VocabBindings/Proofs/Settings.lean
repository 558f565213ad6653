import VocabBindings.CommandLine.Run
import VocabBindings.Proofs.Text.Pieces

/-!
The names of requested classes. Names may be given one by one or in lists with commas, with blanks
around them and nothing between two commas: what counts are the names that are left, in order. To
split, to trim and to clean does nothing to them any more.
-/

set_option autoImplicit false

namespace VocabBindings.Settings

/-- A name as it is kept: not empty, without a comma, and without blanks around it. -/
structure IsName (name : Text) : Prop where
  ne_nil : name ≠ []
  comma : ',' ∉ name
  trimmed : Text.IsTrimmed name

variable {lists names : List Text} {name : Text}

theorem cleaned_append (names more : List Text) :
    cleaned (names ++ more) = cleaned names ++ cleaned more := by
  simp [cleaned]

theorem namesIn_append (lists more : List Text) :
    namesIn (lists ++ more) = namesIn lists ++ namesIn more := by
  simp [namesIn, cleaned_append]

theorem isName_of_mem_namesIn (h : name ∈ namesIn lists) : IsName name := by
  obtain ⟨hne, htrimmed⟩ := isTrimmed_of_mem_cleaned h
  refine ⟨hne, fun hcomma => ?_, htrimmed⟩
  simp only [namesIn, cleaned, List.mem_filter, List.mem_map, List.mem_flatMap] at h
  obtain ⟨⟨piece, ⟨list, -, hpiece⟩, rfl⟩, -⟩ := h
  exact Text.not_mem_of_mem_pieces hpiece ((Text.trim_isInfix piece).subset hcomma)

theorem cleaned_eq_self (h : ∀ name ∈ names, IsName name) : cleaned names = names :=
  cleaned_of_isTrimmed fun name hm => ⟨(h name hm).ne_nil, (h name hm).trimmed⟩

theorem flatMap_pieces_eq_self (h : ∀ name ∈ names, IsName name) :
    names.flatMap (Text.pieces ',') = names := by
  induction names with
  | nil => rfl
  | cons name rest ih =>
    obtain ⟨hname, hrest⟩ := List.forall_mem_cons.mp h
    rw [List.flatMap_cons, Text.pieces_of_not_mem hname.comma, ih hrest, List.singleton_append]

theorem namesIn_eq_self (h : ∀ name ∈ names, IsName name) : namesIn names = names := by
  rw [namesIn, flatMap_pieces_eq_self h, cleaned_eq_self h]

/-- The empty text has one piece, of which nothing is left, so no list is as good as an empty one. -/
theorem namesIn_joined (lists : List Text) : namesIn [Text.joined [','] lists] = namesIn lists := by
  cases lists with
  | nil => decide
  | cons list rest =>
    rw [namesIn, List.flatMap_singleton, Text.pieces_joined_eq_flatMap (List.cons_ne_nil list rest),
      namesIn]

theorem schemas_settings (defaultCache version : Text) (a : CommandLine.Arguments) :
    (CommandLine.settings defaultCache version a).schemas = namesIn (a.all .schemas) := rfl

/-- Lists of names say the same one by one and joined by commas, and one behind the other they say
what each of them says. What they say are names, which say themselves, and which settings keep as
they are. Command lines that give the same lists in either way make the same settings. -/
theorem names_of_lists (lists more : List Text) :
    namesIn [Text.joined [','] lists] = namesIn lists ∧
      (∀ name ∈ namesIn lists, IsName name) ∧
      namesIn (lists ++ more) = namesIn lists ++ namesIn more ∧
      namesIn (namesIn lists) = namesIn lists ∧
      cleaned (namesIn lists) = namesIn lists ∧
      ∀ (defaultCache version : Text) (a b : CommandLine.Arguments),
        a.all .schemas = lists → b.all .schemas = [Text.joined [','] lists] →
        (CommandLine.settings defaultCache version a).schemas = cleaned (namesIn lists) ∧
          (CommandLine.settings defaultCache version b).schemas = cleaned (namesIn lists) := by
  have hnames : ∀ name ∈ namesIn lists, IsName name := fun _ => isName_of_mem_namesIn
  have hcleaned : cleaned (namesIn lists) = namesIn lists := cleaned_namesIn lists
  refine ⟨namesIn_joined lists, hnames, namesIn_append lists more, namesIn_eq_self hnames, hcleaned,
    fun defaultCache version a b ha hb => ?_⟩
  rw [hcleaned, schemas_settings, schemas_settings, ha, hb]
  exact ⟨rfl, namesIn_joined lists⟩

def scattered : List Text :=
  ["\u3000Book ,, CreativeWork\t", " , ", "Movie"].map String.toList

theorem names_of_lists_scattered :
    let names := ["Book", "CreativeWork", "Movie"].map String.toList
    let a : CommandLine.Arguments := { values := scattered.map fun list => (.schemas, list) }
    let b : CommandLine.Arguments := { values := [(.schemas, Text.joined [','] scattered)] }
    namesIn scattered = names ∧ namesIn [Text.joined [','] scattered] = names ∧
      namesIn names = names ∧ cleaned names = names ∧
      (CommandLine.settings [] [] a).schemas = names ∧
      (CommandLine.settings [] [] b).schemas = names := by
  intro names a b
  obtain ⟨hjoined, -, -, hagain, hcleaned, hsettings⟩ := names_of_lists scattered []
  have hnames : namesIn scattered = names := by decide +kernel
  have hkept := hsettings [] [] a b (by decide) (by decide)
  rw [hcleaned, hnames] at hkept
  rw [hnames] at hjoined hagain hcleaned
  exact ⟨hnames, hjoined, hagain, hcleaned, hkept⟩

end VocabBindings.Settings
