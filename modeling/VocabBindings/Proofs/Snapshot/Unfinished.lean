import VocabBindings.Proofs.Files.Matching
import VocabBindings.Proofs.Snapshot.Cache

/-!
What a failed fetch leaves. A snapshot is written next to its place and moved there; nothing takes
the unfinished file away when the move fails. That is the only way to leave a file behind, and it
takes a folder at the place of the snapshot.
-/

set_option autoImplicit false

namespace VocabBindings

namespace Files

/-! Paths that grow at their end. -/

theorem withoutEndSlashes_of_getLast? {path : Text} {c : Char} (hlast : path.getLast? = some c)
    (hslash : c ≠ '/') : withoutEndSlashes path = path := by
  obtain ⟨lead, rfl⟩ := List.getLast?_eq_some_iff.mp hlast
  simp [withoutEndSlashes, hslash]

theorem getLast?_lastName {path : Text} {c : Char} (hlast : path.getLast? = some c)
    (hslash : c ≠ '/') : (lastName path).getLast? = some c := by
  rw [lastName, withoutEndSlashes_of_getLast? hlast hslash]
  obtain ⟨lead, rfl⟩ := List.getLast?_eq_some_iff.mp hlast
  simp [hslash]

theorem isPlainName_of_getLast? {name : Text} {c : Char} (hlast : name.getLast? = some c)
    (hdot : c ≠ '.') : IsPlainName name := by
  refine ⟨?_, ?_, ?_⟩ <;> rintro rfl <;> simp [eq_comm, hdot] at hlast

namespace Tree

variable {t : Tree} {path target more : Text} {bytes : Bytes}

theorem locate_eq_ok_iff {c : Char} {lead : List Text} {last : Text} {place : Place}
    (hu : Usable path) (hlast : path.getLast? = some c) (hc : c ≠ '/' ∧ c ≠ '.')
    (hpieces : Text.pieces '/' path = lead ++ [last]) :
    t.locate path = .ok place ↔
      ∃ folder, t.walk [] lead = .ok folder ∧ (Text.encode last).length ≤ nameLimit ∧
        folder ++ [last] = place := by
  have hplain := isPlainName_of_getLast? (getLast?_lastName hlast hc.1) hc.2
  have hnames := pieces_withoutEndSlashes path
  rw [withoutEndSlashes_of_getLast? hlast hc.1] at hnames
  obtain ⟨hlead, hname⟩ := List.append_inj' (hpieces.symm.trans hnames) rfl
  obtain rfl := List.singleton_inj.mp hname
  rw [locate_of_usable hu, if_pos hplain, withoutEndSlashes_of_getLast? hlast hc.1, ← hlead]
  cases t.walk [] lead with
  | error fault => simp
  | ok folder =>
    by_cases hlong : nameLimit < (Text.encode (lastName path)).length
    · simp [hlong, Nat.not_le.mpr hlong]
    · simp [hlong, Nat.not_lt.mp hlong]

theorem locate_of_append {c d : Char} (hlast : path.getLast? = some c) (hc : c ≠ '/' ∧ c ≠ '.')
    (hmore : more.getLast? = some d) (hd : d ≠ '.') (hslash : '/' ∉ more) {place : Place}
    (h : t.locate (path ++ more) = .ok place) : t.locate path = .ok (placeOf path) := by
  have hne : path ≠ [] := by
    rintro rfl
    cases hlast
  have hd' : d ≠ '/' := fun heq => hslash (heq ▸ List.mem_of_getLast? hmore)
  have hends : (path ++ more).getLast? = some d := by rw [List.getLast?_append, hmore]; rfl
  have hlonger := usable_of_locate h
  have hu : Usable path :=
    ⟨hne, fun hmem => hlonger.noNull (List.mem_append_left _ hmem),
      Nat.lt_of_le_of_lt (length_encode_le (List.prefix_append _ _)) hlonger.short⟩
  obtain ⟨lead, last, hpieces⟩ := Text.exists_pieces_append '/' path
  have hpath : Text.pieces '/' path = lead ++ [last] := by simpa using hpieces [] List.not_mem_nil
  obtain ⟨folder, hwalk, hshort, -⟩ :=
    (locate_eq_ok_iff hlonger hends ⟨hd', hd⟩ (hpieces more hslash)).mp h
  have hfits := (length_encode_le (List.prefix_append last more)).trans hshort
  have hlocate : t.locate path = .ok (folder ++ [last]) :=
    (locate_eq_ok_iff hu hlast hc hpath).mpr ⟨folder, hwalk, hfits, rfl⟩
  rw [hlocate, ← (locate_eq_ok hlocate).1]

/-- Moving a file that can be read to a place that can be reached fails only if a folder lies
there. -/
theorem find?_of_move_error {e : FileError} (hread : t.read path = .ok bytes) {goal : Place}
    (hgoal : t.locate target = .ok goal) (h : t.move path target = .error e) :
    t.find? goal = some .folder := by
  have hlook := read_eq_ok_iff.mp hread
  rw [move, (exists_of_read hread).1, hlook, hgoal] at h
  dsimp only at h
  split at h
  · assumption
  · cases h

def fileAt? (t : Tree) (place : Place) : Option Bytes :=
  match t.find? place with
  | some (.file bytes) => some bytes
  | _ => none

theorem fileAt?_eq_some_iff {place : Place} :
    t.fileAt? place = some bytes ↔ t.find? place = some (.file bytes) := by
  unfold fileAt?
  split <;> simp_all

theorem fileAt?_eq_of_iff {next : Tree} {place : Place}
    (h : ∀ bytes, next.find? place = some (.file bytes) ↔ t.find? place = some (.file bytes)) :
    next.fileAt? place = t.fileAt? place :=
  Option.ext fun bytes => by rw [fileAt?_eq_some_iff, fileAt?_eq_some_iff, h bytes]

end Tree

end Files

namespace Snapshot.Cache

open Files

variable {c : Cache} {network : Web.Network} {t : Tree} {v : Text} {body : Bytes}

/-! What a call leaves. -/

/-- A body is written in full, but a folder lies where it is to be moved. -/
def Sticks (c : Cache) (t : Tree) (v : Text) (body : Bytes) (written : Tree) : Prop :=
  ∃ made, t.makeFolders c.folder = (made, none) ∧ made.write (c.partPath v) body = .ok written ∧
    written.find? (placeOf (c.path v)) = some .folder

def Stranded (c : Cache) (network : Web.Network) (t : Tree) (v : Text) (body : Bytes) : Prop :=
  ∃ a written, address c.pattern v = .ok a ∧ (Web.download network a).outcome = .ok body ∧
    c.Sticks t v body written

theorem locate_path_of_write {made written : Tree}
    (h : made.write (c.partPath v) body = .ok written) :
    written.locate (c.path v) = .ok (placeOf (c.path v)) := by
  have hlocate := Tree.locate_of_folders (Tree.altered_of_write [] h).folders
    (Tree.exists_of_write h).1
  exact Tree.locate_of_append (d := 't') (getLast?_path c v) (by decide) (by decide) (by decide)
    (by decide) hlocate

/-- A snapshot that cannot be kept sticks, or no file is written at all. -/
theorem keep_cases_of_error {e : FileError} (h : (c.keep t (c.path v) body).2 = some e) :
    c.Sticks t v body (c.keep t (c.path v) body).1 ∨
      ((∀ written, ¬ c.Sticks t v body written) ∧
        Gained c.folder t (c.keep t (c.path v) body).1) := by
  have hgained := Tree.gained_makeFolders c.folder t
  unfold keep at h ⊢
  dsimp only at h ⊢
  split at h
  · rename_i made e hmade
    rw [hmade] at hgained
    refine .inr ⟨?_, hgained⟩
    rintro written ⟨made', hmade', -⟩
    simp [hmade] at hmade'
  · rename_i made hmade
    rw [hmade] at hgained
    split at h
    · rename_i e hwrite
      refine .inr ⟨?_, hgained⟩
      rintro written ⟨made', hmade', hwrite', -⟩
      obtain ⟨rfl, -⟩ := Prod.mk.inj (hmade.symm.trans hmade')
      rw [partPath, hwrite] at hwrite'
      cases hwrite'
    · rename_i written hwrite
      split at h
      · rename_i e hmove
        -- What was just written is read, and the path without its end is reached, so that only a
        -- folder is left as the reason.
        refine .inl ⟨made, hmade, hwrite, ?_⟩
        exact Tree.find?_of_move_error (Tree.read_of_write hwrite) (locate_path_of_write hwrite)
          hmove
      · cases h

theorem Sticks.fileAt?_part {written : Tree} (h : c.Sticks t v body written) :
    written.fileAt? (placeOf (c.partPath v)) = some body := by
  obtain ⟨made, -, hwrite, -⟩ := h
  exact Tree.fileAt?_eq_some_iff.mpr (Tree.exists_of_read (Tree.read_of_write hwrite)).2.1

theorem Sticks.fileAt?_of_ne {written : Tree} (h : c.Sticks t v body written) {q : Place}
    (hq : q ≠ placeOf (c.partPath v)) : written.fileAt? q = t.fileAt? q := by
  obtain ⟨made, hmade, hwrite, -⟩ := h
  have hgained := Tree.gained_makeFolders c.folder t
  rw [hmade] at hgained
  refine Tree.fileAt?_eq_of_iff fun bytes => ?_
  rw [Tree.find?_of_write hwrite hq]
  exact hgained.files

theorem Stranded.unique {other : Bytes} (h : c.Stranded network t v body)
    (hother : c.Stranded network t v other) : other = body := by
  obtain ⟨a, -, haddress, hdownload, -⟩ := h
  obtain ⟨a', -, haddress', hdownload', -⟩ := hother
  obtain rfl := Except.ok.inj (haddress.symm.trans haddress')
  exact Except.ok.inj (hdownload'.symm.trans hdownload)

theorem failed_cases {e : FetchError} (h : (c.fetch network t v).outcome = .error e) :
    (∃ body, c.Stranded network t v body ∧ c.Sticks t v body (c.fetch network t v).files) ∨
      ((∀ body, ¬ c.Stranded network t v body) ∧
        Gained c.folder t (c.fetch network t v).files) := by
  unfold fetch at h ⊢
  dsimp only at h ⊢
  split at h
  · cases h
  · rename_i hmissing
    rw [if_neg hmissing]
    split at h
    · rename_i e haddress
      refine .inr ⟨?_, .refl _ t⟩
      rintro body ⟨a, -, haddress', -⟩
      rw [haddress] at haddress'
      cases haddress'
    · rename_i a haddress
      split at h
      · rename_i e hdownload
        refine .inr ⟨?_, .refl _ t⟩
        rintro body ⟨a', -, haddress', hdownload', -⟩
        obtain rfl := Except.ok.inj (haddress.symm.trans haddress')
        rw [hdownload] at hdownload'
        cases hdownload'
      · rename_i body hdownload
        split at h
        · rename_i files e hkeep
          have hcases := c.keep_cases_of_error (congrArg Prod.snd hkeep)
          rw [hkeep] at hcases
          rcases hcases with hsticks | ⟨hfree, hgained⟩
          · exact .inl ⟨body, ⟨a, files, haddress, hdownload, hsticks⟩, hsticks⟩
          · refine .inr ⟨?_, hgained⟩
            rintro other ⟨a', written, haddress', hdownload', hsticks⟩
            obtain rfl := Except.ok.inj (haddress.symm.trans haddress')
            obtain rfl := Except.ok.inj (hdownload.symm.trans hdownload')
            exact hfree written hsticks
        · cases h

/-- A fetch that fails changes no file but the unfinished one, and that one only if the downloaded
body sticks there. It does so only if a folder lies at the place of the snapshot. -/
theorem files_of_failed_fetch {e : FetchError} (h : (c.fetch network t v).outcome = .error e) :
    let files := (c.fetch network t v).files
    (∀ q, q ≠ placeOf (c.partPath v) → files.fileAt? q = t.fileAt? q) ∧
      (∀ body, c.Stranded network t v body →
        files.fileAt? (placeOf (c.partPath v)) = some body) ∧
      ((∀ body, ¬ c.Stranded network t v body) → ∀ q, files.fileAt? q = t.fileAt? q) ∧
      (files.find? (placeOf (c.path v)) ≠ some .folder → ∀ q, files.fileAt? q = t.fileAt? q) := by
  intro files
  rcases failed_cases h with ⟨body, hstranded, hsticks⟩ | ⟨hfree, hgained⟩
  · refine ⟨fun q hq => hsticks.fileAt?_of_ne hq, ?_, ?_, ?_⟩
    · intro other hother
      rw [hstranded.unique hother]
      exact hsticks.fileAt?_part
    · exact fun hnone => absurd hstranded (hnone body)
    · obtain ⟨made, -, -, hfolder⟩ := hsticks
      exact fun hfree => absurd hfolder hfree
  · have hsame : ∀ q, files.fileAt? q = t.fileAt? q := fun q =>
      Tree.fileAt?_eq_of_iff fun bytes => hgained.files
    exact ⟨fun q _ => hsame q, fun body hbody => absurd hbody (hfree body), fun _ => hsame,
      fun _ => hsame⟩

def blocked : Tree :=
  ⟨[(["cache".toList], .folder), (["cache".toList, "schemas-1.jsonld".toList], .folder)]⟩

theorem files_of_failed_fetch_blocked :
    let c : Cache := { folder := "cache".toList, pattern := "http://x/y".toList }
    let network : Web.Network := fun _ => .answer 200 [110, 101, 119] none
    let f := c.fetch network blocked "1".toList
    f.outcome = .error (keepError (c.path "1".toList)
        ⟨.isFolder, c.partPath "1".toList, c.path "1".toList⟩) ∧
      c.Stranded network blocked "1".toList [110, 101, 119] ∧
      f.files.fileAt? (placeOf (c.partPath "1".toList)) = some [110, 101, 119] ∧
      ∀ q, q ≠ placeOf (c.partPath "1".toList) → f.files.fileAt? q = blocked.fileAt? q := by
  intro c network f
  have hfailed : f.outcome = .error (keepError (c.path "1".toList)
      ⟨.isFolder, c.partPath "1".toList, c.path "1".toList⟩) := by decide +kernel
  have hstranded : c.Stranded network blocked "1".toList [110, 101, 119] :=
    ⟨"http://x/y".toList, f.files, by decide +kernel,
      by decide +kernel, blocked, by decide +kernel, by decide +kernel, by decide +kernel⟩
  obtain ⟨hothers, hpart, -⟩ := files_of_failed_fetch hfailed
  exact ⟨hfailed, hstranded, hpart _ hstranded, hothers⟩

/-- A call that reports that the snapshot is unavailable can leave a new file. -/
theorem exists_unfinished_left :
    ∃ (c : Cache) (network : Web.Network) (t : Tree) (v : Text) (u : Unavailable) (body : Bytes),
      (c.fetch network t v).outcome = .error (.unavailable u) ∧
        t.find? (placeOf (c.partPath v)) = none ∧
        (c.fetch network t v).files.find? (placeOf (c.partPath v)) = some (.file body) :=
  ⟨{ folder := "cache".toList, pattern := "http://x/y".toList },
    fun _ => .answer 200 [110, 101, 119] none, blocked, "1".toList,
    ⟨"cache/schemas-1.jsonld".toList, .settled ("[Errno 21] Is a directory: ".toList ++
      "'cache/schemas-1.jsonld.part' -> 'cache/schemas-1.jsonld'".toList)⟩, [110, 101, 119],
    by decide +kernel, by decide +kernel, by decide +kernel⟩

end Snapshot.Cache

end VocabBindings
