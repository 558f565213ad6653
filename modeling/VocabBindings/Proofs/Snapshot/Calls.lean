import VocabBindings.Proofs.Snapshot.Cache

/-!
Calls of a cache one after another, while the replies of the network may change from one call to the
next. One call keeps every snapshot that is there; so a snapshot that a call brought stays what it
was, and later calls find it without a request.
-/

set_option autoImplicit false

namespace VocabBindings.Snapshot

open Files

structure Call where
  network : Web.Network
  version : Text

namespace Cache

variable {c : Cache} {t : Tree} {v w : Text} {bytes : Bytes}

def filesAfter (c : Cache) (t : Tree) (calls : List Call) : Tree :=
  calls.foldl (fun t call => (c.fetch call.network t call.version).files) t

/-- What a call answers, and what it does to the files before it. -/
structure Served (c : Cache) (call : Call) (t : Tree) (f : Fetched) : Prop where
  answer : ∀ path, f.outcome = .ok path →
    path = c.path call.version ∧ f.files.hasFile path = true
  cached : t.hasFile (c.path call.version) = true →
    f.outcome = .ok (c.path call.version) ∧ f.requests = [] ∧ f.files = t
  downloaded : t.hasFile (c.path call.version) = false → ∀ path, f.outcome = .ok path →
    ∃ body, Web.Delivered call.network f.requests body ∧ f.files.read path = .ok body
  refused : t.hasFile (c.path call.version) = false → ∀ a e,
    address c.pattern call.version = .ok a → (Web.download call.network a).outcome = .error e →
    f.outcome = .error (downloadError a e) ∧ f.files = t
  others : ∀ w bytes, '/' ∉ w → w ≠ call.version →
    (f.files.find? (placeOf (c.path w)) = some (.file bytes) ↔
      t.find? (placeOf (c.path w)) = some (.file bytes))
  failed : ∀ e, f.outcome = .error e → ∀ w bytes,
    (f.files.find? (placeOf (c.path w)) = some (.file bytes) ↔
      t.find? (placeOf (c.path w)) = some (.file bytes))
  whole : ∀ w bytes, f.files.find? (placeOf (c.path w)) = some (.file bytes) →
    t.find? (placeOf (c.path w)) = some (.file bytes) ∨
      (f.outcome = .ok (c.path call.version) ∧ Web.Delivered call.network f.requests bytes)

theorem exists_of_fetch_ok {network : Web.Network} {path : Text}
    (h : (c.fetch network t v).outcome = .ok path) :
    path = c.path v ∧
      ((t.hasFile (c.path v) = true ∧ (c.fetch network t v).files = t) ∨
        (t.hasFile (c.path v) = false ∧ ∃ body,
          Web.Delivered network (c.fetch network t v).requests body ∧
            (c.fetch network t v).files.read (c.path v) = .ok body)) := by
  cases c.fetches_fetch network t v with
  | found hfile houtcome hfiles =>
    rw [houtcome] at h
    exact ⟨(Except.ok.inj h).symm, .inl ⟨hfile, hfiles⟩⟩
  | badPattern _ _ _ herror => simp [herror] at h
  | undelivered _ _ _ _ _ herror => simp [herror] at h
  | unkept _ _ _ _ _ _ herror => simp [herror] at h
  | kept hmissing _ body _ _ houtcome hdelivered hread =>
    rw [houtcome] at h
    exact ⟨(Except.ok.inj h).symm, .inr ⟨hmissing, body, hdelivered, hread⟩⟩

theorem file_iff_of_failed (hv : '/' ∉ v) {network : Web.Network} {e : FetchError}
    (h : (c.fetch network t v).outcome = .error e) (w : Text) :
    (c.fetch network t v).files.find? (placeOf (c.path w)) = some (.file bytes) ↔
      t.find? (placeOf (c.path w)) = some (.file bytes) := by
  cases c.fetches_fetch network t v with
  | found _ houtcome => simp [houtcome] at h
  | badPattern _ _ _ _ hfiles => rw [hfiles]
  | undelivered _ _ _ _ _ _ hfiles => rw [hfiles]
  | unkept _ _ _ _ _ _ _ hfiles =>
    exact hfiles.file_iff (by simp [placeOf_path_ne_placeOf_partPath c w hv])
  | kept _ _ _ _ _ houtcome => simp [houtcome] at h

theorem file_iff_of_place_ne (hv : '/' ∉ v) (hw : placeOf (c.path w) ≠ placeOf (c.path v))
    (network : Web.Network) :
    (c.fetch network t v).files.find? (placeOf (c.path w)) = some (.file bytes) ↔
      t.find? (placeOf (c.path w)) = some (.file bytes) := by
  refine (c.altered_fetch network t v).file_iff ?_
  simp [placeOf_path_ne_placeOf_partPath c w hv, hw]

/-- No part of a body is left anywhere: what lies at the place of a snapshot was there, or it is the
body that this fetch was answered with. -/
theorem whole_of_fetch (hv : '/' ∉ v) {network : Web.Network}
    (h : (c.fetch network t v).files.find? (placeOf (c.path w)) = some (.file bytes)) :
    t.find? (placeOf (c.path w)) = some (.file bytes) ∨
      ((c.fetch network t v).outcome = .ok (c.path v) ∧
        Web.Delivered network (c.fetch network t v).requests bytes) := by
  cases houtcome : (c.fetch network t v).outcome with
  | error e => exact .inl ((file_iff_of_failed hv houtcome w).mp h)
  | ok path =>
    obtain ⟨rfl, ⟨-, hfiles⟩ | ⟨-, body, hdelivered, hread⟩⟩ := exists_of_fetch_ok houtcome
    · exact .inl (hfiles ▸ h)
    · by_cases hplace : placeOf (c.path w) = placeOf (c.path v)
      · have hfile := (Tree.exists_of_read hread).2.1
        rw [hplace, hfile] at h
        obtain ⟨⟩ := h
        exact .inr ⟨rfl, hdelivered⟩
      · exact .inl ((file_iff_of_place_ne hv hplace network).mp h)

theorem served_fetch (c : Cache) (t : Tree) (call : Call) (hcall : '/' ∉ call.version) :
    Served c call t (c.fetch call.network t call.version) where
  answer path h := by
    obtain ⟨rfl, ⟨hfile, hfiles⟩ | ⟨-, body, -, hread⟩⟩ := exists_of_fetch_ok h
    · exact ⟨rfl, by rw [hfiles, hfile]⟩
    · exact ⟨rfl, Tree.hasFile_iff.mpr ⟨body, hread⟩⟩
  cached hfile := by
    unfold fetch
    simp [hfile]
  downloaded hmissing path h := by
    obtain ⟨rfl, ⟨hfile, -⟩ | ⟨-, hbody⟩⟩ := exists_of_fetch_ok h
    · simp [hmissing] at hfile
    · exact hbody
  refused hmissing a e haddress hdownload := by
    unfold fetch
    simp [hmissing, haddress, hdownload]
  others w bytes hw hne :=
    file_iff_of_place_ne hcall (by simp [placeOf_path_inj c hw hcall, hne]) call.network
  failed e h w bytes := file_iff_of_failed hcall h w
  whole w bytes h := whole_of_fetch hcall h

theorem read_fetch (hv : '/' ∉ v) (hw : '/' ∉ w) (h : t.read (c.path w) = .ok bytes)
    (network : Web.Network) : (c.fetch network t v).files.read (c.path w) = .ok bytes := by
  by_cases hsame : w = v
  · subst hsame
    have hfile := Tree.hasFile_iff.mpr ⟨bytes, h⟩
    rw [((served_fetch c t ⟨network, w⟩ hw).cached hfile).2.2, h]
  · refine (c.altered_fetch network t v).read ?_ h
    simp [placeOf_path_ne_placeOf_partPath c w hv, placeOf_path_inj c hw hv, hsame]

theorem read_filesAfter {calls : List Call} (hcalls : ∀ call ∈ calls, '/' ∉ call.version)
    (hw : '/' ∉ w) (h : t.read (c.path w) = .ok bytes) :
    (c.filesAfter t calls).read (c.path w) = .ok bytes := by
  induction calls generalizing t with
  | nil => exact h
  | cons call rest ih =>
    have hstep := read_fetch (hcalls call List.mem_cons_self) hw h call.network
    exact ih (fun next hnext => hcalls next (List.mem_cons_of_mem _ hnext)) hstep

theorem filesAfter_append (c : Cache) (t : Tree) (calls more : List Call) :
    c.filesAfter t (calls ++ more) = c.filesAfter (c.filesAfter t calls) more :=
  List.foldl_append

/-- Every call among others is served. Once one has returned, every later call of its version
returns the same path with the same bytes behind it, and requests nothing. -/
theorem served_among_calls (c : Cache) (t : Tree) {before after : List Call} {call : Call}
    (hversions : ∀ other ∈ before ++ call :: after, '/' ∉ other.version) :
    let fetched := c.fetch call.network (c.filesAfter t before) call.version
    Served c call (c.filesAfter t before) fetched ∧
      ∀ path, fetched.outcome = .ok path → ∀ between later rest,
        after = between ++ later :: rest → later.version = call.version →
        let found := c.filesAfter t (before ++ call :: between)
        let again := c.fetch later.network found later.version
        again.outcome = .ok path ∧ again.requests = [] ∧ again.files = found ∧
          found.read path = fetched.files.read path := by
  intro fetched
  have hcall : '/' ∉ call.version := hversions call (by simp)
  have hserved : Served c call (c.filesAfter t before) fetched := served_fetch c _ call hcall
  refine ⟨hserved, ?_⟩
  intro path hpath between later rest hafter hversion found again
  obtain ⟨rfl, hfile⟩ := hserved.answer path hpath
  obtain ⟨bytes, hread⟩ := Tree.hasFile_iff.mp hfile
  have hfound : found.read (c.path call.version) = .ok bytes := by
    have hlater : found = c.filesAfter fetched.files between := c.filesAfter_append t before _
    rw [hlater]
    exact read_filesAfter (fun other hother => hversions other (by simp [hafter, hother])) hcall
      hread
  have hlater := served_fetch c found later (hversion ▸ hcall)
  rw [← hversion] at hfound hread ⊢
  obtain ⟨houtcome, hrequests, hfiles⟩ := hlater.cached (Tree.hasFile_iff.mpr ⟨bytes, hfound⟩)
  exact ⟨houtcome, hrequests, hfiles, by rw [hfound, hread]⟩

def unreachedCall (version : Text) : Call := ⟨fun _ => .failure "offline".toList, version⟩

def answeredCall (version : Text) (body : Bytes) : Call := ⟨fun _ => .answer 200 body none, version⟩

theorem served_among_calls_changing_replies :
    let c : Cache := { folder := "cache".toList }
    let before := [unreachedCall "29.0".toList]
    let call := answeredCall "29.0".toList [123, 125]
    let between := [answeredCall "latest".toList [91, 93]]
    let later := answeredCall "29.0".toList [110]
    let fetched := c.fetch call.network (c.filesAfter .empty before) call.version
    let found := c.filesAfter .empty (before ++ call :: between)
    let again := c.fetch later.network found later.version
    (∀ other ∈ before ++ call :: (between ++ [later]), '/' ∉ other.version) ∧
      Served c call (c.filesAfter .empty before) fetched ∧
      fetched.outcome = .ok "cache/schemas-29.0.jsonld".toList ∧
      again.outcome = .ok "cache/schemas-29.0.jsonld".toList ∧ again.requests = [] ∧
      again.files.read "cache/schemas-29.0.jsonld".toList = .ok [123, 125] := by
  intro c before call between later fetched found again
  have hversions : ∀ other ∈ before ++ call :: (between ++ [later]), '/' ∉ other.version := by
    decide +kernel
  obtain ⟨hserved, hlater⟩ := served_among_calls c .empty hversions
  have hfetched : fetched.outcome = .ok "cache/schemas-29.0.jsonld".toList := by decide +kernel
  obtain ⟨houtcome, hrequests, hfiles, hread⟩ := hlater _ hfetched between later [] rfl rfl
  have hbytes : fetched.files.read "cache/schemas-29.0.jsonld".toList = .ok [123, 125] := by
    decide +kernel
  exact ⟨hversions, hserved, hfetched, houtcome, hrequests, by rw [hfiles, hread, hbytes]⟩

end Cache

end VocabBindings.Snapshot
