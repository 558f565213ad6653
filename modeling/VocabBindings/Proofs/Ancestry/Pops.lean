import Mathlib.Data.List.ReduceOption
import VocabBindings.Proofs.Ancestry.Requests

/-!
The loops of both walks, pop by pop. A pop takes the name on top of the stack. It skips the name, or
it visits it: the name is visited from then on, and its parents go on the stack. No name is visited
twice, and a name is on the stack as the name that the walk starts from or as a parent of a visited
class; so a loop that ends with an empty stack has popped the first name and every parent of every
visited class once.
-/

set_option autoImplicit false

namespace VocabBindings

/-- A loop by its pops: the name that a pop visits, unless it skips it, and the state after the pop.
Where nothing is popped, the loop has ended. -/
abbrev StackLoop (State : Type) := State → Option (Option Text × State)

namespace StackLoop

variable {State : Type} {loop : StackLoop State} {s next last : State}
  {pops more : List (Option Text)}

/-- Some pops of a loop, one after the other, and the states before and after them. -/
inductive Run (loop : StackLoop State) : State → List (Option Text) → State → Prop where
  | nil (s : State) : Run loop s [] s
  | cons {s next last : State} {visit : Option Text} {rest : List (Option Text)}
      (hpop : loop s = some (visit, next)) (hrest : Run loop next rest last) :
      Run loop s (visit :: rest) last

/-- A state from which a loop ends: all its pops, and the state where nothing is popped any more.
Every other run from there is the beginning of this one. -/
structure Ends (loop : StackLoop State) (s : State) (pops : List (Option Text)) (last : State) :
    Prop where
  run : loop.Run s pops last
  ended : loop last = none
  longest : ∀ more next, loop.Run s more next → more <+: pops

theorem Run.lead_of_ended (h : loop.Run s pops last) (hended : loop last = none)
    (hmore : loop.Run s more next) : more <+: pops := by
  induction h generalizing more with
  | nil s =>
    cases hmore with
    | nil => exact List.prefix_rfl
    | cons hpop => simp [hended] at hpop
  | cons hpop _ ih =>
    cases hmore with
    | nil => exact List.nil_prefix
    | cons hother hrest =>
      -- The state before a pop settles what is popped.
      rw [hpop] at hother
      obtain ⟨⟩ := hother
      exact (List.prefix_cons_inj _).mpr (ih hended hrest)

theorem Run.ends (h : loop.Run s pops last) (hended : loop last = none) : loop.Ends s pops last :=
  ⟨h, hended, fun _ _ hmore => h.lead_of_ended hended hmore⟩

end StackLoop

namespace Index

variable {State : Type} {index : Index} {loop : StackLoop State} {visited : State → List Text}
  {height : State → Nat} {s last : State} {pops : List (Option Text)}

def parentCount (index : Index) : List Text → Nat
  | [] => 0
  | name :: rest => (index.parentsOf name).length + index.parentCount rest

@[simp] theorem parentCount_nil (index : Index) : index.parentCount [] = 0 := rfl

@[simp] theorem parentCount_cons (index : Index) (name : Text) (rest : List Text) :
    index.parentCount (name :: rest) = (index.parentsOf name).length + index.parentCount rest :=
  rfl

/-- What every pop of a walk does, seen from the names that were visited and from the height of the
stack. -/
structure IsWalk (index : Index) (loop : StackLoop State) (visited : State → List Text)
    (height : State → Nat) : Prop where
  skip : ∀ s next, loop s = some (none, next) →
    visited next = visited s ∧ height next + 1 = height s
  visit : ∀ s name next, loop s = some (some name, next) →
    name ∉ visited s ∧ visited next = visited s ++ [name] ∧
      height next + 1 = height s + (index.parentsOf name).length

namespace IsWalk

theorem visited_of_run (h : index.IsWalk loop visited height) (hrun : loop.Run s pops last) :
    visited last = visited s ++ pops.reduceOption ∧ pops.reduceOption.Nodup ∧
      ∀ name ∈ pops.reduceOption, name ∉ visited s := by
  induction hrun with
  | nil s => simp
  | @cons s next last visit rest hpop _ ih =>
    obtain ⟨hvisited, hnodup, hfresh⟩ := ih
    cases visit with
    | none =>
      obtain ⟨hsame, -⟩ := h.skip s next hpop
      rw [hsame] at hvisited hfresh
      exact ⟨hvisited, hnodup, hfresh⟩
    | some name =>
      obtain ⟨hname, hnext, -⟩ := h.visit s name next hpop
      rw [hnext] at hvisited hfresh
      simp only [List.mem_append, List.mem_singleton, not_or] at hfresh
      simp only [List.reduceOption_cons_of_some, List.nodup_cons, List.forall_mem_cons]
      exact ⟨by rw [hvisited, List.append_assoc, List.singleton_append],
        ⟨fun hm => (hfresh name hm).2 rfl, hnodup⟩, hname, fun x hx => (hfresh x hx).1⟩

/-- What was on the stack and what was put there has been popped or is still there. -/
theorem length_of_run (h : index.IsWalk loop visited height) (hrun : loop.Run s pops last) :
    pops.length + height last = height s + index.parentCount pops.reduceOption := by
  induction hrun with
  | nil s => simp
  | @cons s next last visit rest hpop _ ih =>
    cases visit with
    | none =>
      obtain ⟨-, hheight⟩ := h.skip s next hpop
      rw [List.length_cons, List.reduceOption_cons_of_none]
      omega
    | some name =>
      obtain ⟨-, -, hheight⟩ := h.visit s name next hpop
      rw [List.length_cons, List.reduceOption_cons_of_some, parentCount_cons]
      omega

end IsWalk

/-! The walk for the required classes. -/

/-- The walk for the required classes between two pops: the names that were visited, the stack with
its top first, and the missing class that has broken the walk off. -/
structure Walk where
  visited : List Text
  stack : List (Text × Option Text)
  missing : Option MissingSchema := none

/-- A pop of the walk for the required classes. A class that the index does not hold is visited and
breaks the walk off. -/
def popRequired (index : Index) : StackLoop Walk
  | ⟨visited, (name, requestedBy) :: stack, none⟩ =>
    if name = [] ∨ name ∈ visited then some (none, ⟨visited, stack, none⟩)
    else
      match index.get? name with
      | none => some (some name, ⟨visited ++ [name], stack, some ⟨name, requestedBy⟩⟩)
      | some e =>
        some (some name, ⟨visited ++ [name], e.parents.map (·, some name) ++ stack, none⟩)
  | _ => none

theorem popRequired_eq_none_iff {w : Walk} :
    index.popRequired w = none ↔ w.stack = [] ∨ w.missing ≠ none := by
  rcases w with ⟨visited, _ | ⟨⟨name, requestedBy⟩, stack⟩, _ | missing⟩
  · simp [popRequired]
  · simp [popRequired]
  · simp only [popRequired]
    split
    · simp
    · split <;> simp
  · simp [popRequired]

theorem isWalk_popRequired (index : Index) :
    index.IsWalk index.popRequired Walk.visited fun w => w.stack.length := by
  constructor
  · intro w next h
    unfold popRequired at h
    split at h
    · split at h
      · obtain ⟨⟩ := h
        exact ⟨rfl, rfl⟩
      · split at h <;> cases h
    · cases h
  · intro w name next h
    unfold popRequired at h
    split at h
    · split at h
      · cases h
      · rename_i hnew
        split at h
        · rename_i hnone
          obtain ⟨⟩ := h
          exact ⟨fun hm => hnew (.inr hm), rfl, by simp [parentsOf_of_none hnone]⟩
        · rename_i e he
          obtain ⟨⟩ := h
          refine ⟨fun hm => hnew (.inr hm), rfl, ?_⟩
          simp only [List.length_append, List.length_map, List.length_cons, parentsOf_eq he]
          omega
    · cases h

/-- From everywhere a run leads to where the walk ends, and the answer is what was visited then. -/
theorem exists_run_popRequired (index : Index) (visited : List Text)
    (stack : List (Text × Option Text)) :
    ∃ pops last, index.popRequired.Run ⟨visited, stack, none⟩ pops last ∧
      index.popRequired last = none ∧ index.visit visited stack = (last.visited, last.missing) := by
  -- A visit makes the stack longer; the induction is on the entries that are left to visit, and
  -- only where these stay the same on the stack.
  fun_induction visit index visited stack with
  | case1 visited => exact ⟨[], _, .nil _, rfl, rfl⟩
  | case2 visited name requestedBy stack hskip ih =>
    obtain ⟨pops, last, hrun, hended, hvisit⟩ := ih
    refine ⟨none :: pops, last, .cons ?_ hrun, hended, hvisit⟩
    simp only [popRequired, if_pos hskip]
  | case3 visited name requestedBy stack hnew hnone =>
    refine ⟨[some name], ⟨visited ++ [name], stack, some ⟨name, requestedBy⟩⟩, .cons ?_ (.nil _),
      popRequired_eq_none_iff.mpr (.inr (by simp)), rfl⟩
    simp only [popRequired, if_neg hnew, hnone]
  | case4 visited name requestedBy stack hnew e he ih =>
    obtain ⟨pops, last, hrun, hended, hvisit⟩ := ih
    refine ⟨some name :: pops, last, .cons ?_ hrun, hended, hvisit⟩
    simp only [popRequired, if_neg hnew, he]

/-! The walk for a lineage. -/

structure Climb where
  found : List Text
  stack : List Text

def popLineage (index : Index) : StackLoop Climb
  | ⟨_, []⟩ => none
  | ⟨found, name :: stack⟩ =>
    if name = [] ∨ name ∈ found then some (none, ⟨found, stack⟩)
    else some (some name, ⟨found ++ [name], index.parentsOf name ++ stack⟩)

theorem popLineage_eq_none_iff {climb : Climb} :
    index.popLineage climb = none ↔ climb.stack = [] := by
  rcases climb with ⟨found, _ | ⟨name, stack⟩⟩
  · simp [popLineage]
  · simp only [popLineage]
    split <;> simp

theorem isWalk_popLineage (index : Index) :
    index.IsWalk index.popLineage Climb.found fun climb => climb.stack.length := by
  constructor
  · intro climb next h
    unfold popLineage at h
    split at h
    · cases h
    · split at h
      · obtain ⟨⟩ := h
        exact ⟨rfl, rfl⟩
      · cases h
  · intro climb name next h
    unfold popLineage at h
    split at h
    · cases h
    · split at h
      · cases h
      · rename_i hnew
        obtain ⟨⟩ := h
        refine ⟨fun hm => hnew (.inr hm), rfl, ?_⟩
        simp only [List.length_append, List.length_cons]
        omega

theorem exists_run_popLineage (index : Index) (found stack : List Text) :
    ∃ pops last, index.popLineage.Run ⟨found, stack⟩ pops last ∧
      index.popLineage last = none ∧ index.extendLineage found stack = last.found := by
  fun_induction extendLineage index found stack with
  | case1 found => exact ⟨[], _, .nil _, rfl, rfl⟩
  | case2 found name stack hskip ih =>
    obtain ⟨pops, last, hrun, hended, hfound⟩ := ih
    refine ⟨none :: pops, last, .cons ?_ hrun, hended, hfound⟩
    rw [popLineage, if_pos hskip]
  | case3 found name stack hnew hnone ih =>
    obtain ⟨pops, last, hrun, hended, hfound⟩ := ih
    refine ⟨some name :: pops, last, .cons ?_ hrun, hended, hfound⟩
    rw [popLineage, if_neg hnew, parentsOf_of_none hnone, List.nil_append]
  | case4 found name stack hnew e he ih =>
    obtain ⟨pops, last, hrun, hended, hfound⟩ := ih
    refine ⟨some name :: pops, last, .cons ?_ hrun, hended, hfound⟩
    rw [popLineage, if_neg hnew, parentsOf_eq he]

end Index

namespace Context

/-- Both walks end, whatever the index and whatever is required already. A request visits the
classes that it adds, none of them twice and none that was required. Its pops are its name and the
parents of these classes; if it fails, some of them are left on the stack, and otherwise none. A
lineage visits each of its classes once, held by the index or not, and pops the first name and all
their parents. -/
theorem walks_end (c : Context) (name : Text) :
    (∃ pops last, c.index.popRequired.Ends ⟨c.required, [(name, none)], none⟩ pops last ∧
      c.require name = ({ c with required := c.required ++ pops.reduceOption }, last.missing) ∧
      pops.reduceOption.Nodup ∧ (∀ x ∈ pops.reduceOption, x ∉ c.required) ∧
      pops.length + last.stack.length = 1 + c.index.parentCount pops.reduceOption ∧
      (last.missing = none → last.stack = [])) ∧
    ∃ pops last, c.index.popLineage.Ends ⟨[], [name]⟩ pops last ∧
      c.index.lineage name = pops.reduceOption ∧ pops.reduceOption.Nodup ∧
      pops.length = 1 + c.index.parentCount pops.reduceOption := by
  constructor
  · obtain ⟨pops, last, hrun, hended, hvisit⟩ :=
      c.index.exists_run_popRequired c.required [(name, none)]
    have hwalk := c.index.isWalk_popRequired
    obtain ⟨hvisited, hnodup, hfresh⟩ := hwalk.visited_of_run hrun
    have hleft : last.missing = none → last.stack = [] := fun hmissing =>
      (Index.popRequired_eq_none_iff.mp hended).resolve_right (not_not_intro hmissing)
    refine ⟨pops, last, hrun.ends hended, ?_, hnodup, hfresh, hwalk.length_of_run hrun, hleft⟩
    rw [require, hvisit, hvisited]
  · obtain ⟨pops, last, hrun, hended, hfound⟩ := c.index.exists_run_popLineage [] [name]
    have hwalk := c.index.isWalk_popLineage
    obtain ⟨hvisited, hnodup, -⟩ := hwalk.visited_of_run hrun
    have hlength := hwalk.length_of_run hrun
    rw [Index.popLineage_eq_none_iff.mp hended] at hlength
    refine ⟨pops, last, hrun.ends hended, ?_, hnodup, hlength⟩
    rw [Index.lineage, hfound, hvisited, List.nil_append]

theorem walks_end_diamond :
    let c : Context := { index := diamond, required := ["Right".toList] }
    (∃ pops last, diamond.popRequired.Ends ⟨c.required, [("Both".toList, none)], none⟩ pops last ∧
      last.missing = none ∧ pops.reduceOption = ["Both", "Left", "Thing"].map String.toList ∧
      pops.length = 7) ∧
    ∃ pops last, diamond.popLineage.Ends ⟨[], ["Both".toList]⟩ pops last ∧
      pops.reduceOption = ["Both", "Left", "Thing", "Right"].map String.toList ∧
      pops.length = 9 := by
  intro c
  have hrequire : c.require "Both".toList =
      ({ c with required := ["Right", "Both", "Left", "Thing"].map String.toList }, none) := by
    cbv
  have hlineage : diamond.lineage "Both".toList =
      ["Both", "Left", "Thing", "Right"].map String.toList := by
    cbv
  obtain ⟨⟨pops, last, hends, hadded, -, -, hpops, hleft⟩, hlineages⟩ := walks_end c "Both".toList
  obtain ⟨climbs, top, hclimb, hfound, -, hclimbs⟩ := hlineages
  rw [hrequire, Prod.mk.injEq] at hadded
  have hmissing : last.missing = none := hadded.2.symm
  have hrequired : ["Right".toList] ++ ["Both", "Left", "Thing"].map String.toList =
      ["Right".toList] ++ pops.reduceOption :=
    congrArg Context.required hadded.1
  have hvisited : pops.reduceOption = ["Both", "Left", "Thing"].map String.toList :=
    (List.append_cancel_left hrequired).symm
  have hlist : climbs.reduceOption = ["Both", "Left", "Thing", "Right"].map String.toList :=
    hfound.symm.trans hlineage
  rw [hleft hmissing, hvisited] at hpops
  rw [hlist] at hclimbs
  exact ⟨⟨pops, last, hends, hmissing, hvisited, hpops.trans (by decide)⟩,
    climbs, top, hclimb, hlist, hclimbs.trans (by decide)⟩

end Context

end VocabBindings
