import LexKit.Proofs.Automaton.Deeds
import LexKit.Proofs.Scan.Relabeling
import Mathlib.Logic.Equiv.Basic

/-!
Numbers do not matter to the calls that follow.

If two sessions differ only in the numbers of their states and handles, then a call on the one and
the same call with new handles on the other lead to sessions that differ in the same way.  What is
added takes the next free number in both, so the numbers that are still free must be left alone.
-/

namespace LexKit

variable {κ α : Type}

/-! ### Lists under new places -/

/-- The values of a list at new places, each of them renamed.  Places behind the end of the list
stay as they are. -/
structure Rearranged (places : Equiv.Perm Nat) (rename : α → α) (source target : List α) :
    Prop where
  length_eq : target.length = source.length
  fixed : ∀ place, source.length ≤ place → places place = place
  getElem?_eq : ∀ place, target[places place]? = source[place]?.map rename

namespace Rearranged

variable {places : Equiv.Perm Nat} {rename : α → α} {source target : List α} {place : Nat}

theorem place_lt (rearranged : Rearranged places rename source target)
    (inside : place < source.length) : places place < target.length := by
  have found := rearranged.getElem?_eq place
  rw [List.getElem?_eq_getElem inside] at found
  exact (List.getElem?_eq_some_iff.mp found).1

theorem concat (rearranged : Rearranged places rename source target) (added : α) :
    Rearranged places rename (source ++ [added]) (target ++ [rename added]) where
  length_eq := by simp [rearranged.length_eq]
  fixed := by
    intro place beyond
    rw [List.length_append] at beyond
    exact rearranged.fixed place (Nat.le_of_add_right_le beyond)
  getElem?_eq := by
    intro place
    by_cases inside : place < source.length
    · rw [List.getElem?_append_left (rearranged.place_lt inside),
        List.getElem?_append_left inside]
      exact rearranged.getElem?_eq place
    · have beyond := Nat.le_of_not_lt inside
      rw [rearranged.fixed place beyond, List.getElem?_append_right beyond,
        List.getElem?_append_right (rearranged.length_eq ▸ beyond), rearranged.length_eq]
      cases place - source.length <;> simp

theorem modify (rearranged : Rearranged places rename source target) {change changed : α → α}
    (renamed : ∀ value, rename (change value) = changed (rename value)) (place : Nat) :
    Rearranged places rename (source.modify place change)
      (target.modify (places place) changed) where
  length_eq := by simp [rearranged.length_eq]
  fixed := by simpa using rearranged.fixed
  getElem?_eq := by
    intro other
    rw [List.getElem?_modify, List.getElem?_modify, rearranged.getElem?_eq]
    by_cases same : place = other
    · cases source[other]? <;> simp [same, renamed]
    · cases source[other]? <;> simp [same]

theorem refl_iff : Rearranged (.refl Nat) rename source target ↔ target = source.map rename := by
  constructor
  · intro rearranged
    apply List.ext_getElem?
    intro place
    rw [List.getElem?_map]
    exact rearranged.getElem?_eq place
  · rintro rfl
    exact ⟨by simp, by simp, by simp⟩

/-- A change and its renamed version, before and after all values are renamed. -/
theorem map_modify {change changed : α → α}
    (renamed : ∀ value, rename (change value) = changed (rename value)) (place : Nat) :
    (source.modify place change).map rename = (source.map rename).modify place changed := by
  have same : Rearranged (.refl Nat) rename source (source.map rename) := refl_iff.mpr rfl
  exact (refl_iff.mp (same.modify renamed place)).symm

/-- Two values that are added in the other order exchange their places. -/
theorem exchange (kept : source.map rename = source) (first second : α) :
    Rearranged (Equiv.swap source.length (source.length + 1)) rename
      (source ++ [first, second]) (source ++ [rename second, rename first]) where
  length_eq := by simp
  fixed := by
    intro place beyond
    simp only [List.length_append, List.length_cons, List.length_nil] at beyond
    exact Equiv.swap_apply_of_ne_of_ne (by omega) (by omega)
  getElem?_eq := by
    intro place
    by_cases inside : place < source.length
    · rw [Equiv.swap_apply_of_ne_of_ne (by omega) (by omega), List.getElem?_append_left inside,
        List.getElem?_append_left inside, ← List.getElem?_map, kept]
    · obtain ⟨beyond, rfl⟩ := Nat.exists_eq_add_of_le (Nat.le_of_not_lt inside)
      match beyond with
      | 0 => simp
      | 1 => simp
      | beyond + 2 =>
          rw [Equiv.swap_apply_of_ne_of_ne (by omega) (by omega)]
          simp

end Rearranged

/-! ### New numbers for states -/

/-- New numbers for states, with all kinds as they are. -/
def renumbering (numbers : Equiv.Perm StateId) : Relabeling κ κ :=
  ⟨numbers, id⟩

def Location.renumbered (numbers : Equiv.Perm StateId) (location : Location) : Location :=
  { location with state := numbers location.state }

/-- Two automata that are equal up to the numbers of their states. -/
def Automaton.Renumbered (numbers : Equiv.Perm StateId) (source target : Automaton κ) : Prop :=
  Rearranged numbers (List.map (renumbering numbers).transition) source.states target.states

/-- The same outcome, with a new number for the state of a fault. -/
def Outcome.renumbered (numbers : Equiv.Perm StateId) : Outcome κ → Outcome κ
  | .accepted tokens => .accepted tokens
  | .rejected fault => .rejected { fault with state := numbers fault.state }
  | .divergent => .divergent

namespace Automaton.Renumbered

variable {numbers : Equiv.Perm StateId} {source target : Automaton κ}

theorem state_eq (renumbered : source.Renumbered numbers target) (id : StateId) :
    target.state (numbers id) = (source.state id).map (renumbering numbers).transition := by
  simp only [state, List.getD_eq_getElem?_getD, renumbered.getElem?_eq]
  cases source.states[id]? <;> simp

theorem addState (renumbered : source.Renumbered numbers target) :
    source.addState.Renumbered numbers target.addState :=
  renumbered.concat []

theorem addTransition (renumbered : source.Renumbered numbers target) (id : StateId)
    (charClass : CharClass) :
    (source.addTransition id { on := charClass }).Renumbered numbers
      (target.addTransition (numbers id) { on := charClass }) := by
  apply renumbered.modify
  intro row
  simp [Relabeling.transition]

theorem modifyTransition (renumbered : source.Renumbered numbers target)
    {change changed : Transition κ → Transition κ}
    (renamed : ∀ old, (renumbering numbers).transition (change old) =
      changed ((renumbering numbers).transition old)) (location : Location) :
    (source.modifyTransition location change).Renumbered numbers
      (target.modifyTransition (location.renumbered numbers) changed) := by
  apply renumbered.modify
  intro row
  exact Rearranged.map_modify renamed location.transition

theorem settle (renumbered : source.Renumbered numbers target) (location : Location)
    (disposition : Disposition κ) :
    (source.settle location disposition).Renumbered numbers
      (target.settle (location.renumbered numbers)
        ((renumbering numbers).disposition disposition)) := by
  apply renumbered.modifyTransition
  intro old
  rfl

theorem carries (renumbered : source.Renumbered numbers target)
    (start : numbers StateId.start = StateId.start) :
    (renumbering numbers).Carries source target where
  state_lt := fun _ inside => renumbered.place_lt inside
  start_iff := by
    intro id _
    constructor
    · intro same
      exact numbers.injective (same.trans start.symm)
    · rintro rfl
      exact start
  state_eq := fun id _ => renumbered.state_eq id

theorem tokenize_eq (renumbered : source.Renumbered numbers target)
    (start : numbers StateId.start = StateId.start) (wellFormed : source.WellFormed)
    (text : Text) : target.tokenize text = (source.tokenize text).renumbered numbers := by
  have carries := renumbered.carries start
  have sameBound : target.stepBound text = source.stepBound text :=
    congrArg (· * (text.length + 1)) renumbered.length_eq
  have sameRun := carries.runFor_eq wellFormed (Config.inside_initial wellFormed text)
    (source.stepBound text)
  rw [carries.config_initial wellFormed] at sameRun
  rw [tokenize, tokenize, sameBound, sameRun]
  cases source.runFor (source.stepBound text) (.initial text) with
  | accepted tokens => exact congrArg Outcome.accepted (List.map_id tokens)
  | rejected fault => rfl
  | divergent => rfl

/-- With every number as it was, nothing is changed. -/
theorem refl_iff : source.Renumbered (.refl StateId) target ↔ target = source := by
  have sameDisposition : (renumbering (.refl StateId)).disposition =
      (id : Disposition κ → Disposition κ) := by
    funext old
    cases old <;> rfl
  have sameTransition : (renumbering (.refl StateId)).transition =
      (id : Transition κ → Transition κ) := by
    funext old
    simp [Relabeling.transition, sameDisposition]
  rw [Renumbered, Rearranged.refl_iff, sameTransition, List.map_id_fun, List.map_id]
  exact ⟨congrArg Automaton.mk, congrArg states⟩

end Automaton.Renumbered

/-! ### New handles -/

/-- New numbers for states and new handles. -/
structure Renaming where
  numbers : Equiv.Perm StateId
  states : Equiv.Perm Nat
  transitions : Equiv.Perm Nat

namespace Renaming

variable (names : Renaming)

def unchanged : Renaming :=
  ⟨.refl StateId, .refl Nat, .refl Nat⟩

/-- The same call through the new handles. -/
def call : Call κ → Call κ
  | .on state charClass => .on (names.states state) charClass
  | .ignore handle => .ignore (names.transitions handle)
  | .rewind handle => .rewind (names.transitions handle)
  | .stay handle => .stay (names.transitions handle)
  | .moveTo handle state => .moveTo (names.transitions handle) (names.states state)
  | .moveToNew handle => .moveToNew (names.transitions handle)
  | .moveToForeign handle => .moveToForeign (names.transitions handle)
  | .emit handle kind => .emit (names.transitions handle) kind
  | .fail handle message => .fail (names.transitions handle) message
  | .identify state => .identify (names.states state)
  | .copy state => .copy (names.states state)

def opened (old : OpenTransition) : OpenTransition :=
  { old with location := old.location.renumbered names.numbers }

def amendment : Amendment κ → Amendment κ
  | .deciding disposition => .deciding ((renumbering names.numbers).disposition disposition)
  | other => other

def deed : Deed κ → Deed κ
  | .idle => .idle
  | .opening state charClass => .opening (names.numbers state) charClass
  | .amending handle location amendment spends =>
      .amending (names.transitions handle) (location.renumbered names.numbers)
        (names.amendment amendment) spends
  | .extending handle location =>
      .extending (names.transitions handle) (location.renumbered names.numbers)
  | .copying state => .copying (names.numbers state)

theorem transition_apply (amendment : Amendment κ) (old : Transition κ) :
    (renumbering names.numbers).transition (amendment.apply old) =
      (names.amendment amendment).apply ((renumbering names.numbers).transition old) := by
  cases amendment <;> rfl

theorem opened_mark (spends : Bool) (old : OpenTransition) :
    names.opened (old.mark spends) = (names.opened old).mark spends := rfl

end Renaming

namespace Session

/-- Two sessions that are equal up to the numbers of their states and handles. -/
structure Renamed (names : Renaming) (source target : Session κ) : Prop where
  automaton : source.automaton.Renumbered names.numbers target.automaton
  states : Rearranged names.states names.numbers source.states target.states
  transitions : Rearranged names.transitions names.opened source.transitions target.transitions

namespace Renamed

variable {names : Renaming} {source target : Session κ} {handle : Nat}

theorem refl (session : Session κ) : session.Renamed .unchanged session where
  automaton := Automaton.Renumbered.refl_iff.mpr rfl
  states := Rearranged.refl_iff.mpr (List.map_id session.states).symm
  transitions := Rearranged.refl_iff.mpr (List.map_id session.transitions).symm

theorem doing (renamed : source.Renamed names target) (deed : Deed κ) :
    (source.doing deed).Renamed names (target.doing (names.deed deed)) := by
  cases deed with
  | idle => exact renamed
  | opening state charClass =>
      refine ⟨renamed.automaton.addTransition state charClass, renamed.states, ?_⟩
      have sameLength := congrArg List.length (renamed.automaton.state_eq state)
      rw [List.length_map] at sameLength
      simp only [Session.doing, Renaming.deed, sameLength]
      exact renamed.transitions.concat { location := ⟨state, _⟩ }
  | amending handle location amendment spends =>
      exact ⟨renamed.automaton.modifyTransition (names.transition_apply amendment) location,
        renamed.states, renamed.transitions.modify (names.opened_mark spends) handle⟩
  | extending handle location =>
      -- The next free number is the same in both sessions, and it is not renamed.
      have sameNumber : names.numbers source.automaton.size = target.automaton.size :=
        (renamed.automaton.fixed _ le_rfl).trans renamed.automaton.length_eq.symm
      have settled :=
        renamed.automaton.addState.settle location (.moveTo source.automaton.size)
      have handedOut := renamed.states.concat source.automaton.size
      simp only [Relabeling.disposition, renumbering, sameNumber] at settled
      rw [sameNumber] at handedOut
      exact ⟨settled, handedOut, renamed.transitions.modify (names.opened_mark true) handle⟩
  | copying state => exact ⟨renamed.automaton, renamed.states.concat state, renamed.transitions⟩

theorem atState (renamed : source.Renamed names target) {act acted : StateId → Deed κ}
    (same : ∀ state, acted (names.numbers state) = names.deed (act state)) :
    target.atState (names.states handle) acted = names.deed (source.atState handle act) := by
  unfold Session.atState
  rw [renamed.states.getElem?_eq]
  cases source.states[handle]? with
  | none => rfl
  | some state => exact same state

theorem atTransition (renamed : source.Renamed names target) {act acted : Location → Deed κ}
    (same : ∀ location, acted (location.renumbered names.numbers) = names.deed (act location)) :
    target.atTransition (names.transitions handle) acted =
      names.deed (source.atTransition handle act) := by
  unfold Session.atTransition
  rw [renamed.transitions.getElem?_eq]
  match source.transitions[handle]? with
  | none => rfl
  | some ⟨location, false⟩ => exact same location
  | some ⟨location, true⟩ => rfl

theorem deed_eq (renamed : source.Renamed names target) (call : Call κ) :
    target.deed (names.call call) = names.deed (source.deed call) := by
  cases call with
  | on state charClass => exact renamed.atState fun _ => rfl
  | ignore handle => exact renamed.atTransition fun _ => rfl
  | rewind handle => exact renamed.atTransition fun _ => rfl
  | stay handle => exact renamed.atTransition fun _ => rfl
  | moveTo handle state =>
      apply renamed.atState
      intro target
      exact renamed.atTransition fun _ => rfl
  | moveToNew handle => exact renamed.atTransition fun _ => rfl
  | moveToForeign handle => exact renamed.atTransition fun _ => rfl
  | emit handle kind => exact renamed.atTransition fun _ => rfl
  | fail handle message =>
      apply renamed.atTransition
      intro location
      cases message <;> rfl
  | identify state => exact renamed.atState fun _ => rfl
  | copy state => exact renamed.atState fun _ => rfl

theorem perform (renamed : source.Renamed names target) (call : Call κ) :
    (source.perform call).1.Renamed names (target.perform (names.call call)).1 := by
  rw [perform_eq, perform_eq, renamed.deed_eq]
  exact renamed.doing (source.deed call)

theorem run (renamed : source.Renamed names target) (calls : List (Call κ)) :
    (source.run calls).1.Renamed names (target.run (calls.map names.call)).1 := by
  induction calls generalizing source target with
  | nil => exact renamed
  | cons call calls inductionHypothesis => exact inductionHypothesis (renamed.perform call)

end Renamed

end Session

end LexKit
