import LexKit.Proofs.Automaton.Edits
import LexKit.Proofs.Automaton.Renaming

/-!
Calls that have nothing to do with each other may be made in either order.

Two neighbouring calls touch different rows of the automaton, different transitions or different
ends of lists, unless both add to the end of one list.  What they add then changes places, and so do
the numbers by which later calls refer to it.  This is all that the order of the two calls decides.
-/

namespace LexKit

variable {κ : Type}

/-! ### Independent calls -/

/-- What a call adds to a session: the number of a new state, and new handles. -/
structure Additions where
  number? : Option StateId
  state? : Option Nat
  transition? : Option Nat

/-- Whether a call uses one of the new handles. -/
def Additions.UsedBy (added : Additions) (call : Call κ) : Prop :=
  (∃ handle ∈ added.state?, handle ∈ call.stateHandle?) ∨
    ∃ handle ∈ added.transition?, handle ∈ call.transitionHandle?

instance (added : Additions) (call : Call κ) : Decidable (added.UsedBy call) :=
  inferInstanceAs (Decidable (_ ∨ _))

/-- The number of what was added, if anything was. -/
def added? (before after : Nat) : Option Nat :=
  if before < after then some before else none

namespace Session

variable (session : Session κ)

def additions (next : Session κ) : Additions where
  number? := added? session.automaton.size next.automaton.size
  state? := added? session.states.length next.states.length
  transition? := added? session.transitions.length next.transitions.length

def added (call : Call κ) : Additions :=
  session.additions (session.perform call).1

/-- Neither call uses a handle that the other one adds, they open no transitions on one state, and
they do not act on one transition. -/
structure Independent (first second : Call κ) : Prop where
  second_apart : ¬ (session.added first).UsedBy second
  first_apart : ¬ (session.added second).UsedBy first
  states : ∀ state ∈ session.opensOn? first, state ∉ session.opensOn? second
  transitions : ∀ handle ∈ first.transitionHandle?, handle ∉ second.transitionHandle?

end Session

/-- If both of two calls add something, the other order exchanges the numbers of what they add. -/
def exchanging (first second : Option Nat) : Equiv.Perm Nat :=
  match first, second with
  | some number, some _ => Equiv.swap number (number + 1)
  | _, _ => .refl Nat

def Additions.exchange (first second : Additions) : Renaming where
  numbers := exchanging first.number? second.number?
  states := exchanging first.state? second.state?
  transitions := exchanging first.transition? second.transition?

/-- The new names for what two calls add, once they are made in the other order. -/
def Session.exchange (session : Session κ) (first second : Call κ) : Renaming :=
  (session.added first).exchange (session.added second)

/-! ### Deeds in either order -/

namespace Session

variable {session : Session κ}

section Additions

variable (session)

theorem additions_idle : session.additions (session.doing .idle) = ⟨none, none, none⟩ := by
  simp [additions, doing, added?]

theorem additions_opening (state : StateId) (charClass : CharClass) :
    session.additions (session.doing (.opening state charClass)) =
      ⟨none, none, some session.transitions.length⟩ := by
  simp [additions, doing, added?]

theorem additions_amending (handle : Nat) (location : Location) (amendment : Amendment κ)
    (spends : Bool) :
    session.additions (session.doing (.amending handle location amendment spends)) =
      ⟨none, none, none⟩ := by
  simp [additions, doing, added?]

theorem additions_extending (handle : Nat) (location : Location) :
    session.additions (session.doing (.extending handle location)) =
      ⟨some session.automaton.size, some session.states.length, none⟩ := by
  simp [additions, doing, added?, Automaton.settleNew, Automaton.settle]

theorem additions_copying (state : StateId) :
    session.additions (session.doing (.copying state)) =
      ⟨none, some session.states.length, none⟩ := by
  simp [additions, doing, added?]

end Additions

/-- A handle whose transition has a place in the automaton. -/
structure Holds (session : Session κ) (handle : Nat) (location : Location) : Prop where
  handle_lt : handle < session.transitions.length
  state_lt : location.state < session.automaton.size
  transition_lt : location.transition < (session.automaton.state location.state).length

variable {handle other : Nat} {location otherLocation : Location}

theorem Anchored.holds (anchored : session.Anchored)
    (found : session.locations[handle]? = some location) : session.Holds handle location := by
  obtain ⟨transition, present⟩ := anchored.exists_transition location (List.mem_of_getElem? found)
  have inRow := (List.getElem?_eq_some_iff.mp present).1
  refine ⟨?_, ?_, inRow⟩
  · have inside := (List.getElem?_eq_some_iff.mp found).1
    rwa [locations, List.length_map] at inside
  · by_contra beyond
    rw [session.automaton.state_of_size_le (Nat.le_of_not_lt beyond)] at inRow
    exact absurd inRow (Nat.not_lt_zero _)

theorem Anchored.location_ne (anchored : session.Anchored) (different : handle ≠ other)
    (found : session.locations[handle]? = some location)
    (otherFound : session.locations[other]? = some otherLocation) : location ≠ otherLocation := by
  rintro rfl
  have inside := (List.getElem?_eq_some_iff.mp found).1
  exact different ((List.getElem?_inj inside anchored.distinct).mp (found.trans otherFound.symm))

theorem opening_amending (holds : session.Holds handle location) (state : StateId)
    (charClass : CharClass) (amendment : Amendment κ) (spends : Bool) :
    (session.doing (.opening state charClass)).doing (.amending handle location amendment spends) =
      (session.doing (.amending handle location amendment spends)).doing
        (.opening state charClass) := by
  simp only [doing, Automaton.length_state_modifyTransition]
  rw [session.automaton.addTransition_modifyTransition holds.transition_lt,
    modify_concat holds.handle_lt]

theorem opening_extending (holds : session.Holds handle location) {state : StateId}
    (inside : state < session.automaton.size) (charClass : CharClass) :
    (session.doing (.opening state charClass)).doing (.extending handle location) =
      (session.doing (.extending handle location)).doing (.opening state charClass) := by
  simp only [doing, Automaton.length_state_settleNew, Automaton.size_addTransition]
  rw [session.automaton.settleNew_addTransition holds.transition_lt inside,
    modify_concat holds.handle_lt]

theorem amending_amending (differentHandles : handle ≠ other) (different : location ≠ otherLocation)
    (amendment otherAmendment : Amendment κ) (spends otherSpends : Bool) :
    (session.doing (.amending handle location amendment spends)).doing
        (.amending other otherLocation otherAmendment otherSpends) =
      (session.doing (.amending other otherLocation otherAmendment otherSpends)).doing
        (.amending handle location amendment spends) := by
  simp only [doing]
  rw [session.automaton.modifyTransition_comm different,
    List.modify_modify_ne _ _ _ differentHandles]

theorem amending_extending (differentHandles : handle ≠ other)
    (different : location ≠ otherLocation) (holds : session.Holds handle location)
    (amendment : Amendment κ) (spends : Bool) :
    (session.doing (.amending handle location amendment spends)).doing
        (.extending other otherLocation) =
      (session.doing (.extending other otherLocation)).doing
        (.amending handle location amendment spends) := by
  simp only [doing, Automaton.size_modifyTransition]
  rw [session.automaton.settleNew_modifyTransition different.symm holds.state_lt,
    List.modify_modify_ne _ _ _ differentHandles]

/-! ### Deeds that both add to one list -/

theorem opening_opening {state otherState : StateId} (different : state ≠ otherState)
    (charClass otherClass : CharClass) :
    Renamed ⟨.refl _, .refl _,
        Equiv.swap session.transitions.length (session.transitions.length + 1)⟩
      ((session.doing (.opening state charClass)).doing (.opening otherState otherClass))
      ((session.doing (.opening otherState otherClass)).doing (.opening state charClass)) := by
  simp only [doing, Automaton.addTransition, session.automaton.state_modifyState_of_ne different,
    session.automaton.state_modifyState_of_ne different.symm, List.append_assoc, List.cons_append,
    List.nil_append]
  have reordered := session.automaton.addTransition_comm different.symm
    { on := otherClass } { on := charClass }
  exact ⟨Automaton.Renumbered.refl_iff.mpr reordered, (Renamed.refl session).states,
    Rearranged.exchange (List.map_id _) _ _⟩

/-- Two state handles given out in the other order. -/
theorem renamed_handOut (session : Session κ) (states : List StateId) (first second : StateId) :
    Renamed ⟨.refl _, Equiv.swap states.length (states.length + 1), .refl _⟩
      { session with states := states ++ [first, second] }
      { session with states := states ++ [second, first] } :=
  ⟨(Renamed.refl session).automaton, Rearranged.exchange (List.map_id _) first second,
    (Renamed.refl session).transitions⟩

theorem swap_of_lt {number next : Nat} (less : number < next) :
    Equiv.swap next (next + 1) number = number :=
  Equiv.swap_apply_of_ne_of_ne (Nat.ne_of_lt less) (Nat.ne_of_lt (Nat.lt_succ_of_lt less))

/-- The numbers of the next two states do not occur in a session. -/
theorem Valid.transition_eq (valid : session.Valid) {id : StateId} {old : Transition κ}
    (present : old ∈ session.automaton.state id) :
    (renumbering (Equiv.swap session.automaton.size (session.automaton.size + 1))).transition old =
      old := by
  have target_lt := (valid.legal id old present).target_lt
  obtain ⟨_, _, _, disposition⟩ := old
  match disposition with
  | some (.moveTo target) =>
      simp [Relabeling.transition, Relabeling.disposition, renumbering,
        swap_of_lt (target_lt target rfl)]
  | some (.emit kind) => rfl
  | some (.fail message) => rfl
  | none => rfl

theorem Valid.rows_eq (valid : session.Valid) :
    session.automaton.states.map (List.map (renumbering (Equiv.swap session.automaton.size
      (session.automaton.size + 1))).transition) = session.automaton.states := by
  refine (List.map_congr_left ?_).trans (List.map_id _)
  intro row member
  obtain ⟨id, found⟩ := List.getElem?_of_mem member
  rw [← session.automaton.state_of_getElem? found]
  exact (List.map_congr_left fun _ present => valid.transition_eq present).trans (List.map_id _)

theorem Valid.states_eq (valid : session.Valid) :
    session.states.map (Equiv.swap session.automaton.size (session.automaton.size + 1)) =
      session.states :=
  (List.map_congr_left fun state given => swap_of_lt (valid.state_lt state given)).trans
    (List.map_id _)

theorem Valid.transitions_eq (valid : session.Valid) (states transitions : Equiv.Perm Nat) :
    session.transitions.map (Renaming.opened ⟨Equiv.swap session.automaton.size
      (session.automaton.size + 1), states, transitions⟩) = session.transitions := by
  refine (List.map_congr_left ?_).trans (List.map_id _)
  intro opened given
  simp [Renaming.opened, Location.renumbered, swap_of_lt (valid.location_lt opened given)]

theorem Valid.settleNew_settleNew (valid : session.Valid) (different : location ≠ otherLocation)
    (inside : location.state < session.automaton.size)
    (otherInside : otherLocation.state < session.automaton.size) :
    ((session.automaton.settleNew location).settleNew otherLocation).Renumbered
      (Equiv.swap session.automaton.size (session.automaton.size + 1))
      ((session.automaton.settleNew otherLocation).settleNew location) := by
  -- Two blank rows may change places; only then it is told which transition leads to which of them.
  have blank : session.automaton.addState.addState.Renumbered
      (Equiv.swap session.automaton.size (session.automaton.size + 1))
      session.automaton.addState.addState := by
    simp only [Automaton.Renumbered, Automaton.addState, List.append_assoc]
    exact Rearranged.exchange valid.rows_eq [] []
  have kept {location : Location} (inside : location.state < session.automaton.size) :
      location.renumbered (Equiv.swap session.automaton.size (session.automaton.size + 1)) =
        location := by
    rw [Location.renumbered, swap_of_lt inside]
  have settled := (blank.settle location (.moveTo session.automaton.size)).settle otherLocation
    (.moveTo (session.automaton.size + 1))
  rw [kept inside, kept otherInside] at settled
  simp only [Relabeling.disposition, renumbering, Equiv.swap_apply_left,
    Equiv.swap_apply_right] at settled
  have reordered :
      (session.automaton.addState.addState.settle otherLocation
          (.moveTo session.automaton.size)).settle location
          (.moveTo (session.automaton.size + 1)) =
        (session.automaton.addState.addState.settle location
          (.moveTo (session.automaton.size + 1))).settle otherLocation
          (.moveTo session.automaton.size) :=
    Automaton.modifyTransition_comm _ different.symm _ _
  rw [session.automaton.settleNew_settleNew inside,
    session.automaton.settleNew_settleNew otherInside, reordered]
  exact settled

theorem extending_extending (valid : session.Valid) (differentHandles : handle ≠ other)
    (different : location ≠ otherLocation) (holds : session.Holds handle location)
    (otherHolds : session.Holds other otherLocation) :
    Renamed ⟨Equiv.swap session.automaton.size (session.automaton.size + 1),
        Equiv.swap session.states.length (session.states.length + 1), .refl _⟩
      ((session.doing (.extending handle location)).doing (.extending other otherLocation))
      ((session.doing (.extending other otherLocation)).doing (.extending handle location)) := by
  have larger (location : Location) :
      (session.automaton.settleNew location).size = session.automaton.size + 1 := by
    simp [Automaton.settleNew, Automaton.settle]
  -- Both orders give out the same two numbers, but each of them for the other transition.
  have states := Rearranged.exchange valid.states_eq session.automaton.size
    (session.automaton.size + 1)
  rw [Equiv.swap_apply_left, Equiv.swap_apply_right] at states
  simp only [doing, larger, List.append_assoc, List.cons_append, List.nil_append]
  refine ⟨valid.settleNew_settleNew different holds.state_lt otherHolds.state_lt, states, ?_⟩
  rw [List.modify_modify_ne _ _ _ differentHandles.symm]
  have kept := Rearranged.refl_iff.mpr (valid.transitions_eq
    (Equiv.swap session.states.length (session.states.length + 1)) (.refl Nat)).symm
  have spent := kept.modify (Renaming.opened_mark _ true) handle
  exact spent.modify (Renaming.opened_mark _ true) other

/-! ### Any two deeds -/

/-- The other order of two deeds exchanges the numbers of what they add, and nothing else. -/
def Commute (session : Session κ) (deed otherDeed : Deed κ) : Prop :=
  Renamed ((session.additions (session.doing deed)).exchange
      (session.additions (session.doing otherDeed)))
    ((session.doing deed).doing otherDeed) ((session.doing otherDeed).doing deed)

variable {first second : Call κ} {deed otherDeed : Deed κ} {state : StateId}

theorem commute_opening (anchored : session.Anchored) (inside : state < session.automaton.size)
    (charClass : CharClass) (isOther : session.DeedOf second otherDeed)
    (apart : ∀ other ∈ otherDeed.state?, state ≠ other) :
    session.Commute (.opening state charClass) otherDeed := by
  rw [Commute, additions_opening]
  cases isOther with
  | idle =>
      rw [additions_idle]
      exact .refl _
  | opening isOn found =>
      rw [additions_opening]
      exact opening_opening (apart _ rfl) _ _
  | amending acts found =>
      rw [additions_amending, opening_amending (anchored.holds found)]
      exact .refl _
  | extending isMove found =>
      rw [additions_extending, opening_extending (anchored.holds found) inside]
      exact .refl _
  | copying found =>
      rw [additions_copying]
      exact .refl _

theorem commute_amending (anchored : session.Anchored)
    (found : session.locations[handle]? = some location) (amendment : Amendment κ) (spends : Bool)
    (isOther : session.DeedOf second otherDeed)
    (apart : ∀ other ∈ otherDeed.handle?, handle ≠ other) :
    session.Commute (.amending handle location amendment spends) otherDeed := by
  rw [Commute, additions_amending]
  cases isOther with
  | idle =>
      rw [additions_idle]
      exact .refl _
  | opening isOn otherFound =>
      rw [additions_opening, opening_amending (anchored.holds found)]
      exact .refl _
  | amending acts otherFound =>
      have different := anchored.location_ne (apart _ rfl) found otherFound
      rw [additions_amending, amending_amending (apart _ rfl) different]
      exact .refl _
  | extending isMove otherFound =>
      have different := anchored.location_ne (apart _ rfl) found otherFound
      rw [additions_extending,
        amending_extending (apart _ rfl) different (anchored.holds found)]
      exact .refl _
  | copying otherFound =>
      rw [additions_copying]
      exact .refl _

theorem commute_extending (valid : session.Valid) (anchored : session.Anchored)
    (found : session.locations[handle]? = some location)
    (isOther : session.DeedOf second otherDeed)
    (apart : ∀ other ∈ otherDeed.handle?, handle ≠ other) :
    session.Commute (.extending handle location) otherDeed := by
  rw [Commute, additions_extending]
  cases isOther with
  | idle =>
      rw [additions_idle]
      exact .refl _
  | opening isOn otherFound =>
      have inside := valid.state_lt _ (List.mem_of_getElem? otherFound)
      rw [additions_opening, opening_extending (anchored.holds found) inside]
      exact .refl _
  | amending acts otherFound =>
      have different := anchored.location_ne (apart _ rfl) found otherFound
      rw [additions_amending,
        amending_extending (apart _ rfl).symm different.symm (anchored.holds otherFound)]
      exact .refl _
  | extending isMove otherFound =>
      have different := anchored.location_ne (apart _ rfl) found otherFound
      rw [additions_extending]
      exact extending_extending valid (apart _ rfl) different (anchored.holds found)
        (anchored.holds otherFound)
  | copying otherFound =>
      rw [additions_copying]
      simp only [doing, List.append_assoc, List.cons_append, List.nil_append]
      exact renamed_handOut (session.doing (.extending handle location)) session.states _ _

theorem commute_copying (state : StateId) (isOther : session.DeedOf second otherDeed) :
    session.Commute (.copying state) otherDeed := by
  rw [Commute, additions_copying]
  cases isOther with
  | idle =>
      rw [additions_idle]
      exact .refl _
  | opening isOn found =>
      rw [additions_opening]
      exact .refl _
  | amending acts found =>
      rw [additions_amending]
      exact .refl _
  | @extending handle location isMove found =>
      rw [additions_extending]
      simp only [doing, List.append_assoc, List.cons_append, List.nil_append]
      exact renamed_handOut (session.doing (.extending handle location)) session.states _ _
  | copying found =>
      rw [additions_copying]
      simp only [doing, List.append_assoc, List.cons_append, List.nil_append]
      exact renamed_handOut session session.states _ _

/-! ### Calls in either order -/

theorem commute_deeds (valid : session.Valid) (anchored : session.Anchored)
    (independent : session.Independent first second) :
    session.Commute (session.deed first) (session.deed second) := by
  have isDeed := session.deedOf_deed first
  have isOther := session.deedOf_deed second
  have state_ne : ∀ state ∈ (session.deed first).state?,
      ∀ other ∈ (session.deed second).state?, state ≠ other := by
    rintro state opens other otherOpens rfl
    exact independent.states state (isDeed.opens opens) (isOther.opens otherOpens)
  have handle_ne : ∀ handle ∈ (session.deed first).handle?,
      ∀ other ∈ (session.deed second).handle?, handle ≠ other := by
    rintro handle acts other otherActs rfl
    exact independent.transitions handle (isDeed.acts acts) (isOther.acts otherActs)
  generalize session.deed first = deed at isDeed state_ne handle_ne ⊢
  cases isDeed with
  | idle =>
      rw [Commute, additions_idle]
      exact .refl _
  | opening isOn found =>
      have inside := valid.state_lt _ (List.mem_of_getElem? found)
      exact commute_opening anchored inside _ isOther (state_ne _ rfl)
  | amending acts found => exact commute_amending anchored found _ _ isOther (handle_ne _ rfl)
  | extending isMove found =>
      exact commute_extending valid anchored found isOther (handle_ne _ rfl)
  | copying found => exact commute_copying _ isOther

theorem getElem?_concat_of_ne {α : Type} {list : List α} {place : Nat}
    (different : place ≠ list.length) (added : α) : (list ++ [added])[place]? = list[place]? := by
  rcases Nat.lt_or_gt_of_ne different with inside | beyond
  · exact List.getElem?_append_left inside
  · rw [List.getElem?_eq_none (Nat.le_of_lt beyond), List.getElem?_eq_none]
    rw [List.length_append]
    exact beyond

/-- Another call finds its handles as they were, unless they have just been added. -/
theorem deed_doing {call : Call κ}
    (unused : ¬ (session.additions (session.doing deed)).UsedBy call)
    (apart : ∀ handle ∈ deed.handle?, handle ∉ call.transitionHandle?) :
    (session.doing deed).deed call = session.deed call := by
  have freshState : ∀ handle ∈ call.stateHandle?,
      handle ∉ (session.additions (session.doing deed)).state? :=
    fun handle uses isNew => unused (.inl ⟨handle, isNew, uses⟩)
  have freshTransition : ∀ handle ∈ call.transitionHandle?,
      handle ∉ (session.additions (session.doing deed)).transition? :=
    fun handle uses isNew => unused (.inr ⟨handle, isNew, uses⟩)
  apply deed_congr
  · intro handle uses
    have fresh := freshState handle uses
    cases deed with
    | extending other location =>
        rw [additions_extending] at fresh
        exact getElem?_concat_of_ne (fun same => fresh (same ▸ rfl)) _
    | copying state =>
        rw [additions_copying] at fresh
        exact getElem?_concat_of_ne (fun same => fresh (same ▸ rfl)) _
    | _ => rfl
  · intro handle uses
    have fresh := freshTransition handle uses
    cases deed with
    | opening state charClass =>
        rw [additions_opening] at fresh
        exact getElem?_concat_of_ne (fun same => fresh (same ▸ rfl)) _
    | amending other location amendment spends =>
        exact List.getElem?_modify_ne _ _ fun same => apart other rfl (same ▸ uses)
    | extending other location =>
        exact List.getElem?_modify_ne _ _ fun same => apart other rfl (same ▸ uses)
    | _ => rfl

theorem Independent.symm (independent : session.Independent first second) :
    session.Independent second first where
  second_apart := independent.first_apart
  first_apart := independent.second_apart
  states := fun state opens otherOpens => independent.states state otherOpens opens
  transitions := fun handle acts otherActs => independent.transitions handle otherActs acts

theorem Independent.deed_eq (independent : session.Independent first second) :
    (session.doing (session.deed first)).deed second = session.deed second := by
  apply deed_doing
  · rw [← perform_eq]
    exact independent.second_apart
  · intro handle acts
    exact independent.transitions handle ((session.deedOf_deed first).acts acts)

theorem perform_comm (valid : session.Valid) (anchored : session.Anchored)
    (independent : session.Independent first second) :
    Renamed (session.exchange first second) ((session.perform first).1.perform second).1
      ((session.perform second).1.perform first).1 := by
  have commute := commute_deeds valid anchored independent
  simp only [exchange, added, perform_eq, independent.deed_eq, independent.symm.deed_eq]
  exact commute

theorem exists_moveToNew {number : StateId}
    (isNew : (session.added first).number? = some number) :
    number = session.automaton.size ∧ ∃ handle, first = .moveToNew handle := by
  have isDeed := session.deedOf_deed first
  rw [added, perform_eq] at isNew
  generalize session.deed first = deed at isDeed isNew
  cases isDeed with
  | extending isMove found =>
      rw [additions_extending] at isNew
      exact ⟨(Option.some.inj isNew).symm, _, isMove⟩
  | _ => simp [additions, doing, added?] at isNew

theorem exchange_cases (session : Session κ) (first second : Call κ) :
    (session.exchange first second).numbers = .refl StateId ∨
      ((∃ handle, first = .moveToNew handle) ∧ (∃ handle, second = .moveToNew handle) ∧
        (session.exchange first second).numbers =
          Equiv.swap session.automaton.size (session.automaton.size + 1)) := by
  simp only [exchange, Additions.exchange]
  cases isNew : (session.added first).number? with
  | none => exact .inl rfl
  | some number =>
      cases isOtherNew : (session.added second).number? with
      | none => exact .inl rfl
      | some other =>
          obtain ⟨rfl, isMove⟩ := exists_moveToNew isNew
          exact .inr ⟨isMove, (exists_moveToNew isOtherNew).2, rfl⟩

end Session

/-- Independent neighbours among calls may change places, if later calls use the new handles.  The
same automaton is drawn, unless both calls lead to new states: then the numbers of these two states
are exchanged.  On every text the outcome is the same, up to the number of the state in a fault. -/
theorem independent_calls_commute {earlier : List (Call κ)} {first second : Call κ}
    (independent : (Session.after earlier).Independent first second) (later : List (Call κ)) :
    let names := (Session.after earlier).exchange first second
    let original := Call.automaton (earlier ++ first :: second :: later)
    let swapped := Call.automaton (earlier ++ second :: first :: later.map names.call)
    ((∀ handle other, first = .moveToNew handle → second ≠ .moveToNew other) →
        swapped = original) ∧
      original.Renumbered names.numbers swapped ∧
      ∀ text, (swapped.RunsForever text ↔ original.RunsForever text) ∧
        swapped.tokenize text = (original.tokenize text).renumbered names.numbers := by
  intro names original swapped
  have valid := Session.valid_run earlier
  have exchanges := Session.perform_comm valid (Session.anchored_after earlier) independent
  have renamed := exchanges.run later
  have renumbered : original.Renumbered names.numbers swapped := by
    simp only [original, swapped, Call.automaton, Session.run_append]
    exact renamed.automaton
  have exchanged := (Session.after earlier).exchange_cases first second
  have start : names.numbers StateId.start = StateId.start := by
    rcases exchanged with unchanged | ⟨_, _, swaps⟩
    · exact congrArg (· StateId.start) unchanged
    · exact (congrArg (· StateId.start) swaps).trans (Session.swap_of_lt valid.start_lt)
  have wellFormed : original.WellFormed := Call.automaton_wellFormed _
  refine ⟨?_, renumbered, ?_⟩
  · intro notBoth
    rcases exchanged with unchanged | ⟨⟨handle, isMove⟩, ⟨other, isOtherMove⟩, _⟩
    · apply Automaton.Renumbered.refl_iff.mp
      rw [← unchanged]
      exact renumbered
    · exact absurd isOtherMove (notBoth handle other isMove)
  · intro text
    exact ⟨(renumbered.carries start).runsForever_iff wellFormed,
      renumbered.tokenize_eq start wellFormed text⟩

/-- A letter and a digit that have not been given a state yet. -/
def letterAndDigit : List (Call Nat) :=
  [.on 0 .letter, .on 0 .digit]

/-- What follows a letter and a digit, by the handles of the states in which they are read. -/
def readOn (letters digits : Nat) : List (Call Nat) :=
  [.on letters (.oneOf ['!']), .fail 2 "mark".toList, .on letters .any, .rewind 3, .emit 3 7,
    .on digits .any, .rewind 4, .emit 4 8]

theorem letterAndDigit_commute :
    (Session.after letterAndDigit).Independent (.moveToNew 0) (.moveToNew 1) ∧
      (Call.automaton (letterAndDigit ++ .moveToNew 0 :: .moveToNew 1 :: readOn 1 2)).tokenize
          "1a!".toList = .rejected ⟨.explicit "mark".toList, ⟨1, 2⟩, 2, 1⟩ ∧
      (Call.automaton (letterAndDigit ++ .moveToNew 1 :: .moveToNew 0 :: readOn 2 1)).tokenize
          "1a!".toList = .rejected ⟨.explicit "mark".toList, ⟨1, 2⟩, 2, 2⟩ := by
  have independent : (Session.after letterAndDigit).Independent (.moveToNew 0) (.moveToNew 1) :=
    ⟨by decide, by decide, by decide, by decide⟩
  have rejected : (Call.automaton (letterAndDigit ++ .moveToNew 0 :: .moveToNew 1 ::
      readOn 1 2)).tokenize "1a!".toList =
        .rejected ⟨.explicit "mark".toList, ⟨1, 2⟩, 2, 1⟩ := by decide
  have renamed : (readOn 1 2).map ((Session.after letterAndDigit).exchange (.moveToNew 0)
      (.moveToNew 1)).call = readOn 2 1 := by decide
  obtain ⟨_, _, same⟩ := independent_calls_commute independent (readOn 1 2)
  refine ⟨independent, rejected, ?_⟩
  rw [← renamed, (same _).2, rejected]
  rfl

end LexKit
