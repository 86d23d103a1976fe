import LexKit.Proofs.Automaton.Deeds
import LexKit.Proofs.Automaton.Edits

/-!
The history of an automaton.

A history lists calls in the order in which they were made.  From the list alone it can be said what
every handle refers to, which transitions were opened on a state, and what the calls on a handle
have made of its transition: whether it keeps its character, whether it looks at it again, and what
was decided last.  `History.automaton` puts this together, state by state.
-/

namespace LexKit

variable {κ : Type}

theorem mapIdx_eq_modify {α β : Type} {list : List α} {before after : Nat → α → β} {place : Nat}
    {change : β → β} (elsewhere : ∀ other ≠ place, after other = before other)
    (there : ∀ item, after place item = change (before place item)) :
    list.mapIdx after = (list.mapIdx before).modify place change := by
  apply List.ext_getElem?
  intro other
  rw [List.getElem?_modify, List.getElem?_mapIdx, List.getElem?_mapIdx]
  by_cases own : place = other
  · subst own
    cases list[place]? with
    | none => rfl
    | some item => simp [there]
  · cases list[other]? with
    | none => rfl
    | some item => simp [own, elsewhere other (Ne.symm own)]

/-! ### Rows out of one list -/

namespace Automaton

/-- The transitions of one state, among transitions that are listed with the states they leave. -/
def rowOf (owned : List (StateId × Transition κ)) (id : StateId) : State κ :=
  (owned.filter (·.1 = id)).map (·.2)

def assemble (size : Nat) (owned : List (StateId × Transition κ)) : Automaton κ :=
  ⟨(List.range size).map (rowOf owned)⟩

variable {size : Nat} {owned : List (StateId × Transition κ)} {owner : StateId}
  {transition : Transition κ}

@[simp]
theorem size_assemble (size : Nat) (owned : List (StateId × Transition κ)) :
    (assemble size owned).size = size := by
  simp [assemble, Automaton.size]

theorem state_assemble (inside : owner < size) :
    (assemble size owned).state owner = rowOf owned owner := by
  simp [assemble, state, List.getD_eq_getElem?_getD, inside]

theorem length_rowOf (owned : List (StateId × Transition κ)) (id : StateId) :
    (rowOf owned id).length = (owned.map Prod.fst).countP (· = id) := by
  rw [rowOf, List.length_map, List.countP_map, ← List.countP_eq_length_filter]
  rfl

theorem assemble_concat (owned : List (StateId × Transition κ)) (owner : StateId)
    (transition : Transition κ) :
    assemble size (owned ++ [(owner, transition)]) =
      (assemble size owned).addTransition owner transition := by
  apply congrArg Automaton.mk
  apply List.ext_getElem?
  intro id
  rw [List.getElem?_modify, assemble, List.getElem?_map, List.getElem?_map]
  cases found : (List.range size)[id]? with
  | none => rfl
  | some same =>
      obtain rfl : id = same := by simpa using (List.getElem?_eq_some_iff.mp found).2
      by_cases own : owner = id
      · simp [rowOf, own]
      · simp [rowOf, own]

/-- In the row of its state, a transition stands behind the transitions of that state that are
listed before it. -/
theorem rowOf_modify {place : Nat} (found : owned[place]? = some (owner, transition))
    (change : Transition κ → Transition κ) (other : StateId) :
    rowOf (owned.modify place (Prod.map id change)) other =
      if owner = other then
        (rowOf owned other).modify (((owned.take place).map Prod.fst).countP (· = owner)) change
      else rowOf owned other := by
  induction owned generalizing place with
  | nil => simp at found
  | cons first owned inductionHypothesis =>
      cases place with
      | zero =>
          obtain rfl := Option.some.inj found
          by_cases own : owner = other
          · simp [rowOf, own]
          · simp [rowOf, own]
      | succ place =>
          have later := inductionHypothesis found
          simp only [rowOf] at later ⊢
          by_cases own : owner = other
          · subst own
            by_cases sameOwner : first.1 = owner
            · simp [sameOwner, later]
            · simp [sameOwner, later]
          · by_cases sameOwner : first.1 = other
            · simp [sameOwner, later, own]
            · simp [sameOwner, later, own]

theorem assemble_modify {place : Nat} (found : owned[place]? = some (owner, transition))
    (size : Nat) (change : Transition κ → Transition κ) :
    assemble size (owned.modify place (Prod.map id change)) =
      (assemble size owned).modifyTransition
        ⟨owner, ((owned.take place).map Prod.fst).countP (· = owner)⟩ change := by
  apply congrArg Automaton.mk
  apply List.ext_getElem?
  intro id
  rw [List.getElem?_modify, assemble, List.getElem?_map, List.getElem?_map]
  cases inside : (List.range size)[id]? with
  | none => rfl
  | some same =>
      obtain rfl : id = same := by simpa using (List.getElem?_eq_some_iff.mp inside).2
      simp only [Option.map_some, Option.map_eq_map, rowOf_modify found]

theorem rowOf_eq_nil (inside : ∀ entry ∈ owned, entry.1 < size) : rowOf owned size = [] := by
  rw [rowOf, List.map_eq_nil_iff, List.filter_eq_nil_iff]
  intro entry present
  simpa using Nat.ne_of_lt (inside entry present)

theorem assemble_succ (inside : ∀ entry ∈ owned, entry.1 < size) :
    assemble (size + 1) owned = (assemble size owned).addState := by
  rw [assemble, List.range_succ, List.map_append, List.map_singleton, rowOf_eq_nil inside]
  rfl

end Automaton

/-! ### What a history says -/

namespace Call

def addsState : Call κ → Bool
  | .moveToNew _ => true
  | _ => false

/-- The transition handle that a call spends. -/
def spends? : Call κ → Option Nat
  | .moveToNew handle | .moveToForeign handle | .emit handle _ | .fail handle _ => some handle
  | _ => none

/-- Whether a call on a transition leaves the character out of the token, and if so, whether the
character is looked at again. -/
def skips? : Call κ → Option Bool
  | .ignore _ => some false
  | .rewind _ => some true
  | _ => none

end Call

namespace History

/-- Every call, together with the calls before it. -/
def stages (history : List (Call κ)) : List (List (Call κ) × Call κ) :=
  history.mapIdx fun place call => (history.take place, call)

/-- How many states there are: the start state, and one for each call that asks for a new one. -/
def size (history : List (Call κ)) : Nat :=
  1 + history.countP Call.addsState

/-- The state handles behind one more call: a new state has the next free number, and a copy refers
to the state of the handle that was copied. -/
def handOut (given : List StateId) : List (Call κ) × Call κ → List StateId
  | (earlier, .moveToNew _) => given ++ [size earlier]
  | (_, .copy handle) => given ++ given[handle]?.toList
  | _ => given

/-- The states to which the state handles refer. -/
def stateHandles (history : List (Call κ)) : List StateId :=
  (stages history).foldl handOut [StateId.start]

def opening? (earlier : List (Call κ)) : Call κ → Option (StateId × CharClass)
  | .on handle charClass => (stateHandles earlier)[handle]?.map (·, charClass)
  | _ => none

/-- The transitions that were opened, by handle: the state of each and its class. -/
def openings (history : List (Call κ)) : List (StateId × CharClass) :=
  (stages history).filterMap fun stage => opening? stage.1 stage.2

/-- The state that the transition of a handle leaves. -/
def owner? (history : List (Call κ)) (handle : Nat) : Option StateId :=
  (openings history)[handle]?.map Prod.fst

/-- The disposition that a call gives to the transition on which it acts. -/
def decision? (earlier : List (Call κ)) : Call κ → Option (Disposition κ)
  | .stay handle => (owner? earlier handle).map .moveTo
  | .moveTo _ state => (stateHandles earlier)[state]?.map .moveTo
  | .moveToNew _ => some (.moveTo (size earlier))
  | .emit _ kind => some (.emit kind)
  | .fail _ message => if message.isEmpty then none else some (.fail message)
  | _ => none

/-- The calls that act on a transition handle. -/
def acts (history : List (Call κ)) (handle : Nat) : List (List (Call κ) × Call κ) :=
  (stages history).filter fun stage => stage.2.transitionHandle? = some handle

/-- What the calls on a handle have made of its transition. -/
def transitionOf (history : List (Call κ)) (handle : Nat) (charClass : CharClass) :
    Transition κ where
  on := charClass
  includes := ((acts history handle).filterMap fun stage => stage.2.skips?).isEmpty
  rereads := ((acts history handle).filterMap fun stage => stage.2.skips?).getLastD false
  disposition := ((acts history handle).filterMap fun stage => decision? stage.1 stage.2).getLast?

/-- All transitions by handle, each with the state that it leaves. -/
def owned (history : List (Call κ)) : List (StateId × Transition κ) :=
  (openings history).mapIdx fun handle opened =>
    (opened.1, transitionOf history handle opened.2)

/-- The automaton of which a history tells: the row of each state are the transitions that were
opened on it, in the order of the calls. -/
def automaton (history : List (Call κ)) : Automaton κ :=
  .assemble (size history) (owned history)

/-- Whether all handles of a call are good: they were given out, and no call has spent the
transition handle. -/
def Heeds (history : List (Call κ)) (call : Call κ) : Prop :=
  (∀ handle ∈ call.stateHandle?, handle < (stateHandles history).length) ∧
    ∀ handle ∈ call.transitionHandle?, handle < (openings history).length ∧
      ∀ earlier ∈ history, earlier.spends? ≠ some handle
  deriving Decidable

def heed (history : List (Call κ)) (call : Call κ) : List (Call κ) :=
  if Heeds history call then history ++ [call] else history

/-- The calls with good handles, which are those that are carried out. -/
def heeded (calls : List (Call κ)) : List (Call κ) :=
  calls.foldl heed []

/-- The place in its row of a transition with the given handle: behind the transitions that were
opened on the same state before. -/
def place (history : List (Call κ)) (handle : Nat) (owner : StateId) : Location :=
  ⟨owner, (((openings history).take handle).map Prod.fst).countP (· = owner)⟩

/-- The place of the automaton that a call touches: that of the transition on which it acts, or that
of the transition which it opens. -/
def touched? (history : List (Call κ)) : Call κ → Option Location
  | .on handle _ => (stateHandles history)[handle]?.map (place history (openings history).length)
  | call => call.transitionHandle?.bind fun handle =>
      (owner? history handle).map (place history handle)

/-! ### One more call -/

variable {history : List (Call κ)} {call : Call κ} {handle : Nat} {charClass : CharClass}
  {owner : StateId}

theorem stages_concat (history : List (Call κ)) (call : Call κ) :
    stages (history ++ [call]) = stages history ++ [(history, call)] := by
  have earlier : (history.mapIdx fun place other => ((history ++ [call]).take place, other)) =
      stages history := by
    apply List.ext_getElem?
    intro place
    rw [stages, List.getElem?_mapIdx, List.getElem?_mapIdx]
    cases found : history[place]? with
    | none => rfl
    | some other =>
        have inside := (List.getElem?_eq_some_iff.mp found).1
        rw [Option.map_some, Option.map_some, List.take_append_of_le_length (Nat.le_of_lt inside)]
  rw [stages, List.mapIdx_concat, earlier, List.take_left]

theorem mem_of_mem_stages {stage : List (Call κ) × Call κ} (present : stage ∈ stages history) :
    stage.2 ∈ history := by
  obtain ⟨place, inside, rfl⟩ := List.mem_mapIdx.mp present
  exact List.getElem_mem inside

theorem size_concat (history : List (Call κ)) (call : Call κ) :
    size (history ++ [call]) = size history + if call.addsState then 1 else 0 := by
  rw [size, size, List.countP_append, List.countP_singleton, Nat.add_assoc]

theorem stateHandles_concat (history : List (Call κ)) (call : Call κ) :
    stateHandles (history ++ [call]) = handOut (stateHandles history) (history, call) := by
  rw [stateHandles, stages_concat, List.foldl_append]
  rfl

theorem openings_concat (history : List (Call κ)) (call : Call κ) :
    openings (history ++ [call]) = openings history ++ (opening? history call).toList := by
  rw [openings, stages_concat, List.filterMap_append]
  cases found : opening? history call <;> simp [openings, found]

theorem acts_concat (history : List (Call κ)) (call : Call κ) (handle : Nat) :
    acts (history ++ [call]) handle = acts history handle ++
      if call.transitionHandle? = some handle then [(history, call)] else [] := by
  rw [acts, stages_concat, List.filter_append]
  split_ifs with own <;> simp [acts, own]

/-- What a call makes of the transition on which it acts. -/
def amendment (history : List (Call κ)) : Call κ → Amendment κ
  | .ignore _ => .ignoring
  | .rewind _ => .rewinding
  | call => match decision? history call with
    | some disposition => .deciding disposition
    | none => .keeping

theorem transitionOf_concat_of_ne (other : call.transitionHandle? ≠ some handle) :
    transitionOf (history ++ [call]) handle charClass = transitionOf history handle charClass := by
  simp [transitionOf, acts_concat, other]

theorem transitionOf_concat (own : call.transitionHandle? = some handle) (charClass : CharClass) :
    transitionOf (history ++ [call]) handle charClass =
      (amendment history call).apply (transitionOf history handle charClass) := by
  simp only [transitionOf, acts_concat, own, ↓reduceIte, List.filterMap_append]
  cases call with
  | on | identify | copy => simp [Call.transitionHandle?] at own
  | ignore | rewind =>
      simp [Call.skips?, decision?, amendment, Amendment.apply, Transition.ignoring,
        Transition.rewinding]
  | stay | moveTo | moveToNew | moveToForeign | emit | fail =>
      simp only [List.filterMap_cons, List.filterMap_nil, Call.skips?, List.append_nil, amendment]
      split <;> simp [*, Amendment.apply, Transition.deciding]

theorem openings_concat_of_acts (own : call.transitionHandle? = some handle) :
    openings (history ++ [call]) = openings history := by
  rw [openings_concat]
  cases call with
  | on => simp [Call.transitionHandle?] at own
  | _ => exact List.append_nil _

theorem owned_concat_of_acts (own : call.transitionHandle? = some handle) :
    owned (history ++ [call]) =
      (owned history).modify handle (Prod.map id (amendment history call).apply) := by
  rw [owned, openings_concat_of_acts own]
  apply mapIdx_eq_modify
  · intro other different
    funext opened
    rw [transitionOf_concat_of_ne]
    rw [own]
    exact fun same => different (Option.some.inj same).symm
  · intro opened
    rw [transitionOf_concat own]
    rfl

theorem getElem?_owned (found : (openings history)[handle]? = some (owner, charClass)) :
    (owned history)[handle]? = some (owner, transitionOf history handle charClass) := by
  rw [owned, List.getElem?_mapIdx, found]
  rfl

theorem map_fst_owned (history : List (Call κ)) :
    (owned history).map Prod.fst = (openings history).map Prod.fst := by
  apply List.ext_getElem?
  intro place
  simp [owned, Function.comp_def]

theorem assemble_concat_of_acts (own : call.transitionHandle? = some handle)
    (found : (openings history)[handle]? = some (owner, charClass)) (size : Nat) :
    Automaton.assemble size (owned (history ++ [call])) =
      (Automaton.assemble size (owned history)).modifyTransition (place history handle owner)
        (amendment history call).apply := by
  rw [owned_concat_of_acts own, Automaton.assemble_modify (getElem?_owned found), List.map_take,
    map_fst_owned, ← List.map_take]
  rfl

theorem length_state_automaton (inside : owner < size history) :
    ((automaton history).state owner).length =
      ((openings history).map Prod.fst).countP (· = owner) := by
  rw [automaton, Automaton.state_assemble inside, Automaton.length_rowOf, map_fst_owned]

/-! ### Handles that were given out -/

/-- The handles of a history mean something, and its calls use no handles but those. -/
structure Proper (history : List (Call κ)) : Prop where
  state_lt : ∀ state ∈ stateHandles history, state < size history
  owner_lt : ∀ opened ∈ openings history, opened.1 < size history
  handle_lt : ∀ call ∈ history, ∀ handle ∈ call.transitionHandle?,
    handle < (openings history).length

theorem transitionHandle?_of_spends? (spends : call.spends? = some handle) :
    call.transitionHandle? = some handle := by
  cases call <;> simp_all [Call.spends?, Call.transitionHandle?]

namespace Proper

theorem nil : Proper ([] : List (Call κ)) where
  state_lt := by simp [stateHandles, stages, size, StateId.start]
  owner_lt := by simp [openings, stages]
  handle_lt := by simp

theorem acts_eq_nil (proper : Proper history) : acts history (openings history).length = [] := by
  rw [acts, List.filter_eq_nil_iff]
  intro stage present own
  have inside := proper.handle_lt stage.2 (mem_of_mem_stages present) _ (by simpa using own)
  exact Nat.lt_irrefl _ inside

/-- No call acts on a handle that has not been given out. -/
theorem transitionOf_new (proper : Proper history) (charClass : CharClass) :
    transitionOf history (openings history).length charClass = { on := charClass } := by
  simp [transitionOf, proper.acts_eq_nil]

theorem concat (proper : Proper history) (heeds : Heeds history call) :
    Proper (history ++ [call]) where
  state_lt := by
    intro state given
    rw [size_concat]
    rw [stateHandles_concat] at given
    cases call with
    | moveToNew =>
        rcases List.mem_append.mp given with old | new
        · exact Nat.lt_succ_of_lt (proper.state_lt state old)
        · rw [List.mem_singleton.mp new]
          exact Nat.lt_succ_self _
    | copy handle =>
        rcases List.mem_append.mp given with old | new
        · exact proper.state_lt state old
        · exact proper.state_lt state (List.mem_of_getElem? (Option.mem_toList.mp new))
    | _ => exact proper.state_lt state given
  owner_lt := by
    intro opened given
    rw [size_concat]
    rw [openings_concat] at given
    apply Nat.lt_add_right
    rcases List.mem_append.mp given with old | new
    · exact proper.owner_lt opened old
    · cases call with
      | on handle charClass =>
          obtain ⟨owner, found, rfl⟩ := Option.map_eq_some_iff.mp (Option.mem_toList.mp new)
          exact proper.state_lt owner (List.mem_of_getElem? found)
      | _ => simp [opening?] at new
  handle_lt := by
    intro other present handle acts
    rw [openings_concat, List.length_append]
    apply Nat.lt_add_right
    rcases List.mem_append.mp present with old | new
    · exact proper.handle_lt other old handle acts
    · rw [List.mem_singleton.mp new] at acts
      exact (heeds.2 handle acts).1

end Proper

theorem openings_concat_on (found : (stateHandles history)[handle]? = some owner)
    (charClass : CharClass) :
    openings (history ++ [.on handle charClass]) = openings history ++ [(owner, charClass)] := by
  rw [openings_concat, opening?, found]
  rfl

theorem owned_concat_on (proper : Proper history)
    (found : (stateHandles history)[handle]? = some owner) (charClass : CharClass) :
    owned (history ++ [.on handle charClass]) =
      owned history ++ [(owner, { on := charClass })] := by
  have same : transitionOf (history ++ [.on handle charClass]) = transitionOf history := by
    funext other otherClass
    exact transitionOf_concat_of_ne (by simp [Call.transitionHandle?])
  rw [owned, openings_concat_on found, List.mapIdx_concat, same, proper.transitionOf_new]
  rfl

end History

end LexKit
