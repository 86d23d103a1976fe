import LexKit.Proofs.Automaton.History

/-!
Calls and their history.

`History.session` is the session of which a history tells, with its automaton and all its handles.
One more call on it comes to the session of a history that is longer by this call, unless a handle
of the call is not good.  So calls on an empty session draw the automaton of their history.
-/

namespace LexKit

variable {κ : Type}

theorem Session.eq_of_parts {left right : Session κ} (automata : left.automaton = right.automaton)
    (states : left.states = right.states) (transitions : left.transitions = right.transitions) :
    left = right := by
  cases left
  cases right
  simp_all

namespace History

variable {history : List (Call κ)} {call : Call κ} {handle : Nat} {charClass : CharClass}
  {owner : StateId}

/-! ### The session of a history -/

def openTransition (history : List (Call κ)) (handle : Nat) (owner : StateId) :
    OpenTransition where
  location := place history handle owner
  spent := history.any fun call => call.spends? = some handle

/-- The session that calls leave behind. -/
def session (history : List (Call κ)) : Session κ where
  automaton := automaton history
  states := stateHandles history
  transitions := (openings history).mapIdx fun handle opened =>
    openTransition history handle opened.1

theorem openTransition_concat (own : call.transitionHandle? = some handle) (other : Nat) :
    openTransition (history ++ [call]) other owner =
      (openTransition history other owner).mark (decide (call.spends? = some other)) := by
  rw [openTransition, place, openings_concat_of_acts own]
  simp [openTransition, place, OpenTransition.mark]

theorem transitions_concat_of_acts (own : call.transitionHandle? = some handle) :
    (session (history ++ [call])).transitions =
      (session history).transitions.modify handle (.mark call.spends?.isSome) := by
  rw [session, openings_concat_of_acts own]
  apply mapIdx_eq_modify
  · intro other different
    funext opened
    have unspent : call.spends? ≠ some other := by
      intro spends
      have same := own.symm.trans (transitionHandle?_of_spends? spends)
      exact different (Option.some.inj same).symm
    rw [openTransition_concat own, decide_eq_false unspent, OpenTransition.mark_false, id]
  · intro opened
    have same : decide (call.spends? = some handle) = call.spends?.isSome := by
      cases spends : call.spends? with
      | none => rfl
      | some other =>
          have own := own.symm.trans (transitionHandle?_of_spends? spends)
          simp [Option.some.inj own]
    rw [openTransition_concat own, same]

/-- A call that acts on a transition and asks for no new state. -/
theorem session_concat_of_acts (own : call.transitionHandle? = some handle)
    (found : (openings history)[handle]? = some (owner, charClass))
    (sameStates : call.addsState = false) :
    session (history ++ [call]) = (session history).doing (.amending handle
      (place history handle owner) (amendment history call) call.spends?.isSome) := by
  apply Session.eq_of_parts
  · show automaton (history ++ [call]) = _
    rw [automaton, size_concat, sameStates]
    exact assemble_concat_of_acts own found _
  · show stateHandles (history ++ [call]) = stateHandles history
    rw [stateHandles_concat]
    cases call with
    | copy => simp [Call.transitionHandle?] at own
    | moveToNew => simp [Call.addsState] at sameStates
    | _ => rfl
  · exact transitions_concat_of_acts own

theorem session_concat_moveToNew (proper : Proper history)
    (found : (openings history)[handle]? = some (owner, charClass)) :
    session (history ++ [.moveToNew handle]) =
      (session history).doing (.extending handle (place history handle owner)) := by
  have inside : ∀ entry ∈ owned history, entry.1 < size history := by
    intro entry present
    have listed := List.mem_map_of_mem (f := Prod.fst) present
    rw [map_fst_owned] at listed
    obtain ⟨opened, given, same⟩ := List.mem_map.mp listed
    rw [← same]
    exact proper.owner_lt opened given
  apply Session.eq_of_parts
  · show automaton (history ++ [.moveToNew handle]) = (automaton history).settleNew _
    rw [automaton, size_concat, assemble_concat_of_acts rfl found]
    simp only [Call.addsState, ↓reduceIte]
    rw [Automaton.assemble_succ inside, Automaton.settleNew, automaton, Automaton.size_assemble]
    rfl
  · show stateHandles (history ++ [.moveToNew handle]) =
      stateHandles history ++ [(automaton history).size]
    rw [stateHandles_concat, automaton, Automaton.size_assemble]
    rfl
  · exact transitions_concat_of_acts rfl

theorem openTransition_new (proper : Proper history) (inside : owner < size history) :
    openTransition history (openings history).length owner =
      { location := ⟨owner, ((automaton history).state owner).length⟩ } := by
  have unspent : (history.any fun call => call.spends? = some (openings history).length) =
      false := by
    rw [List.any_eq_false]
    intro call present spends
    have acts := transitionHandle?_of_spends? (of_decide_eq_true spends)
    exact Nat.lt_irrefl _ (proper.handle_lt call present _ acts)
  rw [openTransition, unspent, place, List.take_length, length_state_automaton inside]

theorem transitions_concat_on (proper : Proper history)
    (found : (stateHandles history)[handle]? = some owner) (charClass : CharClass) :
    (session (history ++ [.on handle charClass])).transitions =
      (session history).transitions ++
        [{ location := ⟨owner, ((automaton history).state owner).length⟩ }] := by
  have inside := proper.state_lt owner (List.mem_of_getElem? found)
  have same : ∀ other ≤ (openings history).length, ∀ state,
      openTransition (history ++ [.on handle charClass]) other state =
        openTransition history other state := by
    intro other given state
    rw [openTransition, place, openings_concat_on found, List.take_append_of_le_length given]
    simp [openTransition, place, Call.spends?]
  have older : ((openings history).mapIdx fun other opened =>
      openTransition (history ++ [.on handle charClass]) other opened.1) =
      (session history).transitions := by
    apply List.ext_getElem?
    intro other
    rw [session, List.getElem?_mapIdx, List.getElem?_mapIdx]
    cases given : (openings history)[other]? with
    | none => rfl
    | some opened =>
        have bounded := Nat.le_of_lt (List.getElem?_eq_some_iff.mp given).1
        rw [Option.map_some, Option.map_some, same other bounded]
  rw [session, openings_concat_on found, List.mapIdx_concat, older,
    same _ (Nat.le_refl _), openTransition_new proper inside]

theorem session_concat_on (proper : Proper history)
    (found : (stateHandles history)[handle]? = some owner) (charClass : CharClass) :
    session (history ++ [.on handle charClass]) =
      (session history).doing (.opening owner charClass) := by
  apply Session.eq_of_parts
  · show Automaton.assemble (size (history ++ [.on handle charClass])) _ = _
    rw [size_concat, owned_concat_on proper found, Automaton.assemble_concat]
    rfl
  · exact stateHandles_concat _ _
  · exact transitions_concat_on proper found charClass

/-- A call that neither opens a transition nor acts on one. -/
theorem session_concat_of_idle (unopened : opening? history call = none)
    (noAct : call.transitionHandle? = none) :
    session (history ++ [call]) =
      { session history with states := handOut (stateHandles history) (history, call) } := by
  have sameOpenings : openings (history ++ [call]) = openings history := by
    rw [openings_concat, unopened]
    exact List.append_nil _
  have sameOwned : owned (history ++ [call]) = owned history := by
    have same : transitionOf (history ++ [call]) = transitionOf history := by
      funext other otherClass
      exact transitionOf_concat_of_ne (by simp [noAct])
    rw [owned, sameOpenings, same]
    rfl
  have noSpending : call.spends? = none := by
    rw [Option.eq_none_iff_forall_ne_some]
    intro handle spends
    simp [transitionHandle?_of_spends? spends] at noAct
  have sameSize : size (history ++ [call]) = size history := by
    rw [size_concat]
    cases call with
    | moveToNew => simp [Call.transitionHandle?] at noAct
    | _ => rfl
  apply Session.eq_of_parts
  · show Automaton.assemble _ _ = _
    rw [sameSize, sameOwned]
    rfl
  · exact stateHandles_concat _ _
  · simp [session, sameOpenings, openTransition, place, noSpending]

/-! ### Calls on the session of a history -/

theorem getElem?_transitions (history : List (Call κ)) (handle : Nat) :
    (session history).transitions[handle]? =
      (openings history)[handle]?.map fun opened => openTransition history handle opened.1 :=
  List.getElem?_mapIdx

theorem Heeds.exists_opening (heeds : Heeds history call)
    (own : call.transitionHandle? = some handle) :
    ∃ owner charClass, (openings history)[handle]? = some (owner, charClass) ∧
      (session history).transitions[handle]? = some ⟨place history handle owner, false⟩ := by
  obtain ⟨inside, unspent⟩ := heeds.2 handle own
  refine ⟨_, _, List.getElem?_eq_getElem inside, ?_⟩
  rw [getElem?_transitions, List.getElem?_eq_getElem inside, Option.map_some, openTransition]
  simpa using unspent

theorem Heeds.exists_state (heeds : Heeds history call)
    (own : call.stateHandle? = some handle) :
    ∃ state, (session history).states[handle]? = some state :=
  ⟨_, List.getElem?_eq_getElem (heeds.1 handle own)⟩

theorem deed_of_acts (heeds : Heeds history call) (own : call.transitionHandle? = some handle)
    (found : (openings history)[handle]? = some (owner, charClass))
    (good : (session history).transitions[handle]? = some ⟨place history handle owner, false⟩)
    (sameStates : call.addsState = false) :
    (session history).deed call = .amending handle (place history handle owner)
      (amendment history call) call.spends?.isSome := by
  cases call with
  | on | identify | copy => simp [Call.transitionHandle?] at own
  | moveToNew => simp [Call.addsState] at sameStates
  | stay =>
      cases own
      simp [Session.deed, Session.amendment, Session.atTransition, good, amendment, decision?,
        owner?, found, Call.spends?, place]
  | moveTo other state =>
      cases own
      obtain ⟨target, given⟩ := heeds.exists_state rfl
      have listed : (stateHandles history)[state]? = some target := given
      simp [Session.deed, Session.amendment, Session.atState, Session.atTransition, given, good,
        amendment, decision?, listed, Call.spends?]
  | fail other message =>
      cases own
      by_cases empty : message.isEmpty = true <;>
        simp [Session.deed, Session.amendment, Session.atTransition, good, amendment, decision?,
          empty, Call.spends?]
  | _ =>
      cases own
      simp [Session.deed, Session.amendment, Session.atTransition, good, amendment, decision?,
        Call.spends?]

theorem withState_of_not_lt (beyond : ¬handle < (stateHandles history).length)
    (act : StateId → Session κ × Reply) :
    (session history).withState handle act = (session history, .unknownHandle) := by
  have unknown : (session history).states[handle]? = none :=
    List.getElem?_eq_none (Nat.le_of_not_lt beyond)
  simp [Session.withState, unknown]

theorem withTransition_of_not_good
    (notGood : ¬(handle < (openings history).length ∧
      ∀ earlier ∈ history, earlier.spends? ≠ some handle))
    (act : Location → Session κ × Reply) :
    (session history).withTransition handle act = (session history, .spent) ∨
      (session history).withTransition handle act = (session history, .unknownHandle) := by
  rw [not_and_or] at notGood
  by_cases inside : handle < (openings history).length
  · have spent : (history.any fun call => call.spends? = some handle) = true := by
      simpa [inside] using notGood
    have given : (session history).transitions[handle]? = some
        ⟨place history handle (openings history)[handle].1, true⟩ := by
      rw [getElem?_transitions, List.getElem?_eq_getElem inside, Option.map_some, openTransition,
        spent]
    exact .inl (by simp [Session.withTransition, given])
  · have unknown : (session history).transitions[handle]? = none := by
      rw [getElem?_transitions, List.getElem?_eq_none (Nat.le_of_not_lt inside), Option.map_none]
    exact .inr (by simp [Session.withTransition, unknown])

theorem perform_of_not_heeds (ignored : ¬Heeds history call) :
    (session history).perform call = (session history, .spent) ∨
      (session history).perform call = (session history, .unknownHandle) := by
  rw [Heeds, not_and_or] at ignored
  rcases ignored with noState | noTransition
  · push Not at noState
    obtain ⟨handle, own, beyond⟩ := noState
    right
    cases call with
    | on | moveTo | identify | copy =>
        cases own
        exact withState_of_not_lt (Nat.not_lt_of_le beyond) _
    | _ => simp [Call.stateHandle?] at own
  · obtain ⟨handle, unheeded⟩ := not_forall.mp noTransition
    obtain ⟨own, notGood⟩ := Classical.not_imp.mp unheeded
    cases call with
    | on | identify | copy => simp [Call.transitionHandle?] at own
    | moveTo other state =>
        cases own
        by_cases inside : state < (stateHandles history).length
        · have given : (session history).states[state]? = some (stateHandles history)[state] :=
            List.getElem?_eq_getElem inside
          simp only [Session.perform, Session.withState, given]
          exact withTransition_of_not_good notGood _
        · exact .inr (withState_of_not_lt inside _)
    | _ =>
        cases own
        exact withTransition_of_not_good notGood _

/-- A call with good handles makes the history longer by one, and any other call changes nothing. -/
theorem session_heed (proper : Proper history) (call : Call κ) :
    ((session history).perform call).1 = session (heed history call) := by
  rw [heed]
  split_ifs with heeds
  · rw [Session.perform_eq]
    cases call with
    | on handle charClass =>
        obtain ⟨owner, given⟩ := heeds.exists_state rfl
        rw [session_concat_on proper given]
        simp [Session.deed, Session.atState, given]
    | identify handle =>
        obtain ⟨state, given⟩ := heeds.exists_state rfl
        rw [session_concat_of_idle rfl rfl]
        simp only [Session.deed, Session.atState, given]
        rfl
    | copy handle =>
        obtain ⟨state, given⟩ := heeds.exists_state rfl
        have listed : (stateHandles history)[handle]? = some state := given
        rw [session_concat_of_idle rfl rfl, handOut, listed]
        simp only [Session.deed, Session.atState, given]
        rfl
    | moveToNew handle =>
        obtain ⟨owner, charClass, found, good⟩ := heeds.exists_opening rfl
        rw [session_concat_moveToNew proper found]
        simp [Session.deed, Session.atTransition, good]
    | ignore | rewind | stay | moveTo | moveToForeign | emit | fail =>
        obtain ⟨owner, charClass, found, good⟩ := heeds.exists_opening rfl
        rw [deed_of_acts heeds rfl found good rfl, session_concat_of_acts rfl found rfl]
  · rcases perform_of_not_heeds heeds with refused | refused <;> rw [refused]

theorem Heeds.reply_ne (heeds : Heeds history call) :
    ((session history).perform call).2 ≠ .spent ∧
      ((session history).perform call).2 ≠ .unknownHandle := by
  cases call with
  | on handle | identify handle | copy handle =>
      obtain ⟨state, given⟩ := heeds.exists_state rfl
      simp [Session.perform, Session.withState, given, Session.openOn, Design.on, Session.handOut]
  | moveTo handle state =>
      obtain ⟨target, given⟩ := heeds.exists_state rfl
      obtain ⟨owner, charClass, _, good⟩ := heeds.exists_opening rfl
      simp [Session.perform, Session.withState, Session.edit, Session.withTransition, given, good]
  | _ =>
      obtain ⟨owner, charClass, _, good⟩ := heeds.exists_opening rfl
      simp [Session.perform, Session.edit, Session.complete, Session.withTransition,
        Session.handOut, good]

/-- Handles are good if nothing is said against them. -/
theorem heeds_iff (history : List (Call κ)) (call : Call κ) :
    Heeds history call ↔ ((session history).perform call).2 ≠ .spent ∧
      ((session history).perform call).2 ≠ .unknownHandle := by
  constructor
  · exact Heeds.reply_ne
  · rintro ⟨notSpent, notUnknown⟩
    by_contra ignored
    rcases perform_of_not_heeds ignored with refused | refused
    · exact notSpent (by rw [refused])
    · exact notUnknown (by rw [refused])

/-! ### What a call leaves alone -/

theorem getElem?_locations (history : List (Call κ)) (handle : Nat) :
    (session history).locations[handle]? = (owner? history handle).map (place history handle) := by
  rw [Session.locations, List.getElem?_map, getElem?_transitions, owner?, Option.map_map,
    Option.map_map]
  rfl

theorem touched?_of_acts (own : call.transitionHandle? = some handle) :
    touched? history call = (session history).locations[handle]? := by
  rw [getElem?_locations]
  cases call with
  | on => simp [Call.transitionHandle?] at own
  | _ => simp [touched?, own]

/-- A call changes no transition but the one on which it acts or which it opens. -/
theorem transition?_of_untouched (proper : Proper history) (location : Location)
    (untouched : touched? history call ≠ some location) :
    ((session history).perform call).1.automaton.transition? location =
      (automaton history).transition? location := by
  have isDeed := (session history).deedOf_deed call
  rw [Session.perform_eq]
  generalize (session history).deed call = deed at isDeed
  cases isDeed with
  | idle => rfl
  | @opening handle owner charClass isOn found =>
      have inside := proper.state_lt owner (List.mem_of_getElem? found)
      apply Automaton.transition?_addTransition_of_ne
      rintro rfl
      apply untouched
      have listed : (stateHandles history)[handle]? = some owner := found
      rw [isOn, touched?, listed, Option.map_some, place, List.take_length,
        ← length_state_automaton inside]
      rfl
  | amending acts found =>
      apply Automaton.transition?_modifyTransition_of_ne
      rintro rfl
      exact untouched ((touched?_of_acts acts).trans found)
  | extending isMove found =>
      apply (Automaton.EditedAt.settleNew _).elsewhere
      rintro rfl
      rw [isMove] at untouched
      exact untouched ((touched?_of_acts rfl).trans found)
  | copying => rfl

theorem state_of_untouched (proper : Proper history) {id : StateId}
    (untouched : ∀ location ∈ touched? history call, location.state ≠ id) :
    ((session history).perform call).1.automaton.state id = (automaton history).state id := by
  apply List.ext_getElem?
  intro index
  apply transition?_of_untouched proper ⟨id, index⟩
  intro touched
  exact untouched _ touched rfl

theorem automaton_complete {session : Session κ} {change : Automaton κ → Location → Automaton κ}
    {reply : Reply}
    (unchanged : ∀ location, change session.automaton location = session.automaton) (handle : Nat) :
    (session.complete handle change reply).1.automaton = session.automaton := by
  unfold Session.complete Session.withTransition
  split
  next location _ => exact unchanged location
  next => rfl
  next => rfl

/-! ### Any number of calls -/

theorem heeded_concat (calls : List (Call κ)) (call : Call κ) :
    heeded (calls ++ [call]) = heed (heeded calls) call :=
  List.foldl_append

theorem proper_heeded (calls : List (Call κ)) : Proper (heeded calls) := by
  induction calls using List.reverseRecOn with
  | nil => exact .nil
  | append_singleton calls call inductionHypothesis =>
      rw [heeded_concat, heed]
      split_ifs with heeds
      · exact inductionHypothesis.concat heeds
      · exact inductionHypothesis

theorem session_after (calls : List (Call κ)) : Session.after calls = session (heeded calls) := by
  induction calls using List.reverseRecOn with
  | nil => rfl
  | append_singleton calls call inductionHypothesis =>
      rw [Session.after_append, inductionHypothesis, heeded_concat,
        ← session_heed (proper_heeded calls)]
      rfl

theorem automaton_concat (calls : List (Call κ)) (call : Call κ) :
    Call.automaton (calls ++ [call]) =
      ((session (heeded calls)).perform call).1.automaton := by
  rw [Call.automaton, ← Session.after, Session.after_append, session_after]
  rfl

end History

/-- Calls draw the automaton of which their history tells.  Calls whose handles are not good are
refused and leave no trace in it.  Any other call touches one place at most and leaves all other
transitions and states as they were, and a call that fails without a message or asks for a state of
another automaton leaves the whole automaton as it was. -/
theorem automaton_eq_history (calls : List (Call κ)) :
    Call.automaton calls = History.automaton (History.heeded calls) ∧
      ∀ call,
        (History.Heeds (History.heeded calls) call ↔
          ((Session.after calls).perform call).2 ≠ .spent ∧
            ((Session.after calls).perform call).2 ≠ .unknownHandle) ∧
        (∀ location, History.touched? (History.heeded calls) call ≠ some location →
          (Call.automaton (calls ++ [call])).transition? location =
            (Call.automaton calls).transition? location) ∧
        (∀ id, (∀ location ∈ History.touched? (History.heeded calls) call, location.state ≠ id) →
          (Call.automaton (calls ++ [call])).state id = (Call.automaton calls).state id) ∧
        ((∃ handle, call = .fail handle [] ∨ call = .moveToForeign handle) →
          Call.automaton (calls ++ [call]) = Call.automaton calls) := by
  have drawn : Call.automaton calls = History.automaton (History.heeded calls) :=
    congrArg Session.automaton (History.session_after calls)
  have proper := History.proper_heeded calls
  refine ⟨drawn, ?_⟩
  intro call
  rw [drawn, History.automaton_concat, History.session_after]
  refine ⟨History.heeds_iff _ call, ?_, ?_, ?_⟩
  · intro location untouched
    exact History.transition?_of_untouched proper location untouched
  · intro id untouched
    exact History.state_of_untouched proper untouched
  · rintro ⟨handle, rfl | rfl⟩
    · exact History.automaton_complete (fun _ => rfl) handle
    · exact History.automaton_complete (fun _ => rfl) handle

/-- Two transitions that are drawn in turns, through two handles of the start state.  The last but
one of the calls uses a handle that has been spent. -/
def drawnInTurns : List (Call Nat) :=
  [.on 0 .letter, .copy 0, .on 1 .digit, .rewind 0, .moveToNew 1, .ignore 0, .stay 0, .emit 0 7,
    .moveTo 0 2, .on 2 .any]

theorem drawnInTurns_eq_history :
    History.heeded drawnInTurns = drawnInTurns.eraseIdx 8 ∧
      Call.automaton drawnInTurns = ⟨[
        [{ on := .letter, includes := false, disposition := some (.emit 7) },
          { on := .digit, disposition := some (.moveTo 1) }],
        [{ on := .any }]]⟩ ∧
      ((Session.after drawnInTurns).perform (.rewind 2)).2 ≠ .spent ∧
      (Call.automaton (drawnInTurns ++ [.rewind 2])).transition? ⟨0, 0⟩ =
        (Call.automaton drawnInTurns).transition? ⟨0, 0⟩ ∧
      (Call.automaton (drawnInTurns ++ [.rewind 2])).state 0 =
        (Call.automaton drawnInTurns).state 0 ∧
      Call.automaton (drawnInTurns ++ [.fail 2 []]) = Call.automaton drawnInTurns := by
  obtain ⟨drawn, further⟩ := automaton_eq_history drawnInTurns
  obtain ⟨heeds, transitions, states, _⟩ := further (.rewind 2)
  obtain ⟨_, _, _, unchanged⟩ := further (.fail 2 [])
  exact ⟨by decide, drawn.trans (by decide), (heeds.mp (by decide)).1,
    transitions ⟨0, 0⟩ (by decide), states 0 (by decide), unchanged ⟨2, .inl rfl⟩⟩

end LexKit
