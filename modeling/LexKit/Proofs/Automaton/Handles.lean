import LexKit.Proofs.Automaton.WellFormed
import LexKit.Proofs.Scan.Divergence

/-!
Handles keep their meaning.

Many handles refer to one automaton, which grows and changes under all of them.  Whatever is called,
the handle of a transition refers to the transition that was opened with it: the transition stays at
its location and keeps its class, it belongs to no other handle, and only calls on its own handle
change it.  So no call asks for a state or a transition that does not exist, and neither does a run
of the automaton over a text.
-/

namespace LexKit

variable {κ : Type}

namespace Automaton

/-- The class of the transition at a location. -/
def class? (automaton : Automaton κ) (location : Location) : Option CharClass :=
  (automaton.transition? location).map (·.on)

theorem exists_transition?_iff_class? {automaton : Automaton κ} {location : Location} :
    (∃ transition, automaton.transition? location = some transition) ↔
      ∃ charClass, automaton.class? location = some charClass := by
  simp [class?]

/-- Two automata that differ at most in one transition, and not in its class. -/
structure EditedAt (location : Location) (before after : Automaton κ) : Prop where
  class?_eq : after.class? location = before.class? location
  elsewhere : ∀ other, location ≠ other → after.transition? other = before.transition? other

namespace EditedAt

variable {location : Location}

theorem refl (automaton : Automaton κ) : EditedAt location automaton automaton :=
  ⟨rfl, fun _ _ => rfl⟩

theorem modifyTransition (automaton : Automaton κ) {change : Transition κ → Transition κ}
    (sameClass : ∀ old, (change old).on = old.on) :
    EditedAt location automaton (automaton.modifyTransition location change) where
  class?_eq := by
    have same : (fun old => (change old).on) = Transition.on := funext sameClass
    rw [class?, class?, transition?_modifyTransition_same, Option.map_map]
    exact congrArg (Option.map · (automaton.transition? location)) same
  elsewhere := fun _ different => automaton.transition?_modifyTransition_of_ne different change

theorem settle (automaton : Automaton κ) (disposition : Disposition κ) :
    EditedAt location automaton (automaton.settle location disposition) :=
  modifyTransition automaton fun _ => rfl

theorem settleNew (automaton : Automaton κ) :
    EditedAt location automaton (automaton.settleNew location) := by
  have edited : EditedAt location automaton.addState (automaton.settleNew location) :=
    settle automaton.addState (.moveTo automaton.size)
  refine ⟨?_, ?_⟩
  · rw [edited.class?_eq, class?, class?, transition?_addState]
  · intro other different
    rw [edited.elsewhere other different, transition?_addState]

theorem settleFail (automaton : Automaton κ) (message : Text) :
    EditedAt location automaton (automaton.settleFail location message) := by
  unfold Automaton.settleFail
  split
  · exact refl automaton
  · exact settle automaton (.fail message)

/-- No class is lost by an edit. -/
theorem class?_of_class? {before after : Automaton κ} {other : Location} {charClass : CharClass}
    (edited : EditedAt location before after) (found : before.class? other = some charClass) :
    after.class? other = some charClass := by
  by_cases same : location = other
  · rw [← same, edited.class?_eq, same, found]
  · rw [class?, edited.elsewhere other same]
    exact found

end EditedAt

end Automaton

/-- The transition handle on which a call acts. -/
def Call.transitionHandle? : Call κ → Option Nat
  | .ignore handle | .rewind handle | .stay handle | .moveTo handle _ | .moveToNew handle
  | .moveToForeign handle | .emit handle _ | .fail handle _ => some handle
  | .on _ _ | .identify _ | .copy _ => none

namespace Session

/-- The locations that belong to the transition handles, spent or not. -/
def locations (session : Session κ) : List Location :=
  session.transitions.map (·.location)

/-- The session after calls on an empty one. -/
def after (calls : List (Call κ)) : Session κ :=
  (initial.run calls).1

theorem locations_spend (session : Session κ) (handle : Nat) :
    (session.spend handle).locations = session.locations := by
  apply List.ext_getElem?
  intro position
  simp only [locations, spend, List.getElem?_map, List.getElem?_modify]
  split <;> cases session.transitions[position]? <;> simp

theorem getElem?_locations {session : Session κ} {handle : Nat} {opened : OpenTransition}
    (found : session.transitions[handle]? = some opened) :
    session.locations[handle]? = some opened.location := by
  simp [locations, found]

theorem run_append (session : Session κ) (first second : List (Call κ)) :
    (session.run (first ++ second)).1 = ((session.run first).1.run second).1 := by
  induction first generalizing session with
  | nil => rfl
  | cons call first inductionHypothesis => exact inductionHypothesis (session.perform call).1

theorem after_append (first second : List (Call κ)) :
    after (first ++ second) = ((after first).run second).1 :=
  run_append initial first second

/-! ### One call -/

/-- What a call can do to the transitions, and to the handles that refer to them.  The number is the
handle on which it acts. -/
inductive Change (before : Session κ) (acting : Option Nat) (after : Session κ) : Prop where
  | kept (sameAutomaton : after.automaton = before.automaton)
      (sameLocations : after.locations = before.locations)
  | opened {location : Location} {charClass : CharClass}
      (free : before.automaton.transition? location = none)
      (new : after.automaton.transition? location = some { on := charClass })
      (elsewhere : ∀ other, other ≠ location →
        after.automaton.transition? other = before.automaton.transition? other)
      (locations : after.locations = before.locations ++ [location])
  | edited {handle : Nat} {location : Location} (acts : acting = some handle)
      (found : before.locations[handle]? = some location)
      (edited : Automaton.EditedAt location before.automaton after.automaton)
      (sameLocations : after.locations = before.locations)

/-- State handles are only ever added, and of the transitions at most one is changed. -/
structure Effect (before : Session κ) (acting : Option Nat) (after : Session κ) : Prop where
  states : before.states <+: after.states
  change : before.Change acting after

theorem effect_self (session : Session κ) (acting : Option Nat) : session.Effect acting session :=
  ⟨List.prefix_rfl, .kept rfl rfl⟩

theorem effect_handOut (session : Session κ) (acting : Option Nat) (state : StateId) :
    session.Effect acting (session.handOut state).1 :=
  ⟨List.prefix_append _ _, .kept rfl rfl⟩

theorem effect_openOn (session : Session κ) {state : StateId}
    (inside : state < session.automaton.size) (charClass : CharClass) (acting : Option Nat) :
    session.Effect acting (session.openOn state charClass).1 := by
  refine ⟨List.prefix_rfl, .opened (session.automaton.transition?_new state)
    (session.automaton.transition?_addTransition_new inside { on := charClass }) ?_ ?_⟩
  · intro other different
    exact session.automaton.transition?_addTransition_of_ne _ different
  · simp [locations, openOn, Design.on]

theorem effect_edit (session : Session κ) (handle : Nat)
    {change : Location → Transition κ → Transition κ}
    (sameClass : ∀ location old, (change location old).on = old.on) :
    session.Effect (some handle) (session.edit handle change).1 := by
  apply withTransition_induction (session.effect_self _)
  intro location found
  exact ⟨List.prefix_rfl, .edited rfl (getElem?_locations found)
    (.modifyTransition session.automaton (sameClass location)) rfl⟩

theorem effect_complete (session : Session κ) (handle : Nat)
    {change : Automaton κ → Location → Automaton κ} {reply : Reply}
    (edits : ∀ location, Automaton.EditedAt location session.automaton
      (change session.automaton location)) :
    session.Effect (some handle) (session.complete handle change reply).1 := by
  apply withTransition_induction (session.effect_self _)
  intro location found
  exact ⟨List.prefix_rfl, .edited rfl (getElem?_locations found) (edits location)
    (session.locations_spend handle)⟩

theorem effect_perform {session : Session κ} (valid : session.Valid) (call : Call κ) :
    session.Effect call.transitionHandle? (session.perform call).1 := by
  cases call with
  | on state charClass =>
      apply withState_induction (session.effect_self _)
      intro id found
      exact session.effect_openOn (valid.state_lt id (List.mem_of_getElem? found)) charClass _
  | ignore handle => exact session.effect_edit handle fun _ _ => rfl
  | rewind handle => exact session.effect_edit handle fun _ _ => rfl
  | stay handle => exact session.effect_edit handle fun _ _ => rfl
  | moveTo handle state =>
      apply withState_induction (session.effect_self _)
      intro target _
      exact session.effect_edit handle fun _ _ => rfl
  | moveToNew handle =>
      apply withTransition_induction (session.effect_self _)
      intro location found
      exact ⟨List.prefix_append _ _, .edited rfl (getElem?_locations found)
        (.settleNew session.automaton) (session.locations_spend handle)⟩
  | moveToForeign handle => exact session.effect_complete handle fun _ => .refl session.automaton
  | emit handle kind =>
      exact session.effect_complete handle fun _ => .settle session.automaton (.emit kind)
  | fail handle message =>
      exact session.effect_complete handle fun _ => .settleFail session.automaton message
  | identify state =>
      exact withState_induction (session.effect_self _) fun _ _ => session.effect_self _
  | copy state =>
      exact withState_induction (session.effect_self _) fun id _ => session.effect_handOut _ id

/-! ### What every call keeps -/

/-- Every transition handle has a transition of its own. -/
structure Anchored (session : Session κ) : Prop where
  exists_transition : ∀ location ∈ session.locations,
    ∃ transition, session.automaton.transition? location = some transition
  distinct : session.locations.Nodup

/-- All handles still refer to what they referred to, and no transition has lost its class. -/
structure Retains (before after : Session κ) : Prop where
  states : before.states <+: after.states
  locations : before.locations <+: after.locations
  classes : ∀ location charClass, before.automaton.class? location = some charClass →
    after.automaton.class? location = some charClass

theorem Retains.refl (session : Session κ) : session.Retains session :=
  ⟨List.prefix_rfl, List.prefix_rfl, fun _ _ found => found⟩

theorem Retains.trans {first second third : Session κ} (early : first.Retains second)
    (late : second.Retains third) : first.Retains third where
  states := early.states.trans late.states
  locations := early.locations.trans late.locations
  classes := fun location charClass found =>
    late.classes location charClass (early.classes location charClass found)

theorem Retains.getElem?_locations {before after : Session κ} {handle : Nat} {location : Location}
    (retains : before.Retains after) (found : before.locations[handle]? = some location) :
    after.locations[handle]? = some location := by
  obtain ⟨more, longer⟩ := retains.locations
  have inside := (List.getElem?_eq_some_iff.mp found).1
  rw [← longer, List.getElem?_append_left inside]
  exact found

theorem anchored_initial : (initial : Session κ).Anchored := by
  constructor
  · intro location given
    simp [locations, initial] at given
  · simp [locations, initial]

namespace Effect

variable {before after : Session κ} {acting : Option Nat}

theorem retains (effect : before.Effect acting after) : before.Retains after := by
  obtain ⟨states, change⟩ := effect
  cases change with
  | kept sameAutomaton sameLocations =>
      refine ⟨states, by rw [sameLocations], ?_⟩
      intro location charClass found
      rw [sameAutomaton]
      exact found
  | @opened location _ free new elsewhere locations =>
      refine ⟨states, by rw [locations]; exact List.prefix_append _ _, ?_⟩
      intro other charClass found
      have different : other ≠ location := by
        rintro rfl
        simp [Automaton.class?, free] at found
      rw [Automaton.class?, elsewhere other different]
      exact found
  | edited acts found edited sameLocations =>
      refine ⟨states, by rw [sameLocations], ?_⟩
      intro other charClass found
      exact edited.class?_of_class? found

/-- A new transition is opened where none was, so it is not the transition of an older handle. -/
theorem anchored (effect : before.Effect acting after) (anchored : before.Anchored) :
    after.Anchored := by
  have kept : ∀ location ∈ before.locations,
      ∃ transition, after.automaton.transition? location = some transition := by
    intro location given
    obtain ⟨charClass, found⟩ :=
      Automaton.exists_transition?_iff_class?.mp (anchored.exists_transition location given)
    exact Automaton.exists_transition?_iff_class?.mpr
      ⟨charClass, effect.retains.classes location charClass found⟩
  cases effect.change with
  | kept _ sameLocations => exact ⟨sameLocations ▸ kept, sameLocations ▸ anchored.distinct⟩
  | @opened location _ free new elsewhere locations =>
      have fresh : location ∉ before.locations := by
        intro given
        obtain ⟨transition, found⟩ := anchored.exists_transition location given
        simp [free] at found
      constructor
      · intro other given
        rw [locations] at given
        rcases List.mem_append.mp given with old | added
        · exact kept other old
        · rw [List.mem_singleton.mp added]
          exact ⟨_, new⟩
      · rw [locations, ← List.concat_eq_append]
        exact anchored.distinct.concat fresh
  | edited _ _ _ sameLocations => exact ⟨sameLocations ▸ kept, sameLocations ▸ anchored.distinct⟩

/-- A call that does not act on a handle leaves its transition alone. -/
theorem transition?_eq (effect : before.Effect acting after) (anchored : before.Anchored)
    {handle : Nat} {location : Location} (found : before.locations[handle]? = some location)
    (other : acting ≠ some handle) :
    after.automaton.transition? location = before.automaton.transition? location := by
  cases effect.change with
  | kept sameAutomaton _ => rw [sameAutomaton]
  | @opened newLocation _ free new elsewhere locations =>
      apply elsewhere
      rintro rfl
      obtain ⟨transition, present⟩ :=
        anchored.exists_transition location (List.mem_of_getElem? found)
      simp [free] at present
  | @edited otherHandle otherLocation acts otherFound edited _ =>
      apply edited.elsewhere
      rintro rfl
      have inside := (List.getElem?_eq_some_iff.mp found).1
      -- Handles with one location between them are one handle, on which the call does not act.
      have same : handle = otherHandle :=
        (List.getElem?_inj inside anchored.distinct).mp (found.trans otherFound.symm)
      exact other (same ▸ acts)

end Effect

/-! ### Any number of calls -/

theorem retains_perform {session : Session κ} (valid : session.Valid) (call : Call κ) :
    session.Retains (session.perform call).1 :=
  (effect_perform valid call).retains

theorem anchored_perform {session : Session κ} (valid : session.Valid)
    (anchored : session.Anchored) (call : Call κ) : (session.perform call).1.Anchored :=
  (effect_perform valid call).anchored anchored

theorem retains_run {session : Session κ} (valid : session.Valid) (calls : List (Call κ)) :
    session.Retains (session.run calls).1 := by
  induction calls generalizing session with
  | nil => exact .refl session
  | cons call calls inductionHypothesis =>
      exact (retains_perform valid call).trans (inductionHypothesis (valid.perform call))

theorem transition?_run {session : Session κ} (valid : session.Valid)
    (anchored : session.Anchored) {calls : List (Call κ)} {handle : Nat} {location : Location}
    (found : session.locations[handle]? = some location)
    (others : ∀ call ∈ calls, call.transitionHandle? ≠ some handle) :
    (session.run calls).1.automaton.transition? location =
      session.automaton.transition? location := by
  induction calls generalizing session with
  | nil => rfl
  | cons call calls inductionHypothesis =>
      have stepped := (effect_perform valid call).transition?_eq anchored found
        (others call List.mem_cons_self)
      have later := inductionHypothesis (valid.perform call) (anchored_perform valid anchored call)
        ((retains_perform valid call).getElem?_locations found)
        (fun other given => others other (List.mem_cons_of_mem call given))
      exact later.trans stepped

theorem anchored_run {session : Session κ} (valid : session.Valid) (anchored : session.Anchored)
    (calls : List (Call κ)) : (session.run calls).1.Anchored := by
  induction calls generalizing session with
  | nil => exact anchored
  | cons call calls inductionHypothesis =>
      exact inductionHypothesis (valid.perform call) (anchored_perform valid anchored call)

theorem anchored_after (calls : List (Call κ)) : (after calls).Anchored :=
  anchored_run .initial anchored_initial calls

theorem retains_after (earlier later : List (Call κ)) :
    (after earlier).Retains (after (earlier ++ later)) := by
  rw [after_append]
  exact retains_run (valid_run earlier) later

/-- The reply to a call that opens a transition names its handle and location. -/
theorem of_reply_opened {session : Session κ} (valid : session.Valid) {state : Nat}
    {charClass : CharClass} {handle : Nat} {location : Location}
    (reply : (session.perform (.on state charClass)).2 = .opened handle location) :
    (session.perform (.on state charClass)).1.locations[handle]? = some location ∧
      (session.perform (.on state charClass)).1.automaton.class? location = some charClass := by
  simp only [perform, withState] at reply ⊢
  split at reply
  next id found =>
    have inside := valid.state_lt id (List.mem_of_getElem? found)
    simp only [openOn, Design.on, Reply.opened.injEq] at reply
    obtain ⟨rfl, rfl⟩ := reply
    constructor
    · simp [openOn, Design.on, locations]
    · simp [openOn, Design.on, Automaton.class?,
        session.automaton.transition?_addTransition_new inside]
  next => simp at reply

end Session

/-- Whatever calls draw an automaton, it is sound after each of them, and so are the handles: they
refer to states and transitions that exist, and to the same ones for ever.  The transition that a
handle was given out for keeps its class, and without calls on the handle it does not change at all.
A run of the automaton looks up no other states than those it has, and as long as these are fewer
than `2 ^ 32`, 32 bits are enough for their numbers. -/
theorem drawing_stays_sound (earlier later : List (Call κ)) :
    (Session.after (earlier ++ later)).Valid ∧
    (Session.after (earlier ++ later)).Anchored ∧
    (Session.after earlier).Retains (Session.after (earlier ++ later)) ∧
    (∀ handle location, (Session.after earlier).locations[handle]? = some location →
      (∀ call ∈ later, call.transitionHandle? ≠ some handle) →
      (Call.automaton (earlier ++ later)).transition? location =
        (Call.automaton earlier).transition? location) ∧
    (∀ state charClass handle location,
      ((Session.after earlier).perform (.on state charClass)).2 = .opened handle location →
      (Session.after (earlier ++ .on state charClass :: later)).locations[handle]? =
        some location ∧
      (Call.automaton (earlier ++ .on state charClass :: later)).class? location =
        some charClass) ∧
    (∀ text round config,
      (Call.automaton (earlier ++ later)).atRound? round (.initial text) = some config →
      config.state < (Call.automaton (earlier ++ later)).size) ∧
    ((Call.automaton (earlier ++ later)).size < 2 ^ 32 →
      ∀ id < (Call.automaton (earlier ++ later)).size, (UInt32.ofNat id).toNat = id) := by
  have valid := Session.valid_run earlier
  refine ⟨Session.valid_run _, Session.anchored_after _, Session.retains_after earlier later,
    ?_, ?_, ?_, ?_⟩
  · intro handle location found others
    have unchanged := Session.transition?_run valid (Session.anchored_after earlier) found others
    rw [← Session.run_append] at unchanged
    exact unchanged
  · intro state charClass handle location reply
    obtain ⟨found, sameClass⟩ := Session.of_reply_opened valid reply
    have kept := Session.retains_run (valid.perform (.on state charClass)) later
    rw [Call.automaton, ← Session.after, Session.after_append]
    exact ⟨kept.getElem?_locations found, kept.classes location charClass sameClass⟩
  · intro text round config reached
    have wellFormed := Call.automaton_wellFormed (earlier ++ later)
    exact (Automaton.inside_of_atRound? wellFormed (Config.inside_initial wellFormed text)
      reached).state_lt
  · intro few id inside
    exact UInt32.toNat_ofNat_of_lt' (Nat.lt_trans inside few)

/-- A digit and one more handle of the start state. -/
def digitFirst : List (Call Nat) :=
  [.on 0 .digit, .copy 0]

/-- A word, drawn through the second handle of the start state, and a link that is refused. -/
def wordBeside : List (Call Nat) :=
  [.on 1 .letter, .moveToNew 1, .on 2 .letter, .stay 2, .on 2 .any, .rewind 3, .moveToForeign 3]

theorem digitFirst_stays_sound :
    (Session.after (digitFirst ++ wordBeside)).Anchored ∧
      (Session.after digitFirst).locations[0]? = some ⟨0, 0⟩ ∧
      (∀ call ∈ wordBeside, call.transitionHandle? ≠ some 0) ∧
      (Call.automaton (digitFirst ++ wordBeside)).transition? ⟨0, 0⟩ = some { on := .digit } ∧
      ((Session.after digitFirst).perform (.on 1 .upperLetter)).2 = .opened 1 ⟨0, 1⟩ ∧
      (Call.automaton (digitFirst ++ .on 1 .upperLetter :: wordBeside)).class? ⟨0, 1⟩ =
        some .upperLetter ∧
      (∃ config, (Call.automaton (digitFirst ++ wordBeside)).atRound? 2
          (.initial "ab1".toList) = some config ∧ config.state = 1 ∧
        config.state < (Call.automaton (digitFirst ++ wordBeside)).size) ∧
      (Call.automaton (digitFirst ++ wordBeside)).size < 2 ^ 32 ∧ (UInt32.ofNat 1).toNat = 1 := by
  obtain ⟨_, anchored, _, unchanged, opened, lookups, words⟩ :=
    drawing_stays_sound digitFirst wordBeside
  have others : ∀ call ∈ wordBeside, call.transitionHandle? ≠ some 0 := by decide
  exact ⟨anchored, rfl, others, unchanged 0 ⟨0, 0⟩ rfl others, rfl,
    (opened 1 .upperLetter 1 ⟨0, 1⟩ rfl).2, ⟨_, rfl, rfl, lookups "ab1".toList 2 _ rfl⟩,
    by decide, words (by decide) 1 (by decide)⟩

end LexKit
