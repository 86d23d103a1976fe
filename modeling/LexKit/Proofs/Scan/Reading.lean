import LexKit.Proofs.Scan.Divergence

/-!
Reading one token.

What a lexer does between two tokens can be followed on the text alone, as long as it keeps every
character that it passes.  `Automaton.Reads` says how the reading of one token ends, whatever the
cursor and the earlier tokens are.  `Config.Faces` is where it meets the configurations of a run.
-/

namespace LexKit

variable {κ : Type}

/-- What a transition does, apart from the inputs that it reacts to. -/
structure Action (κ : Type) where
  includes : Bool
  rereads : Bool
  disposition : Option (Disposition κ)
  deriving DecidableEq

/-- Pass a character and make it part of the token. -/
def Action.keep (disposition : Disposition κ) : Action κ := ⟨true, false, some disposition⟩

/-- Leave the input to be looked at again. -/
def Action.leave (disposition : Disposition κ) : Action κ := ⟨false, true, some disposition⟩

def Transition.action (transition : Transition κ) : Action κ :=
  ⟨transition.includes, transition.rereads, transition.disposition⟩

/-- What the automaton does in a state with an input, if it handles the input there. -/
def Automaton.action? (automaton : Automaton κ) (state : StateId) (input : Option Char) :
    Option (Action κ) :=
  (automaton.select? state input).map Transition.action

/-- What is done with an input by the first of several transitions that handles it. -/
def firstAction? : State κ → Option Char → Option (Action κ)
  | [], _ => none
  | transition :: later, input =>
      if transition.on.handles input then some transition.action else firstAction? later input

theorem Automaton.action?_eq_firstAction? (automaton : Automaton κ) (state : StateId)
    (input : Option Char) :
    automaton.action? state input = firstAction? (automaton.state state) input := by
  rw [action?, select?]
  induction automaton.state state with
  | nil => rfl
  | cons transition later inductionHypothesis =>
      rw [firstAction?, List.find?_cons]
      cases transition.on.handles input with
      | true => rfl
      | false => exact inductionHypothesis

inductive Reading (κ : Type) where
  /-- A token is finished in front of the rest of the text. -/
  | token (token : Token κ) (rest : Text)
  /-- A state can not deal with the front of the rest of the text. -/
  | fault (cause : FaultCause) (state : StateId) (rest : Text)
  deriving DecidableEq

namespace Automaton

/-- The reading of a token, from a state with `pending` collected and `ahead` left of the text. -/
inductive Reads (automaton : Automaton κ) : StateId → Text → Text → Reading κ → Prop where
  | keep {state target : StateId} {pending ahead : Text} {c : Char} {reading : Reading κ}
      (acts : automaton.action? state (some c) = some (.keep (.moveTo target)))
      (later : Reads automaton target (pending ++ [c]) ahead reading) :
      Reads automaton state pending (c :: ahead) reading
  | finish {state : StateId} {pending ahead : Text} {c : Char} {kind : κ}
      (acts : automaton.action? state (some c) = some (.keep (.emit kind))) :
      Reads automaton state pending (c :: ahead) (.token ⟨kind, pending ++ [c]⟩ ahead)
  | leave {state : StateId} {pending ahead : Text} {kind : κ} (inToken : state ≠ StateId.start)
      (acts : automaton.action? state ahead.head? = some (.leave (.emit kind))) :
      Reads automaton state pending ahead (.token ⟨kind, pending⟩ ahead)
  | refuse {state : StateId} {pending ahead : Text} {cause : FaultCause}
      (unfinished : ¬(state = StateId.start ∧ ahead = []))
      (refused : automaton.Refuses state ahead.head? cause) :
      Reads automaton state pending ahead (.fault cause state ahead)

variable {automaton : Automaton κ} {state target : StateId} {pending ahead rest text : Text}
  {c : Char} {kind : κ} {token : Token κ} {reading : Reading κ} {cause : FaultCause}
  {config : Config κ}

/-! ### Ways to read -/

namespace Reads

/-- Nothing is lost while a token is read. -/
theorem pending_append_ahead (reads : automaton.Reads state pending ahead (.token token rest)) :
    pending ++ ahead = token.value ++ rest := by
  generalize shape : Reading.token token rest = reading at reads
  induction reads with
  | keep acts later inductionHypothesis => simpa using inductionHypothesis shape
  | finish acts =>
      cases shape
      simp
  | leave inToken acts =>
      cases shape
      rfl
  | refuse => simp at shape

/-- A state that leads back to itself passes any number of characters. -/
theorem keep_all {passed : Text}
    (acts : ∀ c ∈ passed, automaton.action? state (some c) = some (.keep (.moveTo state)))
    (later : automaton.Reads state (pending ++ passed) ahead reading) :
    automaton.Reads state pending (passed ++ ahead) reading := by
  induction passed generalizing pending with
  | nil => simpa using later
  | cons c passed inductionHypothesis =>
      apply Reads.keep (acts c List.mem_cons_self)
      apply inductionHypothesis
      · intro other member
        exact acts other (List.mem_cons_of_mem _ member)
      · simpa using later

/-- A run of characters of one class goes on to the first character outside of it. -/
theorem keep_run {passed : Text} (inToken : state ≠ StateId.start)
    (stays : ∀ c ∈ passed, automaton.action? state (some c) = some (.keep (.moveTo state)))
    (leaves : automaton.action? state rest.head? = some (.leave (.emit kind))) :
    automaton.Reads state pending (passed ++ rest) (.token ⟨kind, pending ++ passed⟩ rest) :=
  keep_all stays (.leave inToken leaves)

theorem unmatched (inText : state ≠ StateId.start ∨ ahead ≠ [])
    (acts : automaton.action? state ahead.head? = none) :
    automaton.Reads state pending ahead (.fault (.unmatched ahead.head?) state ahead) :=
  .refuse (not_and_or.mpr inText) (.unmatched (by simpa [action?] using acts))

theorem fail {message : Text} (inToken : state ≠ StateId.start)
    (acts : automaton.action? state ahead.head? = some (.keep (.fail message))) :
    automaton.Reads state pending ahead (.fault (.explicit message) state ahead) := by
  obtain ⟨transition, selected, does⟩ := Option.map_eq_some_iff.mp acts
  simp only [Transition.action, Action.keep, Action.mk.injEq] at does
  exact .refuse (fun atStart => inToken atStart.1) (.explicit selected does.2.2)

end Reads

/-- A state whose only transition waits for one character. -/
theorem action?_of_state_eq {disposition : Disposition κ}
    (only : automaton.state state = [{ on := .oneOf [c], disposition := some disposition }])
    (input : Option Char) :
    automaton.action? state input =
      if input = some c then some (.keep disposition) else none := by
  rw [action?_eq_firstAction?, only]
  cases input with
  | none => rfl
  | some d =>
      simp only [firstAction?, CharClass.handles, CharClass.holds, List.contains_iff_mem,
        List.mem_singleton, Option.some.injEq]
      rfl

/-- A chain of consecutive states that spells a word and handles nothing else. -/
inductive Spells (automaton : Automaton κ) (kind : κ) : StateId → Text → Prop where
  | last {state : StateId} {c : Char} (inToken : state ≠ StateId.start)
      (only : automaton.state state = [{ on := .oneOf [c], disposition := some (.emit kind) }]) :
      Spells automaton kind state [c]
  | next {state : StateId} {c : Char} {word : Text} (inToken : state ≠ StateId.start)
      (only : automaton.state state =
        [{ on := .oneOf [c], disposition := some (.moveTo (state + 1)) }])
      (later : Spells automaton kind (state + 1) word) :
      Spells automaton kind state (c :: word)

theorem Spells.reads {word : Text} (spells : automaton.Spells kind state word) (rest : Text) :
    automaton.Reads state pending (word ++ rest) (.token ⟨kind, pending ++ word⟩ rest) := by
  induction spells generalizing pending with
  | @last state c inToken only =>
      apply Reads.finish
      rw [action?_of_state_eq only, if_pos rfl]
  | @next state c word inToken only later inductionHypothesis =>
      have later : automaton.Reads (state + 1) (pending ++ [c]) (word ++ rest)
          (.token ⟨kind, pending ++ [c] ++ word⟩ rest) := inductionHypothesis
      rw [List.append_assoc] at later
      exact .keep (by rw [action?_of_state_eq only, if_pos rfl]) later

/-- The text ahead starts with the word, or the chain stops where the two come apart. -/
theorem Spells.reads_cases {word : Text} (spells : automaton.Spells kind state word)
    (pending ahead : Text) :
    (∃ rest, ahead = word ++ rest) ∨
      ∃ spelled missing rest stop, word = spelled ++ missing ∧ ahead = spelled ++ rest ∧
        missing ≠ [] ∧ rest.head? ≠ missing.head? ∧
        automaton.Reads state pending ahead (.fault (.unmatched rest.head?) stop rest) := by
  induction spells generalizing pending ahead with
  | @last state c inToken only =>
      by_cases matched : ahead.head? = some c
      · obtain ⟨rest, rfl⟩ := List.head?_eq_some_iff.mp matched
        exact .inl ⟨rest, rfl⟩
      · refine .inr ⟨[], [c], ahead, state, rfl, rfl, by simp, matched, ?_⟩
        exact .unmatched (.inl inToken) (by rw [action?_of_state_eq only, if_neg matched])
  | @next state c word inToken only later inductionHypothesis =>
      by_cases matched : ahead.head? = some c
      · obtain ⟨ahead, rfl⟩ := List.head?_eq_some_iff.mp matched
        rcases inductionHypothesis (pending ++ [c]) ahead with
          ⟨rest, rfl⟩ | ⟨spelled, missing, rest, stop, rfl, rfl, unfinished, apart, reads⟩
        · exact .inl ⟨rest, rfl⟩
        · refine .inr ⟨c :: spelled, missing, rest, stop, rfl, rfl, unfinished, apart, ?_⟩
          exact .keep (by rw [action?_of_state_eq only, if_pos rfl]) reads
      · refine .inr ⟨[], c :: word, ahead, state, rfl, rfl, by simp, matched, ?_⟩
        exact .unmatched (.inl inToken) (by rw [action?_of_state_eq only, if_neg matched])

end Automaton

/-! ### From readings to runs -/

/-- A configuration over a text, by its state, by what is collected and by what is left. -/
structure Config.Faces (text : Text) (config : Config κ) (state : StateId)
    (pending ahead : Text) : Prop where
  state_eq : config.state = state
  pending_eq : config.pending.toList = pending
  within : Cursor.Within text config.cursor
  rest_eq : config.cursor.rest = ahead

namespace Config.Faces

variable {text pending ahead : Text} {config : Config κ} {state : StateId}

theorem initial (text : Text) :
    (Config.initial text : Config κ).Faces text StateId.start [] text :=
  ⟨rfl, rfl, .ofText text, rfl⟩

theorem peek?_eq (faces : config.Faces text state pending ahead) :
    config.cursor.peek? = ahead.head? := by
  rw [Cursor.peek?, faces.rest_eq]

theorem isDone_eq_false (faces : config.Faces text state pending ahead)
    (unfinished : ¬(state = StateId.start ∧ ahead = [])) : config.isDone = false := by
  rw [← faces.state_eq, ← faces.rest_eq] at unfinished
  rw [Bool.eq_false_iff, Ne, Config.isDone, Bool.and_eq_true, beq_iff_eq, Cursor.atEnd,
    List.isEmpty_iff]
  exact unfinished

theorem index_eq (faces : config.Faces text state pending ahead) :
    config.cursor.index = text.length - ahead.length := by
  have bounded := faces.within.1
  rw [← faces.rest_eq, faces.within.2, Cursor.index_after, Cursor.after, List.length_drop]
  omega

/-- Behind a character that was passed, with whatever state and characters come next. -/
theorem step {c : Char} (faces : config.Faces text state pending (c :: ahead)) (target : StateId)
    (collected : Array Char) (tokens : Array (Token κ)) :
    Config.Faces text ⟨target, config.cursor.step, collected, tokens⟩ target collected.toList ahead
    where
  state_eq := rfl
  pending_eq := rfl
  within := faces.within.step
  rest_eq := by simp [faces.rest_eq]

theorem restart (faces : config.Faces text state pending ahead) (tokens : Array (Token κ)) :
    Config.Faces text ⟨StateId.start, config.cursor, #[], tokens⟩ StateId.start [] ahead :=
  ⟨rfl, rfl, faces.within, faces.rest_eq⟩

end Config.Faces

namespace Automaton

variable {automaton : Automaton κ} {state target : StateId} {pending ahead rest text : Text}
  {c : Char} {kind : κ} {token : Token κ} {cause : FaultCause} {config : Config κ}

theorem step_of_keep {disposition : Disposition κ}
    (faces : config.Faces text state pending (c :: ahead))
    (acts : automaton.action? state (some c) = some (.keep disposition)) :
    automaton.step config =
      match disposition with
      | .moveTo target =>
          .running ⟨target, config.cursor.step, config.pending.push c, config.tokens⟩
      | .emit kind => .running ⟨StateId.start, config.cursor.step, #[],
          config.tokens.push ⟨kind, pending ++ [c]⟩⟩
      | .fail message => .failed (config.fault (.explicit message)) := by
  obtain ⟨transition, selected, does⟩ := Option.map_eq_some_iff.mp acts
  simp only [Transition.action, Action.keep, Action.mk.injEq] at does
  obtain ⟨included, passes, decided⟩ := does
  have notDone : config.isDone = false := faces.isDone_eq_false (by simp)
  have inText : config.cursor.atEnd = false := by simp [Cursor.atEnd, faces.rest_eq]
  have peeked : config.cursor.peek? = some c := faces.peek?_eq
  cases disposition <;>
    simp [Automaton.step, notDone, faces.state_eq, peeked, selected, Config.follow, decided,
      Config.consume, Config.enter, Config.finish, Config.proceed, inText, Transition.move, passes,
      Transition.collect, included, faces.pending_eq]

theorem step_of_leave (faces : config.Faces text state pending ahead)
    (inToken : state ≠ StateId.start)
    (acts : automaton.action? state ahead.head? = some (.leave (.emit kind))) :
    automaton.step config = .running ⟨StateId.start, config.cursor, #[],
      config.tokens.push ⟨kind, pending⟩⟩ := by
  obtain ⟨transition, selected, does⟩ := Option.map_eq_some_iff.mp acts
  simp only [Transition.action, Action.leave, Action.mk.injEq] at does
  obtain ⟨excluded, rereads, decided⟩ := does
  have notDone : config.isDone = false :=
    faces.isDone_eq_false fun atStart => inToken atStart.1
  simp [Automaton.step, notDone, faces.state_eq, faces.peek?_eq, selected, Config.follow, decided,
    Config.consume, Config.finish, Config.proceed, Transition.move, rereads, Transition.collect,
    excluded, faces.pending_eq]

end Automaton

end LexKit
