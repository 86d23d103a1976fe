import LexKit.Automaton.Dump
import LexKit.Lexers.Json
import LexKit.Proofs.Text.SelfDelimiting

/-!
The printed form of an automaton tells the automaton.

Every line begins with the number of a state and is read from the left: a class ends in front of a
blank, and the character behind that blank tells what comes next.  This is also what keeps letters
apart from letters or digits, whose name goes on behind a blank.  Listed characters and messages may
hold anything, since the quote that closes them is the first one without a backslash.
-/

namespace LexKit

variable {κ : Type}

/-! ### Classes and flags -/

/-- A blank and a mark out of the list, and then anything. -/
def Marked (marks text : Text) : Prop :=
  ∃ mark ∈ marks, ∃ rest, text = ' ' :: mark :: rest

/-- The marks that tell what happens next, and so stand behind all flags. -/
def endMarks : Text := ['-', '=', '!', '?']

namespace CharClass

theorem render_inj {left right : CharClass} {rest other : Text}
    (marked : Marked ('(' :: endMarks) rest) (otherMarked : Marked ('(' :: endMarks) other)
    (same : left.render ++ rest = right.render ++ other) : left = right ∧ rest = other := by
  obtain ⟨c, mark, rest, rfl⟩ := marked
  obtain ⟨d, otherMark, other, rfl⟩ := otherMarked
  have notOr : c ≠ 'o' := ne_of_mem_of_not_mem mark (by decide)
  have otherNotOr : 'o' ≠ d := (ne_of_mem_of_not_mem otherMark (by decide)).symm
  cases left <;> cases right <;> dsimp only [render] at same
  case oneOf.oneOf characters others =>
    simp only [List.append_assoc, List.cons_append, List.nil_append, List.cons.injEq,
      true_and] at same
    obtain ⟨rfl, sameBehind⟩ := EscapeStyle.strict.selfDelimiting.flatMap_append
      (EscapeStyle.strict.stops_quote _) (EscapeStyle.strict.stops_quote _) same
    exact ⟨rfl, (List.cons.inj sameBehind).2⟩
  -- All other names differ in some place, "letter" and "letter or digit" only behind the blank.
  all_goals
    simp only [String.reduceToList, List.cons_append, List.nil_append, List.cons.injEq,
      Char.reduceEq, notOr, otherNotOr, false_and, and_false, true_and] at same
  all_goals exact ⟨rfl, by rw [same.1, same.2]⟩

theorem newline_notMem_render (charClass : CharClass) : '\n' ∉ charClass.render := by
  cases charClass with
  | oneOf characters =>
      have inside : '\n' ∉ characters.flatMap escapeChar :=
        EscapeStyle.strict.newline_notMem_flatMap characters
      dsimp only [render]
      simpa using inside
  | _ => decide

theorem render_append_ne_paren (charClass : CharClass) (rest other : Text) :
    charClass.render ++ rest ≠ '(' :: other := by
  cases charClass <;> dsimp only [render] <;> simp

end CharClass

namespace Transition

theorem renderFlags_inj {left right : Transition κ} {rest other : Text}
    (marked : Marked endMarks rest) (otherMarked : Marked endMarks other)
    (same : left.renderFlags ++ rest = right.renderFlags ++ other) :
    left.includes = right.includes ∧ left.rereads = right.rereads ∧ rest = other := by
  obtain ⟨c, mark, rest, rfl⟩ := marked
  obtain ⟨d, otherMark, other, rfl⟩ := otherMarked
  have noParen : c ≠ '(' := ne_of_mem_of_not_mem mark (by decide)
  have otherNoParen : '(' ≠ d := (ne_of_mem_of_not_mem otherMark (by decide)).symm
  obtain ⟨_, leftIncludes, leftRereads, _⟩ := left
  obtain ⟨_, rightIncludes, rightRereads, _⟩ := right
  cases leftIncludes <;> cases leftRereads <;> cases rightIncludes <;> cases rightRereads <;>
    dsimp only [renderFlags] at same <;>
    simp only [String.reduceToList, List.cons_append, List.nil_append, List.cons.injEq,
      Char.reduceEq, noParen, otherNoParen, false_and, and_false, true_and] at same
  all_goals exact ⟨rfl, rfl, by rw [same.1, same.2]⟩

theorem newline_notMem_renderFlags (transition : Transition κ) :
    '\n' ∉ transition.renderFlags := by
  obtain ⟨_, includes, rereads, _⟩ := transition
  cases includes <;> cases rereads <;> dsimp only [renderFlags] <;> decide

theorem marked_renderFlags (transition : Transition κ) {rest : Text}
    (marked : Marked endMarks rest) :
    Marked ('(' :: endMarks) (transition.renderFlags ++ rest) := by
  obtain ⟨_, includes, rereads, _⟩ := transition
  match includes, rereads with
  | true, false =>
      obtain ⟨mark, member, behind, rfl⟩ := marked
      exact ⟨mark, List.mem_cons_of_mem _ member, behind, rfl⟩
  | false, false => exact ⟨'(', List.mem_cons_self, _, rfl⟩
  | false, true => exact ⟨'(', List.mem_cons_self, _, rfl⟩
  | true, true => exact ⟨'(', List.mem_cons_self, _, rfl⟩

end Transition

/-! ### Lines of an automaton -/

/-- What a line of the printed form tells: a state, and one of its transitions unless there are
none. -/
structure DumpLine (κ : Type) where
  state : StateId
  transition : Option (Transition κ)

namespace Automaton

def linesOf (id : StateId) (state : State κ) : List (DumpLine κ) :=
  match state with
  | [] => [⟨id, none⟩]
  | transitions => transitions.map fun transition => ⟨id, some transition⟩

/-- The lines of states that are numbered from some number on. -/
def linesFrom (first : StateId) (states : List (State κ)) : List (DumpLine κ) :=
  (states.zipIdx first).flatMap fun (state, id) => linesOf id state

theorem linesFrom_cons (first : StateId) (state : State κ) (states : List (State κ)) :
    linesFrom first (state :: states) = linesOf first state ++ linesFrom (first + 1) states := by
  simp [linesFrom]

theorem state_of_mem_linesOf {id : StateId} {state : State κ} {line : DumpLine κ}
    (member : line ∈ linesOf id state) : line.state = id := by
  cases state with
  | nil => rw [List.mem_singleton.mp member]
  | cons first transitions =>
      obtain ⟨transition, _, rfl⟩ := List.mem_map.mp member
      rfl

theorem le_state_of_mem_linesFrom {first : StateId} {states : List (State κ)} {line : DumpLine κ}
    (member : line ∈ linesFrom first states) : first ≤ line.state := by
  obtain ⟨⟨state, id⟩, place, inState⟩ := List.mem_flatMap.mp member
  rw [state_of_mem_linesOf inState]
  exact List.le_snd_of_mem_zipIdx place

theorem linesOf_ne_nil (id : StateId) (state : State κ) : linesOf id state ≠ [] := by
  cases state <;> simp [linesOf]

theorem linesOf_injective (id : StateId) :
    Function.Injective (linesOf id : State κ → List (DumpLine κ)) := by
  have line : Function.Injective fun transition : Transition κ =>
      DumpLine.mk id (some transition) := by
    intro left right same
    exact Option.some.inj (DumpLine.mk.inj same).2
  intro left right same
  cases left with
  | nil =>
      cases right with
      | nil => rfl
      | cons transition right => simp [linesOf] at same
  | cons transition left =>
      cases right with
      | nil => simp [linesOf] at same
      | cons other right => exact List.map_injective_iff.mpr line same

/-- The lines of a state are those that begin with its number. -/
theorem filter_linesFrom_cons (first : StateId) (state : State κ) (states : List (State κ)) :
    (linesFrom first (state :: states)).filter (·.state = first) = linesOf first state := by
  rw [linesFrom_cons, List.filter_append, List.filter_eq_self.mpr, List.filter_eq_nil_iff.mpr,
    List.append_nil]
  · intro line behind
    have later := le_state_of_mem_linesFrom behind
    simp only [decide_eq_true_eq]
    exact Nat.ne_of_gt later
  · intro line own
    simpa using state_of_mem_linesOf own

theorem linesFrom_injective (first : StateId) :
    Function.Injective (linesFrom first : List (State κ) → List (DumpLine κ)) := by
  intro left
  induction left generalizing first with
  | nil =>
      intro right same
      cases right with
      | nil => rfl
      | cons state right =>
          rw [linesFrom_cons] at same
          exact absurd (List.append_eq_nil_iff.mp same.symm).1 (linesOf_ne_nil first state)
  | cons state left inductionHypothesis =>
      intro right same
      cases right with
      | nil =>
          rw [linesFrom_cons] at same
          exact absurd (List.append_eq_nil_iff.mp same).1 (linesOf_ne_nil first state)
      | cons otherState right =>
          have sameState : state = otherState := by
            apply linesOf_injective first
            rw [← filter_linesFrom_cons, same, filter_linesFrom_cons]
          subst sameState
          rw [linesFrom_cons, linesFrom_cons] at same
          rw [inductionHypothesis _ (List.append_cancel_left same)]

end Automaton

/-! ### Transitions -/

variable [TokenKind κ]

/-- What happens behind a transition, as it is shown. -/
def renderEnd (disposition : Option (Disposition κ)) : Text :=
  match disposition with
  | some disposition => disposition.render
  | none => " ??".toList

theorem marked_renderEnd (disposition : Option (Disposition κ)) :
    Marked endMarks (renderEnd disposition) := by
  match disposition with
  | some (.moveTo _) => exact ⟨'-', by decide, _, rfl⟩
  | some (.emit _) => exact ⟨'=', by decide, _, rfl⟩
  | some (.fail _) => exact ⟨'!', by decide, _, rfl⟩
  | none => exact ⟨'?', by decide, _, rfl⟩

theorem renderEnd_injective (named : Function.Injective (TokenKind.name : κ → Text)) :
    Function.Injective (renderEnd : Option (Disposition κ) → Text) := by
  intro left right same
  rcases left with _ | state | kind | message <;>
    rcases right with _ | otherState | otherKind | otherMessage <;>
    dsimp only [renderEnd, Disposition.render, StateId.render] at same
  case none.none => rfl
  case some.moveTo.some.moveTo =>
    rw [Text.decimal_injective (List.cons.inj (List.append_cancel_left same)).2]
  case some.emit.some.emit =>
    rw [named (List.append_cancel_left same)]
  case some.fail.some.fail =>
    simp only [List.append_assoc] at same
    rw [(escapeText_quote_inj (List.append_cancel_left same)).1]
  all_goals
    simp only [String.reduceToList, List.cons_append, List.nil_append, List.cons.injEq,
      Char.reduceEq, false_and, and_false] at same

theorem StateId.newline_notMem_render (state : StateId) : '\n' ∉ state.render := by
  have noDigit : '\n' ∉ Text.decimal state := by
    intro member
    simpa using Text.isDigit_of_mem_decimal member
  simpa [render] using noDigit

theorem newline_notMem_renderEnd (oneLine : ∀ kind : κ, '\n' ∉ TokenKind.name kind)
    (disposition : Option (Disposition κ)) : '\n' ∉ renderEnd disposition := by
  rcases disposition with _ | state | kind | message <;>
    dsimp only [renderEnd, Disposition.render]
  · decide
  · simpa using StateId.newline_notMem_render state
  · simpa using oneLine kind
  · simpa using newline_notMem_escapeText message

namespace Transition

theorem render_eq (transition : Transition κ) :
    transition.render =
      transition.on.render ++ (transition.renderFlags ++ renderEnd transition.disposition) := by
  rw [render, List.append_assoc]
  rfl

theorem render_injective (named : Function.Injective (TokenKind.name : κ → Text)) :
    Function.Injective (render : Transition κ → Text) := by
  intro left right same
  have marked := marked_renderEnd left.disposition
  have otherMarked := marked_renderEnd right.disposition
  rw [render_eq, render_eq] at same
  obtain ⟨sameClass, sameBehind⟩ := CharClass.render_inj (left.marked_renderFlags marked)
    (right.marked_renderFlags otherMarked) same
  obtain ⟨sameIncludes, sameRereads, sameEnd⟩ := renderFlags_inj marked otherMarked sameBehind
  have sameDisposition := renderEnd_injective named sameEnd
  cases left
  cases right
  congr

theorem newline_notMem_render (oneLine : ∀ kind : κ, '\n' ∉ TokenKind.name kind)
    (transition : Transition κ) : '\n' ∉ transition.render := by
  rw [render_eq, List.mem_append, List.mem_append, not_or, not_or]
  exact ⟨transition.on.newline_notMem_render, transition.newline_notMem_renderFlags,
    newline_notMem_renderEnd oneLine transition.disposition⟩

theorem render_ne_paren (transition : Transition κ) (other : Text) :
    transition.render ≠ '(' :: other := by
  rw [render_eq]
  exact transition.on.render_append_ne_paren _ other

end Transition

/-! ### Printed lines -/

namespace DumpLine

def renderContent : Option (Transition κ) → Text
  | none => "(no transitions)".toList
  | some transition => transition.render

def render (line : DumpLine κ) : Text :=
  line.state.render ++ ": ".toList ++ renderContent line.transition

theorem renderContent_injective (named : Function.Injective (TokenKind.name : κ → Text)) :
    Function.Injective (renderContent : Option (Transition κ) → Text) := by
  intro left right same
  match left, right with
  | none, none => rfl
  | none, some transition => exact absurd same.symm (transition.render_ne_paren _)
  | some transition, none => exact absurd same (transition.render_ne_paren _)
  | some left, some right => rw [Transition.render_injective named same]

theorem render_injective (named : Function.Injective (TokenKind.name : κ → Text)) :
    Function.Injective (render : DumpLine κ → Text) := by
  have noColon (state : StateId) : ':' ∉ state.render := by
    have noDigit : ':' ∉ Text.decimal state := by
      intro member
      simpa using Text.isDigit_of_mem_decimal member
    simpa [StateId.render] using noDigit
  rintro ⟨state, transition⟩ ⟨otherState, otherTransition⟩ same
  simp only [render, List.append_assoc] at same
  obtain ⟨sameState, sameBehind⟩ := append_delimiter_inj (noColon state) (noColon otherState) same
  have sameNumber := Text.decimal_injective (List.cons.inj sameState).2
  have sameTransition := renderContent_injective named (List.cons.inj sameBehind).2
  rw [sameNumber, sameTransition]

theorem newline_notMem_render (oneLine : ∀ kind : κ, '\n' ∉ TokenKind.name kind)
    (line : DumpLine κ) : '\n' ∉ line.render := by
  have content : '\n' ∉ renderContent line.transition := by
    match line.transition with
    | none =>
        dsimp only [renderContent]
        decide
    | some transition => exact transition.newline_notMem_render oneLine
  rw [render, List.mem_append, List.mem_append, not_or, not_or]
  exact ⟨⟨line.state.newline_notMem_render, by decide⟩, content⟩

end DumpLine

namespace Automaton

theorem renderState_eq (id : StateId) (state : State κ) :
    renderState id state = (linesOf id state).flatMap fun line => Text.line line.render := by
  cases state with
  | nil =>
      have content : ": (no transitions)".toList = ": ".toList ++ "(no transitions)".toList := by
        decide
      dsimp only [renderState, linesOf]
      rw [List.flatMap_singleton, content, ← List.append_assoc]
      rfl
  | cons first transitions =>
      dsimp only [renderState, linesOf]
      rw [List.flatMap_map]
      rfl

theorem render_eq (automaton : Automaton κ) :
    automaton.render =
      (linesFrom 0 automaton.states).flatMap fun line => Text.line line.render := by
  rw [render, linesFrom, List.flatMap_assoc]
  simp only [renderState_eq]

end Automaton

/-- As long as kinds have names of their own, each on one line, two automata with the same printed
form are the same. -/
theorem automaton_render_injective (named : Function.Injective (TokenKind.name : κ → Text))
    (oneLine : ∀ kind : κ, '\n' ∉ TokenKind.name kind) :
    Function.Injective (Automaton.render : Automaton κ → Text) := by
  intro left right same
  rw [Automaton.render_eq, Automaton.render_eq] at same
  have delimiting : SelfDelimiting fun line : DumpLine κ => Text.line line.render :=
    selfDelimiting_line (DumpLine.render_injective named) (DumpLine.newline_notMem_render oneLine)
  have nonempty (line : DumpLine κ) : Text.line line.render ≠ [] := by
    simp [Text.line]
  have sameLines := delimiting.flatMap_injective nonempty same
  exact congrArg Automaton.mk (Automaton.linesFrom_injective 0 sameLines)

/-- A message and a list of characters that look like the rest of a transition. -/
def lookalike : Automaton Json.Kind :=
  ⟨[[⟨.letter, true, false, some (.fail "\" -> s1\n".toList)⟩,
      ⟨.oneOf "\" ??".toList, false, true, some (.moveTo 12)⟩,
      ⟨.letterOrDigit, true, true, none⟩], []]⟩

theorem lookalike_render_unique :
    lookalike.render = "s0: letter !! \"\\\" -> s1\\n\"
s0: \"\\\" ??\" (ignore, reread) -> s12
s0: letter or digit (reread) ??
s1: (no transitions)
".toList ∧
      ∀ automaton : Automaton Json.Kind, automaton.render = lookalike.render →
        automaton = lookalike := by
  refine ⟨by decide +kernel, ?_⟩
  intro automaton same
  refine automaton_render_injective ?_ ?_ same
  · intro left right
    cases left <;> cases right <;> decide
  · intro kind
    cases kind <;> decide

end LexKit
