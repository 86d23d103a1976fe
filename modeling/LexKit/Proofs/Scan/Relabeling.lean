import LexKit.Proofs.Scan.Divergence

/-!
Numbers and labels do not matter.

States are told apart by their transitions and by whether they are the start state, kinds not at
all.  If each state of one automaton has its transitions again in another, under new numbers for the
states and new labels for the kinds, then a run of the other is a run of the first under the new
labels, step by step.  Several states may share a new number, and not all numbers need be used.
-/

namespace LexKit

variable {κ ι : Type}

/-- New numbers for states and new labels for kinds. -/
structure Relabeling (κ ι : Type) where
  state : StateId → StateId
  kind : κ → ι

namespace Relabeling

variable (labels : Relabeling κ ι)

def disposition : Disposition κ → Disposition ι
  | .moveTo state => .moveTo (labels.state state)
  | .emit kind => .emit (labels.kind kind)
  | .fail message => .fail message

def transition (old : Transition κ) : Transition ι where
  on := old.on
  includes := old.includes
  rereads := old.rereads
  disposition := old.disposition.map labels.disposition

def token (old : Token κ) : Token ι :=
  ⟨labels.kind old.kind, old.value⟩

def fault (old : Fault) : Fault :=
  { old with state := labels.state old.state }

def config (old : Config κ) : Config ι :=
  ⟨labels.state old.state, old.cursor, old.pending, old.tokens.map labels.token⟩

def progress : Progress κ → Progress ι
  | .running config => .running (labels.config config)
  | .finished tokens => .finished (tokens.map labels.token)
  | .failed fault => .failed (labels.fault fault)

def outcome : Outcome κ → Outcome ι
  | .accepted tokens => .accepted (tokens.map labels.token)
  | .rejected fault => .rejected (labels.fault fault)
  | .divergent => .divergent

/-- Each state of an automaton has its transitions again in another one, under the new labels.  The
start state, and no other state, becomes the start state. -/
structure Carries (source : Automaton κ) (target : Automaton ι) : Prop where
  state_lt : ∀ id < source.size, labels.state id < target.size
  start_iff : ∀ id < source.size, labels.state id = StateId.start ↔ id = StateId.start
  state_eq : ∀ id < source.size,
    target.state (labels.state id) = (source.state id).map labels.transition

/-! ### One step -/

@[simp]
theorem move_transition (old : Transition κ) (cursor : Cursor) :
    (labels.transition old).move cursor = old.move cursor := rfl

@[simp]
theorem collect_transition (old : Transition κ) (input : Option Char) (pending : Array Char) :
    (labels.transition old).collect input pending = old.collect input pending := rfl

theorem enter_config (old : Config κ) (taken : Transition κ) (state : StateId) :
    ((labels.config old).consume (labels.transition taken)).enter (labels.state state) =
      labels.config ((old.consume taken).enter state) := rfl

/-- A finished token leads back to the start state, whose number must stay as it is for this. -/
theorem finish_config (start : labels.state StateId.start = StateId.start) (old : Config κ)
    (taken : Transition κ) (kind : κ) :
    ((labels.config old).consume (labels.transition taken)).finish (labels.kind kind) =
      labels.config ((old.consume taken).finish kind) := by
  simp [config, Config.consume, Config.finish, token, start]

theorem proceed_config (old : Config κ) (ended : Bool) :
    (labels.config old).proceed ended = labels.progress (old.proceed ended) := by
  cases ended with
  | false => rfl
  | true => simp [Config.proceed, progress, config]

theorem follow_config (start : labels.state StateId.start = StateId.start) (old : Config κ)
    (taken : Transition κ) :
    (labels.config old).follow (labels.transition taken) =
      labels.progress (old.follow taken) := by
  have relabeled : (labels.transition taken).disposition =
      taken.disposition.map labels.disposition := rfl
  unfold Config.follow
  rw [relabeled]
  cases taken.disposition with
  | none => rfl
  | some disposition =>
      cases disposition with
      | moveTo state =>
          simp only [Option.map_some, Relabeling.disposition]
          rw [labels.enter_config, labels.proceed_config]
          rfl
      | emit kind =>
          simp only [Option.map_some, Relabeling.disposition]
          rw [labels.finish_config start, labels.proceed_config]
          rfl
      | fail message => rfl

theorem outcome?_progress (progress : Progress κ) :
    (labels.progress progress).outcome? = progress.outcome?.map labels.outcome := by
  cases progress <;> rfl

namespace Carries

variable {labels : Relabeling κ ι} {source : Automaton κ} {target : Automaton ι} {text : Text}
  {old : Config κ} {round : Nat}

theorem select?_eq (carries : labels.Carries source target) {id : StateId}
    (inside : id < source.size) (input : Option Char) :
    target.select? (labels.state id) input =
      (source.select? id input).map labels.transition := by
  rw [Automaton.select?, carries.state_eq id inside, List.find?_map]
  rfl

theorem isDone_eq (carries : labels.Carries source target) (inside : old.state < source.size) :
    (labels.config old).isDone = old.isDone := by
  have sameStart : (labels.state old.state == StateId.start) = (old.state == StateId.start) := by
    rw [Bool.eq_iff_iff, beq_iff_eq, beq_iff_eq]
    exact carries.start_iff old.state inside
  rw [Config.isDone, Config.isDone, ← sameStart]
  rfl

theorem state_start (carries : labels.Carries source target) (wellFormed : source.WellFormed) :
    labels.state StateId.start = StateId.start :=
  (carries.start_iff StateId.start wellFormed.start_lt).mpr rfl

theorem step_eq (carries : labels.Carries source target) (wellFormed : source.WellFormed)
    (inside : old.state < source.size) :
    target.step (labels.config old) = labels.progress (source.step old) := by
  have selection : target.select? (labels.config old).state (labels.config old).cursor.peek? =
      (source.select? old.state old.cursor.peek?).map labels.transition :=
    carries.select?_eq inside _
  rw [Automaton.step, Automaton.step, carries.isDone_eq inside, selection]
  cases old.isDone with
  | true => simp [progress, config]
  | false =>
      cases source.select? old.state old.cursor.peek? with
      | none => rfl
      | some taken => exact labels.follow_config (carries.state_start wellFormed) old taken

/-! ### Whole runs -/

theorem config_initial (carries : labels.Carries source target) (wellFormed : source.WellFormed)
    (text : Text) : labels.config (.initial text) = .initial text := by
  simp [config, Config.initial, carries.state_start wellFormed]

theorem atRound?_eq (carries : labels.Carries source target) (wellFormed : source.WellFormed)
    (inside : old.Inside source text) (round : Nat) :
    target.atRound? round (labels.config old) =
      (source.atRound? round old).map labels.config := by
  induction round generalizing old with
  | zero => rfl
  | succ round inductionHypothesis =>
      have stepped := carries.step_eq wellFormed inside.state_lt
      cases step : source.step old with
      | running next =>
          obtain ⟨transition, taken⟩ := Automaton.exists_takes_of_step step
          simp only [step, progress] at stepped
          simp only [Automaton.atRound?, step, stepped]
          exact inductionHypothesis (inside.next wellFormed taken)
      | finished tokens =>
          simp only [step, progress] at stepped
          simp [Automaton.atRound?, step, stepped]
      | failed fault =>
          simp only [step, progress] at stepped
          simp [Automaton.atRound?, step, stepped]

theorem atRound?_initial (carries : labels.Carries source target)
    (wellFormed : source.WellFormed) (text : Text) (round : Nat) :
    target.atRound? round (.initial text) =
      (source.atRound? round (.initial text)).map labels.config := by
  rw [← carries.config_initial wellFormed text]
  exact carries.atRound?_eq wellFormed (Config.inside_initial wellFormed text) round

/-- With the same number of steps to spend, both runs end or neither does. -/
theorem runFor_eq (carries : labels.Carries source target) (wellFormed : source.WellFormed)
    (inside : old.Inside source text) (fuel : Nat) :
    target.runFor fuel (labels.config old) = labels.outcome (source.runFor fuel old) := by
  induction fuel generalizing old with
  | zero => rfl
  | succ fuel inductionHypothesis =>
      have stepped := carries.step_eq wellFormed inside.state_lt
      cases step : source.step old with
      | running next =>
          obtain ⟨transition, taken⟩ := Automaton.exists_takes_of_step step
          simp only [step, progress] at stepped
          simp only [Automaton.runFor, step, stepped]
          exact inductionHypothesis (inside.next wellFormed taken)
      | finished tokens =>
          simp only [step, progress] at stepped
          simp only [Automaton.runFor, step, stepped, outcome]
      | failed fault =>
          simp only [step, progress] at stepped
          simp only [Automaton.runFor, step, stepped, outcome]

theorem runsForever_iff (carries : labels.Carries source target)
    (wellFormed : source.WellFormed) : target.RunsForever text ↔ source.RunsForever text := by
  simp [Automaton.RunsForever, carries.atRound?_initial wellFormed]

theorem endsIn (carries : labels.Carries source target) (wellFormed : source.WellFormed)
    {result : Outcome κ} (ends : source.EndsIn text round result) :
    target.EndsIn text round (labels.outcome result) := by
  obtain ⟨last, reached, ended⟩ := ends
  have inside := Automaton.inside_of_atRound? wellFormed
    (Config.inside_initial wellFormed text) reached
  refine ⟨labels.config last, ?_, ?_⟩
  · rw [carries.atRound?_initial wellFormed, reached]
    rfl
  · rw [carries.step_eq wellFormed inside.state_lt, outcome?_progress, ended]
    rfl

end Carries

end Relabeling

/-- New labels that carry one well-formed automaton to another carry its outcomes: the other runs
for ever on the same texts, finds the same tokens under the new labels of their kinds, or the same
fault under the new number of its state. -/
theorem tokenize_relabeled {labels : Relabeling κ ι} {source : Automaton κ} {target : Automaton ι}
    (wellFormed : source.WellFormed) (targetWellFormed : target.WellFormed)
    (carries : labels.Carries source target) (text : Text) :
    (target.RunsForever text ↔ source.RunsForever text) ∧
      target.tokenize text = labels.outcome (source.tokenize text) := by
  refine ⟨carries.runsForever_iff wellFormed, ?_⟩
  by_cases divergent : source.tokenize text = .divergent
  · have forever := Automaton.runsForever_of_tokenize wellFormed divergent
    rw [((carries.runsForever_iff wellFormed).mpr forever).tokenize_eq, divergent]
    rfl
  · obtain ⟨round, _, ends⟩ := Automaton.exists_endsIn_of_tokenize divergent
    exact (carries.endsIn wellFormed ends).tokenize_eq targetWellFormed

/-- Letters and digits are tokens of two kinds, each read in a state that refuses a mark. -/
def lettersAndDigits : List (Call Nat) :=
  [.on 0 .letter, .moveToNew 0, .on 0 .digit, .moveToNew 1,
    .on 1 (.oneOf ['!']), .fail 2 "mark".toList, .on 1 .any, .rewind 3, .emit 3 7,
    .on 2 (.oneOf ['!']), .fail 4 "mark".toList, .on 2 .any, .rewind 5, .emit 5 8]

/-- Letters and digits are tokens of one kind, read in one state. -/
def characters : List (Call Bool) :=
  [.on 0 .letter, .moveToNew 0, .on 0 .digit, .moveTo 1 1,
    .on 1 (.oneOf ['!']), .fail 2 "mark".toList, .on 1 .any, .rewind 3, .emit 3 true]

/-- The two states become one, and the two kinds as well. -/
def merging : Relabeling Nat Bool where
  state := min 1
  kind _ := true

theorem characters_relabeled :
    merging.Carries (Call.automaton lettersAndDigits) (Call.automaton characters) ∧
      (Call.automaton lettersAndDigits).tokenize "a1".toList =
        .accepted [⟨7, "a".toList⟩, ⟨8, "1".toList⟩] ∧
      (Call.automaton characters).tokenize "a1".toList =
        .accepted [⟨true, "a".toList⟩, ⟨true, "1".toList⟩] ∧
      (Call.automaton lettersAndDigits).tokenize "a1!".toList =
        .rejected ⟨.explicit "mark".toList, ⟨1, 2⟩, 2, 2⟩ ∧
      (Call.automaton characters).tokenize "a1!".toList =
        .rejected ⟨.explicit "mark".toList, ⟨1, 2⟩, 2, 1⟩ := by
  have carries : merging.Carries (Call.automaton lettersAndDigits) (Call.automaton characters) :=
    ⟨by decide, by decide, by decide⟩
  have accepted : (Call.automaton lettersAndDigits).tokenize "a1".toList =
      .accepted [⟨7, "a".toList⟩, ⟨8, "1".toList⟩] := by decide
  have rejected : (Call.automaton lettersAndDigits).tokenize "a1!".toList =
      .rejected ⟨.explicit "mark".toList, ⟨1, 2⟩, 2, 2⟩ := by decide
  have same (text : Text) := (tokenize_relabeled (Call.automaton_wellFormed lettersAndDigits)
    (Call.automaton_wellFormed characters) carries text).2
  refine ⟨carries, accepted, ?_, rejected, ?_⟩
  · rw [same, accepted]
    rfl
  · rw [same, rejected]
    rfl

end LexKit
