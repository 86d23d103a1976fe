import LexKit.Program.Arguments
import Mathlib.Data.List.Induction
import Mathlib.Data.List.Nodup

/-!
Command lines read back.

A command line is put together from parts: a flag, the choice of a lexer in one of five forms, or
the path of the input.  The parts may come in any order, and the path may also stand behind a double
hyphen at the end.  Whatever options are written down that way, reading the command line gives them
back; and wherever help or the version is asked for between two parts, that is what is answered,
whatever follows.
-/

namespace LexKit

/-! ### Ways to write options -/

/-- The ways to give a lexer by its name. -/
inductive LexerForm where
  | short
  | shortJoined
  | shortEquals
  | long
  | longEquals
  deriving DecidableEq

def LexerForm.arguments (name : Text) : LexerForm → List Text
  | short => ["-l".toList, name]
  | shortJoined => ["-l".toList ++ name]
  | shortEquals => ["-l=".toList ++ name]
  | long => ["--lexer".toList, name]
  | longEquals => ["--lexer=".toList ++ name]

/-- Arguments that stand together on a command line. -/
inductive CommandPart where
  | flag (switch : Switch)
  | choice (lexer : Lexer) (form : LexerForm)
  | input (path : Text)
  deriving DecidableEq

namespace CommandPart

def arguments : CommandPart → List Text
  | flag switch => ["--".toList ++ switch.name]
  | choice lexer form => form.arguments lexer.name
  | input path => [path]

def switch? : CommandPart → Option Switch
  | flag switch => some switch
  | choice _ _ => some .lexer
  | input _ => none

def lexerName? : CommandPart → Option Text
  | choice lexer _ => some lexer.name
  | flag _ | input _ => none

def path? : CommandPart → Option Text
  | input path => some path
  | flag _ | choice _ _ => none

end CommandPart

/-- A text that is not taken for a switch: a lone hyphen, or anything that begins with none. -/
def IsPlain (argument : Text) : Prop :=
  argument = ['-'] ∨ argument.head? ≠ some '-'

namespace Options

/-- Whether a flag is set.  The choice of a lexer is no flag. -/
def isSet (options : Options) : Switch → Bool
  | .automaton => options.automaton
  | .check => options.check
  | .json => options.json
  | .keepTrivia => options.keepTrivia
  | .lexer => false

def flags (options : Options) : List Switch :=
  Switch.all.filter options.isSet

/-- The parts for the flags that are set and for the lexer, if it is given in some form. -/
def switchParts (options : Options) (form : Option LexerForm) : List CommandPart :=
  options.flags.map .flag ++ form.toList.map (.choice options.lexer)

/-- The parts for everything, the path among them. -/
def parts (options : Options) (form : Option LexerForm) : List CommandPart :=
  options.switchParts form ++ options.input.toList.map .input

/-- The ways to write options: parts in any order, and what stands behind them.  Only the standard
lexer need not be given. -/
inductive WrittenAs (options : Options) : List CommandPart → List Text → Prop where
  /-- The path, if there is one, stands anywhere among the switches. -/
  | among {form parts} (named : form = none → options.lexer = .standard)
      (plain : ∀ path ∈ options.input, IsPlain path) (order : parts.Perm (options.parts form)) :
      WrittenAs options parts []
  /-- The path stands behind a double hyphen, where it can be any text. -/
  | behind {form parts path} (named : form = none → options.lexer = .standard)
      (given : options.input = some path) (order : parts.Perm (options.switchParts form)) :
      WrittenAs options parts ["--".toList, path]

end Options

/-- The requests that are answered as soon as they are met, with their answers. -/
def Command.requests : List (Text × Command) :=
  [("-h".toList, .help), ("--help".toList, .help),
    ("-V".toList, .version), ("--version".toList, .version)]

/-! ### One argument -/

namespace ArgumentState

variable {state next : ArgumentState}

theorem read_of_isPlain {argument : Text} (going : state.switchesEnded = false)
    (plain : IsPlain argument) :
    state.read argument =
      if state.awaitsLexer then
        .ok { state with lexerNames := state.lexerNames ++ [argument], awaitsLexer := false }
      else state.readInput argument := by
  rcases plain with rfl | begins
  · simp [ArgumentState.read, going]
  · cases argument with
    | nil => simp [ArgumentState.read, going]
    | cons c rest =>
        have different : c ≠ '-' := by simpa using begins
        simp [ArgumentState.read, going, different]

theorem read_short (going : state.switchesEnded = false) {letter : Char} (hyphen : letter ≠ '-')
    (value : Text) : state.read ('-' :: letter :: value) = state.readShort letter value := by
  simp [ArgumentState.read, going, hyphen]

theorem read_long (going : state.switchesEnded = false) {c : Char} (hyphen : c ≠ '-')
    (rest : Text) : state.read ('-' :: '-' :: c :: rest) = state.readLong (c :: rest) := by
  simp [ArgumentState.read, going, hyphen]

theorem read_flag (going : state.switchesEnded = false) {switch : Switch}
    (isFlag : switch ≠ .lexer) :
    state.read ("--".toList ++ switch.name) =
      .ok { state with used := state.used ++ [switch], awaitsLexer := false } := by
  -- Each flag is found under its own name.
  cases switch with
  | automaton => exact read_long going (by decide) _
  | check => exact read_long going (by decide) _
  | json => exact read_long going (by decide) _
  | lexer => exact absurd rfl isFlag
  | keepTrivia => exact read_long going (by decide) _

theorem addLexer_some {c : Char} (equals : c ≠ '=') (rest : Text) :
    state.addLexer (some (c :: rest)) =
      { state with
        used := state.used ++ [.lexer]
        lexerNames := state.lexerNames ++ [c :: rest]
        awaitsLexer := false } := by
  simp [addLexer, equals]

theorem addLexer_equals (value : Text) :
    state.addLexer (some ('=' :: value)) = state.addLexer (some value) := by
  simp [addLexer]

/-- The argument behind a switch that waits for a lexer is the name of one. -/
theorem read_awaited (going : state.switchesEnded = false) {c : Char} (hyphen : c ≠ '-')
    (equals : c ≠ '=') (rest : Text) :
    (state.addLexer none).read (c :: rest) = .ok (state.addLexer (some (c :: rest))) := by
  have stillGoing : (state.addLexer none).switchesEnded = false := going
  have plain : IsPlain (c :: rest) := .inr (by simpa using hyphen)
  rw [read_of_isPlain stillGoing plain, addLexer_some equals]
  simp [addLexer]

/-! ### Several arguments -/

theorem foldlM_cons {argument : Text} {arguments : List Text}
    (first : state.read argument = .ok next) :
    (argument :: arguments).foldlM ArgumentState.read state =
      arguments.foldlM ArgumentState.read next := by
  rw [List.foldlM_cons, first]
  rfl

theorem foldlM_singleton {argument : Text} (only : state.read argument = .ok next) :
    [argument].foldlM ArgumentState.read state = .ok next :=
  foldlM_cons only

theorem foldlM_append {first second : List Text}
    (done : first.foldlM ArgumentState.read state = .ok next) :
    (first ++ second).foldlM ArgumentState.read state =
      second.foldlM ArgumentState.read next := by
  rw [List.foldlM_append, done]
  rfl

/-- A name that begins neither with a hyphen nor with an equals sign is read in every form. -/
theorem foldlM_lexer (going : state.switchesEnded = false) {c : Char} (hyphen : c ≠ '-')
    (equals : c ≠ '=') (rest : Text) (form : LexerForm) :
    (form.arguments (c :: rest)).foldlM ArgumentState.read state =
      .ok (state.addLexer (some (c :: rest))) := by
  cases form with
  | short =>
      have switch : state.read "-l".toList = .ok (state.addLexer none) :=
        read_short going (by decide) []
      rw [LexerForm.arguments, foldlM_cons switch]
      exact foldlM_singleton (read_awaited going hyphen equals rest)
  | shortJoined =>
      have switch : state.read ("-l".toList ++ c :: rest) =
          .ok (state.addLexer (some (c :: rest))) :=
        read_short going (by decide) (c :: rest)
      exact foldlM_singleton switch
  | shortEquals =>
      have switch : state.read ("-l=".toList ++ c :: rest) =
          .ok (state.addLexer (some ('=' :: c :: rest))) :=
        read_short going (by decide) ('=' :: c :: rest)
      rw [addLexer_equals] at switch
      exact foldlM_singleton switch
  | long =>
      have switch : state.read "--lexer".toList = .ok (state.addLexer none) :=
        read_long going (by decide) _
      rw [LexerForm.arguments, foldlM_cons switch]
      exact foldlM_singleton (read_awaited going hyphen equals rest)
  | longEquals =>
      have switch : state.read ("--lexer=".toList ++ c :: rest) =
          .ok (state.addLexer (some (c :: rest))) :=
        read_long going (by decide) _
      exact foldlM_singleton switch

/-- What has been read of a command line behind some of its parts. -/
def ofParts (parts : List CommandPart) : ArgumentState :=
  { used := parts.filterMap (·.switch?)
    lexerNames := parts.filterMap (·.lexerName?)
    input := (parts.filterMap (·.path?)).head? }

end ArgumentState

/-- Parts that can be read one after the other: the switch for the lexer comes with a name, and
there is at most one path, which is not taken for a switch. -/
structure CommandPart.Readable (parts : List CommandPart) : Prop where
  flags : .flag .lexer ∉ parts
  plain : ∀ path ∈ parts.filterMap (·.path?), IsPlain path
  once : (parts.filterMap (·.path?)).length ≤ 1

namespace CommandPart.Readable

variable {parts others : List CommandPart}

theorem of_sublist (readable : Readable parts) (sublist : others.Sublist parts) :
    Readable others where
  flags := fun member => readable.flags (sublist.subset member)
  plain := fun path member => readable.plain path ((sublist.filterMap _).subset member)
  once := Nat.le_trans (sublist.filterMap _).length_le readable.once

theorem of_perm (readable : Readable parts) (order : others.Perm parts) : Readable others where
  flags := fun member => readable.flags (order.mem_iff.mp member)
  plain := fun path member => readable.plain path ((order.filterMap _).mem_iff.mp member)
  once := by
    rw [(order.filterMap _).length_eq]
    exact readable.once

end CommandPart.Readable

theorem Lexer.exists_name_eq (lexer : Lexer) :
    ∃ c rest, lexer.name = c :: rest ∧ c ≠ '-' ∧ c ≠ '=' := by
  cases lexer with
  | arithmetic => exact ⟨_, _, rfl, by decide, by decide⟩
  | json => exact ⟨_, _, rfl, by decide, by decide⟩

namespace ArgumentState

variable {parts : List CommandPart}

theorem foldlM_part {part : CommandPart} (readable : CommandPart.Readable (parts ++ [part])) :
    part.arguments.foldlM ArgumentState.read (ofParts parts) = .ok (ofParts (parts ++ [part])) := by
  cases part with
  | flag switch =>
      have isFlag : switch ≠ .lexer := by
        rintro rfl
        exact readable.flags (by simp)
      have noted : ofParts (parts ++ [.flag switch]) =
          { ofParts parts with used := (ofParts parts).used ++ [switch] } := by
        simp [ofParts, CommandPart.switch?, CommandPart.lexerName?, CommandPart.path?]
      rw [noted]
      exact foldlM_singleton (read_flag rfl isFlag)
  | choice lexer form =>
      obtain ⟨c, rest, named, hyphen, equals⟩ := lexer.exists_name_eq
      have noted : ofParts (parts ++ [.choice lexer form]) =
          (ofParts parts).addLexer (some (c :: rest)) := by
        rw [addLexer_some equals]
        simp [ofParts, CommandPart.switch?, CommandPart.lexerName?, CommandPart.path?, named]
      rw [CommandPart.arguments, named, foldlM_lexer rfl hyphen equals, noted]
  | input path =>
      have plain : IsPlain path := readable.plain path (by simp [CommandPart.path?])
      have first : parts.filterMap (·.path?) = [] := by
        simpa [CommandPart.path?] using readable.once
      have noted : ofParts (parts ++ [.input path]) =
          { ofParts parts with input := some path } := by
        simp only [ofParts, List.filterMap_append, first]
        simp [CommandPart.switch?, CommandPart.lexerName?, CommandPart.path?]
      have free : (ofParts parts).readInput path =
          .ok { ofParts parts with input := some path } := by
        simp [readInput, ofParts, first]
      have passed : (ofParts parts).read path = .ok (ofParts (parts ++ [.input path])) := by
        rw [read_of_isPlain rfl plain, noted, ← free]
        rfl
      exact foldlM_singleton passed

theorem foldlM_parts (readable : CommandPart.Readable parts) :
    (parts.flatMap (·.arguments)).foldlM ArgumentState.read {} = .ok (ofParts parts) := by
  -- What has been read is told by all parts so far, so the induction takes parts off the end.
  induction parts using List.reverseRecOn with
  | nil => rfl
  | append_singleton parts part inductionHypothesis =>
      have front := inductionHypothesis (readable.of_sublist (List.sublist_append_left _ _))
      rw [List.flatMap_append, foldlM_append front, List.flatMap_singleton]
      exact foldlM_part readable

end ArgumentState

/-! ### Whole command lines -/

theorem Switch.mem_all (switch : Switch) : switch ∈ all := by
  cases switch <;> decide

/-- A list in the order of another one that holds at most one value. -/
theorem eq_toList_of_perm {α : Type} {list : List α} {value : Option α}
    (order : list.Perm value.toList) : list = value.toList := by
  cases value with
  | none => exact List.perm_nil.mp order
  | some value => exact List.perm_singleton.mp order

namespace Options

variable {options : Options} {form : Option LexerForm} {parts : List CommandPart}

theorem mem_flags {switch : Switch} : switch ∈ options.flags ↔ options.isSet switch = true := by
  simp [flags, Switch.mem_all]

theorem lexer_notMem_flags : .lexer ∉ options.flags := by
  simp [mem_flags, isSet]

theorem nodup_flags : options.flags.Nodup := by
  have distinct : Switch.all.Nodup := by decide
  exact distinct.filter _

theorem switches_parts :
    (options.parts form).filterMap (·.switch?) =
      options.flags ++ (form.map fun _ => Switch.lexer).toList := by
  cases form <;> cases given : options.input <;>
    simp [Options.parts, switchParts, given, CommandPart.switch?, List.filterMap_map]

theorem lexerNames_parts :
    (options.parts form).filterMap (·.lexerName?) =
      (form.map fun _ => options.lexer.name).toList := by
  cases form <;> cases given : options.input <;>
    simp [Options.parts, switchParts, given, CommandPart.lexerName?, List.filterMap_map]

theorem paths_parts : (options.parts form).filterMap (·.path?) = options.input.toList := by
  cases form <;> cases given : options.input <;>
    simp [Options.parts, switchParts, given, CommandPart.path?, List.filterMap_map]

theorem readable_of_perm (plain : ∀ path ∈ options.input, IsPlain path)
    (order : parts.Perm (options.parts form)) : CommandPart.Readable parts := by
  refine CommandPart.Readable.of_perm ⟨?_, ?_, ?_⟩ order
  · simp [Options.parts, switchParts, lexer_notMem_flags]
  · intro path member
    rw [paths_parts, Option.mem_toList] at member
    exact plain path member
  · rw [paths_parts]
    exact Option.length_toList_le

end Options

namespace ArgumentState

variable {state : ArgumentState} {options : Options} {form : Option LexerForm}

theorem repeated?_eq_none (distinct : state.used.Nodup) : state.repeated? = none := by
  rw [repeated?, List.find?_eq_none]
  intro switch _
  have once := List.nodup_iff_count_le_one.mp distinct switch
  simpa using once

/-- Everything has been read that the options consist of, the lexer perhaps in some form. -/
structure Holds (state : ArgumentState) (options : Options) (form : Option LexerForm) : Prop where
  used : state.used.Perm (options.flags ++ (form.map fun _ => Switch.lexer).toList)
  lexerNames : state.lexerNames = (form.map fun _ => options.lexer.name).toList
  input : state.input = options.input

namespace Holds

theorem nodup_used (holds : state.Holds options form) : state.used.Nodup := by
  rw [holds.used.nodup_iff, List.nodup_append']
  refine ⟨options.nodup_flags, ?_, ?_⟩
  · cases form <;> simp
  · cases form with
    | none => simp
    | some form => simpa using options.lexer_notMem_flags

theorem contains_used (holds : state.Holds options form) {switch : Switch}
    (isFlag : switch ≠ .lexer) : state.used.contains switch = options.isSet switch := by
  have absent : switch ∉ (form.map fun _ => Switch.lexer).toList := by
    cases form with
    | none => simp
    | some form => simpa using isFlag
  rw [Bool.eq_iff_iff, List.contains_iff_mem, holds.used.mem_iff, List.mem_append,
    or_iff_left absent, Options.mem_flags]

theorem toOptions_eq (holds : state.Holds options form) :
    state.toOptions options.lexer = options := by
  rw [toOptions, holds.contains_used (by decide), holds.contains_used (by decide),
    holds.contains_used (by decide), holds.contains_used (by decide), holds.input]
  rfl

theorem finish_eq (holds : state.Holds options form)
    (named : form = none → options.lexer = .standard) : state.finish = .ok options := by
  have once := repeated?_eq_none holds.nodup_used
  -- A value is missing only behind a switch for the lexer, and each form brings one.
  cases form with
  | none =>
      have unused : .lexer ∉ state.used := by
        rw [holds.used.mem_iff]
        simpa using options.lexer_notMem_flags
      have whole := holds.toOptions_eq
      rw [named rfl] at whole
      simp [finish, unused, once, holds.lexerNames, whole]
  | some form =>
      have found : Lexer.ofName? options.lexer.name = some options.lexer := by
        cases options.lexer <;> rfl
      simp [finish, once, holds.lexerNames, found, holds.toOptions_eq]

end Holds

variable {parts : List CommandPart}

theorem holds_ofParts (order : parts.Perm (options.parts form)) :
    (ofParts parts).Holds options form where
  used := by
    have switches := order.filterMap (·.switch?)
    rwa [Options.switches_parts] at switches
  lexerNames := by
    have names := order.filterMap (·.lexerName?)
    rw [Options.lexerNames_parts] at names
    exact eq_toList_of_perm names
  input := by
    have paths := order.filterMap (·.path?)
    rw [Options.paths_parts] at paths
    rw [ofParts, eq_toList_of_perm paths, Option.head?_toList]

end ArgumentState

namespace Command

variable {arguments : List Text}

theorem parse_of_ok {state : ArgumentState} {options : Options}
    (read : arguments.foldlM ArgumentState.read {} = .ok state)
    (finished : state.finish = .ok options) : parse arguments = .ok (.run options) := by
  rw [parse, read]
  simp [finished, Except.map]

/-- Behind parts that can be read, an argument that ends the reading hides what follows it. -/
theorem foldlM_of_error {parts : List CommandPart} (readable : CommandPart.Readable parts)
    {argument : Text} {early : EarlyEnd}
    (met : (ArgumentState.ofParts parts).read argument = .error early) (following : List Text) :
    (parts.flatMap (·.arguments) ++ argument :: following).foldlM ArgumentState.read {} =
      .error early := by
  rw [ArgumentState.foldlM_append (ArgumentState.foldlM_parts readable), List.foldlM_cons, met]
  rfl

theorem parse_request {parts : List CommandPart} (readable : CommandPart.Readable parts)
    {request : Text × Command} (asked : request ∈ requests) (following : List Text) :
    parse (parts.flatMap (·.arguments) ++ request.1 :: following) = .ok request.2 := by
  simp only [requests, List.mem_cons, List.not_mem_nil, or_false] at asked
  rcases asked with rfl | rfl | rfl | rfl
  · rw [parse, foldlM_of_error readable (ArgumentState.read_short rfl (by decide) [])]
  · rw [parse, foldlM_of_error readable (ArgumentState.read_long rfl (by decide) _)]
  · rw [parse, foldlM_of_error readable (ArgumentState.read_short rfl (by decide) [])]
  · rw [parse, foldlM_of_error readable (ArgumentState.read_long rfl (by decide) _)]

end Command

namespace Options.WrittenAs

variable {options : Options} {parts : List CommandPart} {ending : List Text}

/-- With the path elsewhere, the parts are those of options without one. -/
theorem perm_parts_of_behind {form : Option LexerForm}
    (order : parts.Perm (options.switchParts form)) :
    parts.Perm ({ options with input := none }.parts form) := by
  have same : { options with input := none }.parts form = options.switchParts form :=
    List.append_nil _
  rwa [same]

theorem readable (written : options.WrittenAs parts ending) : CommandPart.Readable parts := by
  cases written with
  | among named plain order => exact readable_of_perm plain order
  | behind named given order => exact readable_of_perm (by simp) (perm_parts_of_behind order)

theorem parse_eq (written : options.WrittenAs parts ending) :
    Command.parse (parts.flatMap (·.arguments) ++ ending) = .ok (.run options) := by
  have front := ArgumentState.foldlM_parts written.readable
  cases written with
  | among named plain order =>
      have holds := ArgumentState.holds_ofParts order
      rw [List.append_nil]
      exact Command.parse_of_ok front (holds.finish_eq named)
  | @behind form _ path named given order =>
      have holds := ArgumentState.holds_ofParts (perm_parts_of_behind order)
      have free : (ArgumentState.ofParts parts).input = none := holds.input
      have ended : (ArgumentState.ofParts parts).read "--".toList =
          .ok { ArgumentState.ofParts parts with switchesEnded := true } := rfl
      have taken : ({ ArgumentState.ofParts parts with switchesEnded := true } :
          ArgumentState).read path =
            .ok { ArgumentState.ofParts parts with input := some path, switchesEnded := true } := by
        simp [ArgumentState.read, ArgumentState.readInput, free]
      have whole : ArgumentState.Holds
          { ArgumentState.ofParts parts with input := some path, switchesEnded := true }
          options form :=
        ⟨holds.used, holds.lexerNames, given.symm⟩
      refine Command.parse_of_ok ?_ (whole.finish_eq named)
      rw [ArgumentState.foldlM_append front, ArgumentState.foldlM_cons ended]
      exact ArgumentState.foldlM_singleton taken

end Options.WrittenAs

/-- Options are read back from every way to write them.  Between any two parts a request for help or
for the version is answered, whatever stands behind it. -/
theorem command_line_reads_back {options : Options} {parts : List CommandPart}
    {ending : List Text} (written : options.WrittenAs parts ending) :
    Command.parse (parts.flatMap (·.arguments) ++ ending) = .ok (.run options) ∧
      ∀ request ∈ Command.requests, ∀ before following, before <+: parts →
        Command.parse (before.flatMap (·.arguments) ++ request.1 :: following) =
          .ok request.2 := by
  refine ⟨written.parse_eq, ?_⟩
  intro request asked before following front
  exact Command.parse_request (written.readable.of_sublist front.sublist) asked following

/-- Options whose path looks like a request for help. -/
def readsFileNamedHelp : Options :=
  { lexer := .json, json := true, keepTrivia := true, input := some "--help".toList }

theorem fileNamedHelp_reads_back :
    readsFileNamedHelp.WrittenAs
        [.flag .keepTrivia, .choice .json .shortEquals, .flag .json]
        ["--".toList, "--help".toList] ∧
      Command.parse
        ["--keep-trivia".toList, "-l=json".toList, "--json".toList, "--".toList,
          "--help".toList] = .ok (.run readsFileNamedHelp) ∧
      Command.parse
        ["--keep-trivia".toList, "-l=json".toList, "-V".toList, "--nope".toList, "-l".toList] =
          .ok .version := by
  have written : readsFileNamedHelp.WrittenAs
      [.flag .keepTrivia, .choice .json .shortEquals, .flag .json]
      ["--".toList, "--help".toList] :=
    @Options.WrittenAs.behind _ (some .shortEquals) _ _ (by simp) rfl (by decide)
  obtain ⟨run, answers⟩ := command_line_reads_back written
  have answered := answers ("-V".toList, .version) (by decide)
    [.flag .keepTrivia, .choice .json .shortEquals] ["--nope".toList, "-l".toList]
    ⟨[.flag .json], rfl⟩
  exact ⟨written, run, answered⟩

end LexKit
