import LexKit.Proofs.Lexers.Arithmetic
import LexKit.Proofs.Lexers.Json
import LexKit.Token.Queue

/-!
White space does not matter.

Between the tokens that matter to a parser, both lexers take any white space, and also none where
there was none before.  So a text may be spaced anew: its tokens, white space apart, stay the same.
Blanks inside a token belong to its value and are not touched by this.
-/

namespace LexKit

variable {κ : Type}

/-! ### Spaced text -/

/-- The values of tokens with gaps around them: `gaps 0` in front, and `gaps (index + 1)` behind the
token at an index. -/
def spacedText (gaps : Nat → Text) : List (Token κ) → Text
  | [] => gaps 0
  | token :: tokens => gaps 0 ++ token.value ++ spacedText (fun place => gaps (place + 1)) tokens

/-- Tokens with the tokens of the gaps around them. -/
def spacedTokens (blank : κ) (gaps : Nat → Text) : List (Token κ) → List (Token κ)
  | [] => blankTokens blank (gaps 0)
  | token :: tokens => blankTokens blank (gaps 0) ++
      token :: spacedTokens blank (fun place => gaps (place + 1)) tokens

theorem values_spacedTokens (blank : κ) (gaps : Nat → Text) (kept : List (Token κ)) :
    (spacedTokens blank gaps kept).flatMap Token.value = spacedText gaps kept := by
  induction kept generalizing gaps with
  | nil => exact values_blankTokens blank (gaps 0)
  | cons token kept inductionHypothesis =>
      simp [spacedTokens, spacedText, values_blankTokens, inductionHypothesis]

section

variable {blank : κ} {gaps : Nat → Text} {token next : Token κ} {kept : List (Token κ)}

theorem mem_spacedTokens (member : token ∈ spacedTokens blank gaps kept) :
    token ∈ kept ∨
      ∃ place ≤ kept.length, token = ⟨blank, gaps place⟩ ∧ gaps place ≠ [] := by
  induction kept generalizing gaps with
  | nil => exact .inr ⟨0, Nat.le_refl 0, mem_blankTokens member⟩
  | cons first kept inductionHypothesis =>
      rcases List.mem_append.mp member with before | here
      · exact .inr ⟨0, Nat.zero_le _, mem_blankTokens before⟩
      · rcases List.mem_cons.mp here with rfl | later
        · exact .inl List.mem_cons_self
        · rcases inductionHypothesis later with old | ⟨place, bounded, filled⟩
          · exact .inl (List.mem_cons_of_mem first old)
          · exact .inr ⟨place + 1, Nat.succ_le_succ bounded, filled⟩

/-- Spaced text begins with the token of a gap, or with the first of the tokens themselves. -/
theorem head?_spacedTokens (first : (spacedTokens blank gaps kept).head? = some next) :
    next.kind = blank ∨ gaps 0 = [] ∧ kept.head? = some next := by
  by_cases empty : gaps 0 = []
  · cases kept with
    | nil => simp [spacedTokens, blankTokens, empty] at first
    | cons token kept =>
        refine .inr ⟨empty, ?_⟩
        simpa [spacedTokens, blankTokens, empty] using first
  · have own : next = ⟨blank, gaps 0⟩ := by
      cases kept <;> simpa [spacedTokens, blankTokens, empty, eq_comm] using first
    exact .inl (by rw [own])

end

variable [TokenKind κ]

/-- Among the tokens that matter, the one at an index and the next one touch: nothing stands between
them, not even trivia. -/
def Touching (tokens : List (Token κ)) (index : Nat) : Prop :=
  ∃ front left right back, tokens = front ++ left :: right :: back ∧
    left.isTrivia = false ∧ right.isTrivia = false ∧
    (TokenQueue.ofTokens front).withoutTrivia.size = index

/-- A text that the automaton accepts may be spaced anew.  Gaps consist of blanks, and only between
tokens that touch in the text may a gap be empty. -/
def IgnoresSpacing (automaton : Automaton κ) : Prop :=
  ∀ (text : Text) (tokens kept : List (Token κ)) (gaps : Nat → Text),
    automaton.tokenize text = .accepted tokens →
    (TokenQueue.ofTokens tokens).withoutTrivia.tokens = kept →
    (∀ place ≤ kept.length, ∀ c ∈ gaps place, IsBlank c) →
    (∀ index, index + 1 < kept.length → gaps (index + 1) = [] → Touching tokens index) →
    ∃ found, automaton.tokenize (spacedText gaps kept) = .accepted found ∧
      (TokenQueue.ofTokens found).withoutTrivia.tokens = kept

theorem mem_withoutTrivia {tokens : List (Token κ)} {token : Token κ} :
    token ∈ (TokenQueue.ofTokens tokens).withoutTrivia.tokens ↔
      token ∈ tokens ∧ token.isTrivia = false := by
  simp [TokenQueue.withoutTrivia, TokenQueue.without, TokenQueue.ofTokens]

/-- Tokens that touch are neighbours in the text, and among the tokens that matter as well. -/
theorem Touching.neighbours {tokens : List (Token κ)} {index : Nat}
    (touching : Touching tokens index) :
    ∃ left right, [left, right] <:+: tokens ∧
      (TokenQueue.ofTokens tokens).withoutTrivia.tokens[index]? = some left ∧
      (TokenQueue.ofTokens tokens).withoutTrivia.tokens[index + 1]? = some right := by
  obtain ⟨front, left, right, back, rfl, leftMatters, rightMatters, rfl⟩ := touching
  refine ⟨left, right, ⟨front, back, by simp⟩, ?_, ?_⟩ <;>
    simp [TokenQueue.withoutTrivia, TokenQueue.without, TokenQueue.ofTokens, TokenQueue.size,
      leftMatters, rightMatters]

/-! ### Grammars with white space -/

/-- A kind for white space, with which all other kinds may stand side by side. -/
structure Grammar.Blank (grammar : Grammar κ) (blank : κ) : Prop where
  isTrivia_iff : ∀ kind, TokenKind.isTrivia kind = true ↔ kind = blank
  lexeme : ∀ value, value ≠ [] → (∀ c ∈ value, IsBlank c) → grammar.Lexeme blank value
  adjoins : ∀ token other : Token κ, token.kind = blank → other.kind ≠ blank →
    grammar.Adjoins token other ∧ grammar.Adjoins other token

namespace Grammar.Blank

variable {grammar : Grammar κ} {blank : κ} {text : Text} {gaps : Nat → Text}
  {tokens kept : List (Token κ)}

theorem withoutTrivia_spacedTokens (blanks : grammar.Blank blank)
    (matter : ∀ token ∈ kept, token.isTrivia = false) :
    (TokenQueue.ofTokens (spacedTokens blank gaps kept)).withoutTrivia.tokens = kept := by
  have dropped (gap : Text) :
      (blankTokens blank gap).filter (fun token => !token.isTrivia) = [] := by
    rw [List.filter_eq_nil_iff]
    intro token member
    have trivia : token.isTrivia = true := by
      rw [(mem_blankTokens member).1]
      exact (blanks.isTrivia_iff blank).mpr rfl
    simp [trivia]
  simp only [TokenQueue.withoutTrivia, TokenQueue.without, TokenQueue.ofTokens]
  induction kept generalizing gaps with
  | nil => exact dropped (gaps 0)
  | cons token kept inductionHypothesis =>
      obtain ⟨own, matter⟩ := List.forall_mem_cons.mp matter
      rw [spacedTokens, List.filter_append, dropped, List.filter_cons_of_pos (by simp [own]),
        inductionHypothesis matter]
      rfl

theorem isChain_spacedTokens (blanks : grammar.Blank blank)
    (matter : ∀ token ∈ kept, token.isTrivia = false)
    (adjoin : ∀ index left right, kept[index]? = some left → kept[index + 1]? = some right →
      gaps (index + 1) = [] → grammar.Adjoins left right) :
    (spacedTokens blank gaps kept).IsChain grammar.Adjoins := by
  induction kept generalizing gaps with
  | nil =>
      rw [spacedTokens, blankTokens]
      split_ifs <;> simp
  | cons token kept inductionHypothesis =>
      obtain ⟨own, matter⟩ := List.forall_mem_cons.mp matter
      have notBlank : token.kind ≠ blank := by
        rw [Ne, ← blanks.isTrivia_iff, ← Token.isTrivia, own]
        exact Bool.false_ne_true
      have rest : (spacedTokens blank (fun place => gaps (place + 1)) kept).IsChain
          grammar.Adjoins :=
        inductionHypothesis matter fun index left right => adjoin (index + 1) left right
      have follows : (token :: spacedTokens blank (fun place => gaps (place + 1)) kept).IsChain
          grammar.Adjoins := by
        refine List.isChain_cons.mpr ⟨?_, rest⟩
        intro next first
        rcases head?_spacedTokens first with isBlank | ⟨empty, second⟩
        · exact (blanks.adjoins next token isBlank notBlank).2
        · rw [List.head?_eq_getElem?] at second
          exact adjoin 0 token next rfl second empty
      rw [spacedTokens, blankTokens]
      split_ifs
      · exact follows
      · exact .cons_cons (blanks.adjoins _ token rfl notBlank).1 follows

theorem divides_spacedText (blanks : grammar.Blank blank) (divides : grammar.Divides text tokens)
    (shape : (TokenQueue.ofTokens tokens).withoutTrivia.tokens = kept)
    (isBlank : ∀ place ≤ kept.length, ∀ c ∈ gaps place, IsBlank c)
    (touching : ∀ index, index + 1 < kept.length → gaps (index + 1) = [] →
      Touching tokens index) :
    grammar.Divides (spacedText gaps kept) (spacedTokens blank gaps kept) where
  values := values_spacedTokens blank gaps kept
  lexemes := by
    intro token member
    rcases mem_spacedTokens member with old | ⟨place, bounded, rfl, filled⟩
    · exact divides.lexemes token (mem_withoutTrivia.mp (shape ▸ old)).1
    · exact blanks.lexeme _ filled (isBlank place bounded)
  adjoining := by
    apply blanks.isChain_spacedTokens
    · intro token member
      exact (mem_withoutTrivia.mp (shape ▸ member)).2
    · intro index left right leftFound rightFound empty
      have inside := (List.getElem?_eq_some_iff.mp rightFound).1
      obtain ⟨first, second, neighbours, firstFound, secondFound⟩ :=
        (touching index inside empty).neighbours
      rw [shape, leftFound] at firstFound
      rw [shape, rightFound] at secondFound
      cases firstFound
      cases secondFound
      have adjoining := List.IsChain.infix divides.adjoining neighbours
      exact (List.isChain_cons_cons.mp adjoining).1

end Grammar.Blank

theorem Automaton.Implements.ignoresSpacing {automaton : Automaton κ} {grammar : Grammar κ}
    {blank : κ} (sound : automaton.Implements grammar) (blanks : grammar.Blank blank) :
    IgnoresSpacing automaton := by
  intro text tokens kept gaps accepted shape isBlank touching
  have divides := sound.tokenize_eq_accepted_iff.mp accepted
  refine ⟨spacedTokens blank gaps kept, ?_, ?_⟩
  · exact sound.tokenize_of_divides (blanks.divides_spacedText divides shape isBlank touching)
  · apply blanks.withoutTrivia_spacedTokens
    intro token member
    exact (mem_withoutTrivia.mp (shape ▸ member)).2

/-! ### The two lexers -/

theorem Arithmetic.grammar_blank : Arithmetic.grammar.Blank .whitespace where
  isTrivia_iff := fun _ => beq_iff_eq
  lexeme := fun _ nonempty isBlank => ⟨nonempty, isBlank⟩
  adjoins := by
    intro token other isBlank notBlank
    simp [grammar, isBlank, notBlank]

theorem Json.grammar_blank : Json.grammar.Blank .whitespace where
  isTrivia_iff := fun _ => beq_iff_eq
  lexeme := fun _ nonempty isBlank => ⟨nonempty, isBlank⟩
  adjoins := by
    intro token other isBlank notBlank
    simp [grammar, isBlank, notBlank]

/-- Both lexers take a text apart into the same tokens, white space aside, however it is spaced. -/
theorem lexers_ignore_spacing :
    IgnoresSpacing Arithmetic.automaton ∧ IgnoresSpacing Json.automaton :=
  ⟨Arithmetic.automaton_implements.ignoresSpacing Arithmetic.grammar_blank,
    Json.automaton_implements.ignoresSpacing Json.grammar_blank⟩

/-- A line break in front, nothing where the brackets touch the items, and more than one blank where
there was one. -/
def looseGaps (place : Nat) : Text :=
  if place = 0 then ['\n'] else if place = 2 then ['\t', ' '] else []

theorem looselySpacedList_accepted :
    Json.automaton.tokenize "[1 \"a b\"]".toList =
        .accepted [⟨.punctuation, "[".toList⟩, ⟨.number, "1".toList⟩, ⟨.whitespace, " ".toList⟩,
          ⟨.string, "\"a b\"".toList⟩, ⟨.punctuation, "]".toList⟩] ∧
      ∃ found, Json.automaton.tokenize "\n[1\t \"a b\"]".toList = .accepted found ∧
        (TokenQueue.ofTokens found).withoutTrivia.tokens =
          [⟨.punctuation, "[".toList⟩, ⟨.number, "1".toList⟩, ⟨.string, "\"a b\"".toList⟩,
            ⟨.punctuation, "]".toList⟩] := by
  have accepted : Json.automaton.tokenize "[1 \"a b\"]".toList =
      .accepted [⟨.punctuation, "[".toList⟩, ⟨.number, "1".toList⟩, ⟨.whitespace, " ".toList⟩,
        ⟨.string, "\"a b\"".toList⟩, ⟨.punctuation, "]".toList⟩] := by decide +kernel
  have spaced : spacedText looseGaps [⟨Json.Kind.punctuation, "[".toList⟩,
      ⟨.number, "1".toList⟩, ⟨.string, "\"a b\"".toList⟩, ⟨.punctuation, "]".toList⟩] =
      "\n[1\t \"a b\"]".toList := by decide
  rw [← spaced]
  refine ⟨accepted, lexers_ignore_spacing.2 _ _ _ looseGaps accepted rfl ?_ ?_⟩
  · intro place _ c member
    unfold looseGaps at member
    split_ifs at member
    · rw [List.mem_singleton.mp member]
      simp [IsBlank]
    · rcases List.mem_pair.mp member with rfl | rfl <;> simp [IsBlank]
    · simp at member
  · intro index inside empty
    rcases index with _ | _ | _ | index
    · exact ⟨[], _, _, _, rfl, rfl, rfl, rfl⟩
    · simp [looseGaps] at empty
    · exact ⟨[_, _, _], _, _, [], rfl, rfl, rfl, rfl⟩
    · have fewer : index + 4 < 4 := inside
      omega

end LexKit
