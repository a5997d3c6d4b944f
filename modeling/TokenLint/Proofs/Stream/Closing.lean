import TokenLint.Proofs.Stream.Signs

/-!
# Texts whose brackets all close

A text is passed with a stack of the signs that the open brackets wait for, innermost first. If a
list of texts is passed from the empty stack back to the empty stack, no bracket is left alone.
-/

namespace TokenLint

open Lexer

/-- The signs that are waited for behind a text, unless it closes another bracket than the
innermost. -/
def passSign (stack : List String) (text : Option String) : Option (List String) :=
  match text.filter (· ∈ bracketSigns) with
  | none => some stack
  | some sign =>
    match closingSignOf? sign with
    | some closing => some (closing :: stack)
    | none => if stack.head? = some sign then some stack.tail else none

section Pass

variable {stack : List String} {text other : Option String} {kind : TokenKind}
  {shape : BracketShape}

theorem passSign_congr (same : ∀ sign ∈ bracketSigns, text = some sign ↔ other = some sign) :
    passSign stack text = passSign stack other := by
  have filter_eq : text.filter (· ∈ bracketSigns) = other.filter (· ∈ bracketSigns) := by
    apply Option.ext
    intro sign
    simp only [Option.filter_eq_some_iff, decide_eq_true_eq]
    exact and_congr_left (same sign)
  rw [passSign, filter_eq, passSign]

/-- The kind of a lexeme and its text say the same about the brackets. -/
theorem passSign_codeText? {lexeme : Lexeme} (shows : ShowsSign lexeme) :
    passSign stack (codeText? lexeme) = passSign stack (signOf? lexeme.kind) :=
  passSign_congr shows

theorem passSign_of_opens (opens : kind.opens? = some shape) :
    passSign stack (signOf? kind) = some (closingSign shape :: stack) := by
  rw [signOf?_of_opens opens]
  cases shape <;> rfl

theorem passSign_of_closes (closes : kind.closes? = some shape) :
    passSign (closingSign shape :: stack) (signOf? kind) = some stack := by
  rw [signOf?_of_closes closes]
  cases shape <;> rfl

theorem passSign_of_not_bracket (notOpens : kind.opens? = none) (notCloses : kind.closes? = none) :
    passSign stack (signOf? kind) = some stack := by
  have free : (signOf? kind).filter (· ∈ bracketSigns) = none := by
    rw [Option.filter_eq_none_iff]
    intro sign found bracket
    have kind_bracket := isBracket_of_signOf? (of_decide_eq_true bracket) found
    simp [TokenKind.isOpener, TokenKind.isCloser, notOpens, notCloses] at kind_bracket
  rw [passSign, free]

theorem closing_mem_of_closingSignOf? {sign closing : String}
    (found : closingSignOf? sign = some closing) : closing ∈ bracketSigns := by
  simp only [closingSignOf?] at found
  split at found <;> cases found <;> decide

/-- A text opens a bracket, closes the innermost, or is none. -/
theorem passSign_cases {inner : List String} (passed : passSign stack text = some inner) :
    (∃ closing, text.bind closingSignOf? = some closing ∧ inner = closing :: stack) ∨
      (∃ closing, closingSignOf? closing = none ∧ text = some closing ∧ stack = closing :: inner) ∨
      (∀ sign ∈ bracketSigns, text ≠ some sign) ∧ inner = stack := by
  simp only [passSign] at passed
  split at passed
  · rename_i free
    rw [Option.filter_eq_none_iff] at free
    exact .inr (.inr ⟨fun sign bracket found => free sign found (decide_eq_true bracket),
      (Option.some.inj passed).symm⟩)
  · rename_i sign bracket
    rw [Option.filter_eq_some_iff] at bracket
    rcases bracket with ⟨rfl, -⟩
    split at passed
    · rename_i closing opens
      exact .inl ⟨closing, opens, (Option.some.inj passed).symm⟩
    · rename_i notOpens
      split at passed
      · rename_i fits
        rcases List.head?_eq_some_iff.mp fits with ⟨outer, rfl⟩
        exact .inr (.inl ⟨sign, notOpens, rfl, congrArg _ (Option.some.inj passed)⟩)
      · cases passed

end Pass

section Pairs

variable {stack outer : List (Nat × String)} {index : Nat} {text : Option String}
  {rest : List (Option String)} {closing : String}

theorem signPairsFrom_of_opens (opens : text.bind closingSignOf? = some closing) :
    signPairsFrom stack index (text :: rest) =
      signPairsFrom ((index, closing) :: stack) (index + 1) rest := by
  simp only [signPairsFrom, opens]

theorem signPairsFrom_of_closes {entry : Nat × String} (notOpens : closingSignOf? entry.2 = none) :
    signPairsFrom (entry :: outer) index (some entry.2 :: rest) =
      ⟨entry.1, index⟩ :: signPairsFrom outer (index + 1) rest := by
  simp only [signPairsFrom, Option.bind_some, notOpens, if_true]

theorem signPairsFrom_of_free (awaited : ∀ entry ∈ stack, entry.2 ∈ bracketSigns)
    (free : ∀ sign ∈ bracketSigns, text ≠ some sign) :
    signPairsFrom stack index (text :: rest) = signPairsFrom stack (index + 1) rest := by
  have notOpens : text.bind closingSignOf? = none := by
    rw [Option.bind_eq_none_iff]
    intro sign found
    rw [Option.eq_none_iff_forall_ne_some]
    intro closing opens
    exact free sign (mem_bracketSigns_of_closingSignOf? opens) found
  cases stack with
  | nil => simp only [signPairsFrom, notOpens]
  | cons entry outer =>
      have unlike := free entry.2 (awaited entry List.mem_cons_self)
      simp only [signPairsFrom, notOpens, unlike, if_false]

end Pairs

/-- Whether a pair has an end at an index. -/
def TouchedBy (pairs : List BracketPair) (index : Nat) : Prop :=
  ∃ pair ∈ pairs, pair.opener = index ∨ pair.closer = index

theorem TouchedBy.cons {pairs : List BracketPair} {index : Nat} (touched : TouchedBy pairs index)
    (pair : BracketPair) : TouchedBy (pair :: pairs) index := by
  rcases touched with ⟨other, member, ends⟩
  exact ⟨other, List.mem_cons_of_mem _ member, ends⟩

/-- Whether every bracket of a list of texts, whose first has the given index, is an end of a
pair. -/
def TouchesFrom (pairs : List BracketPair) (index : Nat) (texts : List (Option String)) : Prop :=
  ∀ offset, ∀ sign ∈ bracketSigns, texts[offset]? = some (some sign) →
    TouchedBy pairs (index + offset)

theorem TouchesFrom.cons {pairs : List BracketPair} {index : Nat} {text : Option String}
    {rest : List (Option String)} (later : TouchesFrom pairs (index + 1) rest)
    (here : ∀ sign ∈ bracketSigns, text = some sign → TouchedBy pairs index) :
    TouchesFrom pairs index (text :: rest) := by
  intro offset sign bracket found
  cases offset with
  | zero => exact here sign bracket (Option.some.inj found)
  | succ offset =>
      have touched := later offset sign bracket found
      rwa [Nat.add_right_comm] at touched

/-- Texts that are passed to the empty stack close what was open before them and what they open. -/
theorem touchedBy_signPairsFrom {texts : List (Option String)} (stack : List (Nat × String))
    (index : Nat) (awaited : ∀ entry ∈ stack, entry.2 ∈ bracketSigns)
    (closes : texts.foldlM passSign (stack.map Prod.snd) = some []) :
    (∀ entry ∈ stack, TouchedBy (signPairsFrom stack index texts) entry.1) ∧
      TouchesFrom (signPairsFrom stack index texts) index texts := by
  induction texts generalizing stack index with
  | nil =>
      have empty : stack = [] := List.map_eq_nil_iff.mp (Option.some.inj closes)
      subst empty
      exact ⟨by simp, by simp [TouchesFrom]⟩
  | cons text rest ih =>
      rw [List.foldlM_cons, Option.bind_eq_bind, Option.bind_eq_some_iff] at closes
      rcases closes with ⟨inner, passed, closes⟩
      rcases passSign_cases passed with ⟨closing, opens, rfl⟩ | ⟨closing, notOpens, rfl, stack_eq⟩ |
        ⟨free, rfl⟩
      · rcases Option.bind_eq_some_iff.mp opens with ⟨sign, rfl, found⟩
        rcases ih ((index, closing) :: stack) (index + 1)
          (List.forall_mem_cons.mpr ⟨closing_mem_of_closingSignOf? found, awaited⟩) closes with
          ⟨outer, later⟩
        rw [signPairsFrom_of_opens opens]
        rw [List.forall_mem_cons] at outer
        exact ⟨outer.2, later.cons fun _ _ _ => outer.1⟩
      · rcases stack with _ | ⟨entry, outer⟩
        · cases stack_eq
        · rw [List.map_cons, List.cons.injEq] at stack_eq
          rcases stack_eq with ⟨rfl, rfl⟩
          rcases ih outer (index + 1) (List.forall_mem_cons.mp awaited).2 closes with
            ⟨others, later⟩
          rw [signPairsFrom_of_closes notOpens]
          refine ⟨List.forall_mem_cons.mpr ⟨⟨_, List.mem_cons_self, .inl rfl⟩, ?_⟩, ?_⟩
          · exact fun other member => (others other member).cons _
          · refine TouchesFrom.cons ?_ fun _ _ _ => ⟨_, List.mem_cons_self, .inr rfl⟩
            exact fun offset sign bracket found => (later offset sign bracket found).cons _
      · rcases ih stack (index + 1) awaited closes with ⟨others, later⟩
        rw [signPairsFrom_of_free awaited free]
        exact ⟨others, later.cons fun sign bracket found => absurd found (free sign bracket)⟩

/-- If texts are passed from the empty stack to the empty stack, none of their brackets is
unmatched. -/
theorem unpairedSigns_eq_nil {texts : List (Option String)}
    (closes : texts.foldlM passSign [] = some []) : unpairedSigns texts = [] := by
  rw [unpairedSigns, List.filter_eq_nil_iff]
  intro index inRange alone
  simp only [Bool.and_eq_true, Option.any_eq_true, List.all_eq_true, decide_eq_true_eq] at alone
  rcases alone with ⟨⟨_, found, sign, rfl, bracket⟩, apart⟩
  rcases (touchedBy_signPairsFrom [] 0 (by simp) closes).2 index sign bracket found with
    ⟨pair, member, ends⟩
  rw [Nat.zero_add] at ends
  have differ := apart pair member
  rcases ends with opens | ends
  · exact differ.1 opens
  · exact differ.2 ends

theorem foldlM_passSign_codeText? {lexemes : List Lexeme}
    (shows : ∀ lexeme ∈ lexemes, ShowsSign lexeme) (stack : List String) :
    (lexemes.map codeText?).foldlM passSign stack =
      ((lexemes.map Lexeme.kind).map signOf?).foldlM passSign stack := by
  induction lexemes generalizing stack with
  | nil => rfl
  | cons first rest ih =>
      rw [List.forall_mem_cons] at shows
      simp only [List.map_cons, List.foldlM_cons, passSign_codeText? shows.1]
      exact bind_congr fun inner => ih shows.2 inner

/-- If the signs of the kinds of a source are passed to the empty stack, all its brackets match. -/
theorem TokenStream.unmatched_eq_nil_of_closes {source : String} {lexemes : List Lexeme}
    (lexed : lex source = .ok lexemes)
    (closes : ((lexemes.map Lexeme.kind).map signOf?).foldlM passSign [] = some []) :
    (ofLexemes lexemes).unmatched = [] := by
  rw [unmatched_eq_unpairedSigns lexed]
  apply unpairedSigns_eq_nil
  rwa [foldlM_passSign_codeText? (showsSign_of_lex lexed)]

end TokenLint
