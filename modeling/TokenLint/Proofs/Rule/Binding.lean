import TokenLint.Proofs.Rule.NullCheck
import TokenLint.Proofs.Run.Written

/-!
# How a comparison with null binds where it is written

A call is replaced by a comparison in parentheses, unless what stands around the call binds looser
than a comparison. What stands around it is looked up before other calls are replaced. Behind a call
this makes no difference. In front of one it does: a call with which the bare argument of another
call begins has the other comparison in front of it in the end.
-/

namespace TokenLint

open Lexer TokenStream

namespace NullCheck

/-- The last kind that is neither whitespace nor a comment. -/
def lastCode? (kinds : List TokenKind) : Option TokenKind :=
  (kinds.filter fun kind => !kind.isTrivia).getLast?

/-- The first kind that is neither whitespace nor a comment. -/
def firstCode? (kinds : List TokenKind) : Option TokenKind :=
  (kinds.filter fun kind => !kind.isTrivia).head?

/-- Whether no separator stands directly in front of a comparison, and the comparison stands in
parentheses of its own or between neighbours that bind looser. -/
def Binds (front middle back : List TokenKind) : Prop :=
  front.getLast? ≠ some .namespaceSeparator ∧
    (middle.head? = some .openParenthesis ∧ middle.getLast? = some .closeParenthesis ∨
      (lastCode? front).all bindsLoose = true ∧ (firstCode? back).all bindsLoose = true)

instance (front middle back : List TokenKind) : Decidable (Binds front middle back) :=
  inferInstanceAs (Decidable (_ ∧ _))

/-- Whether the lexemes of an edited stream that a call has become bind as a comparison: those
between the text of the tokens in front of the call and the text of the tokens behind it. -/
def KeepsBinding (check : NullCheck) (stream : TokenStream) (ledger : Ledger)
    (found : List Lexeme) : Prop :=
  ∃ start ≤ found.length, ∃ stop ≤ found.length,
    spelled (found.take start) = ledger.textBetween stream 0 check.start ∧
    spelled (found.drop stop) = ledger.textBetween stream (check.closer + 1) stream.size ∧
    Binds ((found.take start).map Lexeme.kind) (((found.take stop).drop start).map Lexeme.kind)
      ((found.drop stop).map Lexeme.kind)

instance (check : NullCheck) (stream : TokenStream) (ledger : Ledger) (found : List Lexeme) :
    Decidable (check.KeepsBinding stream ledger found) :=
  inferInstanceAs (Decidable (∃ start ≤ found.length, ∃ stop ≤ found.length, _ ∧ _ ∧ _))

/-- The texts that tokens get when checks are rewritten. -/
def texts : List String :=
  ["null ===", "null !==", "(null ===", "(null !==", " ", " (", "", ")", "))"]

theorem textAt_mem_texts (check : NullCheck) (stream : TokenStream) (index : Nat) :
    check.textAt stream index ∈ texts := by
  have shapes : ∀ all argument negated : Bool,
      (if all then "(" else "") ++ "null " ++ (if negated then "!==" else "===") ∈ texts ∧
        (if argument then " (" else " ") ∈ texts ∧
        (if argument then ")" else "") ++ (if all then ")" else "") ∈ texts := by
    decide
  rcases shapes (check.wrapsAll stream) (check.wrapsArgument stream) check.isNegated with
    ⟨name, opener, closer⟩
  rw [textAt, operator]
  split
  · exact name
  · split
    · exact opener
    · split
      · exact closer
      · decide

theorem spelled_signsInCode : ∀ text ∈ texts,
    ((signsInCode text).flatMap fun sign => sign.2.toList) = text.toList := by
  decide +kernel

/-- A ledger in which all checks of a stream are rewritten and nothing else is edited. -/
structure WritesChecks (ledger : Ledger) (stream : TokenStream) : Prop where
  touched : ∀ {check index}, stream.Checks check → check.Touches index →
    ledger.patch? index = some (.exchanged (check.textAt stream index))
  untouched : ∀ {index}, index < stream.size →
    (∀ check, stream.Checks check → ¬check.Touches index) → ledger.patch? index = none

variable {ledger : Ledger} {lexemes : List Lexeme} {check : NullCheck} {start stop index : Nat}

theorem exists_touches_or (stream : TokenStream) (index : Nat) :
    (∃ check, stream.Checks check ∧ check.Touches index) ∨
      ∀ check, stream.Checks check → ¬check.Touches index := by
  by_cases touched : ∃ check, stream.Checks check ∧ check.Touches index
  · exact .inl touched
  · exact .inr fun check checks touches => touched ⟨check, checks, touches⟩

section Pieces

variable {stream : TokenStream} {token : Token} (bounded : stream.Bounded)
  (writes : WritesChecks ledger stream)

include bounded writes

theorem signs_of_touches (checks : stream.Checks check) (touches : check.Touches index)
    (here : stream.token? index = some token) :
    ledger.signs token = signsInCode (check.textAt stream index) := by
  have patched := writes.touched checks touches
  have index_eq := bounded.index_eq here
  rw [Ledger.signs, Ledger.isTouched, Ledger.tokenText, index_eq, patched]
  simp only [Option.isSome_some, if_true, Patch.render_exchanged]

theorem signs_of_untouched (untouched : ∀ check, stream.Checks check → ¬check.Touches index)
    (here : stream.token? index = some token) :
    ledger.signs token = [(token.kind, token.content)] := by
  have patched := writes.untouched (lt_size_of_token? here) untouched
  have index_eq := bounded.index_eq here
  rw [Ledger.signs, Ledger.isTouched, index_eq, patched]
  rfl

/-- Each token is read again with the text that it has. -/
theorem spells (member : token ∈ stream.tokens.toList) :
    ((ledger.signs token).flatMap fun sign => sign.2.toList) =
      (ledger.tokenText token).toList := by
  have here := bounded.token?_of_mem member
  rcases exists_touches_or stream token.index with ⟨check, checks, touches⟩ | untouched
  · rw [signs_of_touches bounded writes checks touches here,
      spelled_signsInCode _ (textAt_mem_texts check stream token.index), Ledger.tokenText,
      writes.touched checks touches]
    exact congrArg String.toList (Patch.render_exchanged _ _).symm
  · rw [signs_of_untouched bounded writes untouched here, Ledger.tokenText,
      writes.untouched (lt_size_of_token? here) untouched]
    simp

theorem kindsBetween_of_touches (checks : stream.Checks check) (touches : check.Touches index)
    (inside : index < stream.size) :
    ledger.kindsBetween stream index (index + 1) =
      (signsInCode (check.textAt stream index)).map Prod.fst := by
  rcases exists_token?_of_lt inside with ⟨token, here⟩
  rw [Ledger.kindsBetween_one here, signs_of_touches bounded writes checks touches here]

theorem kindsBetween_of_untouched (untouched : ∀ check, stream.Checks check → ¬check.Touches index)
    (here : stream.token? index = some token) :
    ledger.kindsBetween stream index (index + 1) = [token.kind] := by
  rw [Ledger.kindsBetween_one here, signs_of_untouched bounded writes untouched here]
  rfl

/-- Nothing is left of tokens that are taken away. -/
theorem kindsBetween_of_removed (checks : stream.Checks check) (inside : stop ≤ stream.size)
    (removed : ∀ place, start ≤ place → place < stop → check.Touches place ∧
      ¬(place = check.name ∨ place = check.opener ∨ place = check.closer)) :
    ledger.kindsBetween stream start stop = [] := by
  rw [List.eq_nil_iff_forall_not_mem]
  intro kind member
  rcases Ledger.mem_kindsBetween_iff.mp member with ⟨place, after, before, member⟩
  rcases removed place after before with ⟨touches, unmarked⟩
  rw [kindsBetween_of_touches bounded writes checks touches (before.trans_le inside),
    textAt_of_removed check stream place unmarked, signsInCode_empty] at member
  cases member

/-- What stands in front of the argument of a call. -/
theorem kindsBetween_lead (checks : stream.Checks check) (sits : check.Sits stream) :
    ledger.kindsBetween stream check.start check.first =
      (if check.wrapsAll stream then [.openParenthesis] else []) ++
        [.nullLiteral, .whitespace, if check.isNegated then .isNotIdentical else .isIdentical,
          .whitespace] ++
        (if check.wrapsArgument stream then [.openParenthesis] else []) := by
  have order := sits.order
  have inside := lt_size_of_hasKind sits.closes
  have removed : ∀ start stop, check.start ≤ start → stop ≤ check.first →
      (∀ place, start ≤ place → place < stop → place ≠ check.name ∧ place ≠ check.opener) →
        ledger.kindsBetween stream start stop = [] := by
    intro start stop after before unmarked
    refine kindsBetween_of_removed bounded writes checks (by omega) ?_
    intro place place_ge place_lt
    have differs := unmarked place place_ge place_lt
    exact ⟨⟨by omega, by omega, by omega⟩, by omega⟩
  have name := kindsBetween_of_touches bounded writes checks
    (show check.Touches check.name from ⟨by omega, by omega, by omega⟩) (by omega)
  have opener := kindsBetween_of_touches bounded writes checks
    (show check.Touches check.opener from ⟨by omega, by omega, by omega⟩) (by omega)
  rw [textAt, if_pos rfl, operator] at name
  rw [textAt, if_neg (by omega), if_pos rfl] at opener
  rw [Ledger.kindsBetween_split (show check.start ≤ check.name by omega) (by omega),
    Ledger.kindsBetween_split (Nat.le_succ check.name) (by omega),
    Ledger.kindsBetween_split (show check.name + 1 ≤ check.opener by omega) (by omega),
    Ledger.kindsBetween_split (Nat.le_succ check.opener) (by omega),
    removed check.start check.name (by omega) (by omega) (fun place _ _ => by omega),
    removed (check.name + 1) check.opener (by omega) (by omega) (fun place _ _ => by omega),
    removed (check.opener + 1) check.first (by omega) (by omega) (fun place _ _ => by omega),
    name, opener, List.nil_append, List.nil_append, List.append_nil]
  cases check.wrapsAll stream <;> cases check.wrapsArgument stream <;> cases check.isNegated <;>
    decide +kernel

/-- What stands behind the argument of a call. -/
theorem kindsBetween_trail (checks : stream.Checks check) (sits : check.Sits stream) :
    ledger.kindsBetween stream (check.last + 1) (check.closer + 1) =
      (if check.wrapsArgument stream then [.closeParenthesis] else []) ++
        (if check.wrapsAll stream then [.closeParenthesis] else []) := by
  have order := sits.order
  have inside := lt_size_of_hasKind sits.closes
  have removed : ledger.kindsBetween stream (check.last + 1) check.closer = [] := by
    refine kindsBetween_of_removed bounded writes checks (by omega) ?_
    intro place after before
    exact ⟨⟨by omega, by omega, by omega⟩, by omega⟩
  have closer := kindsBetween_of_touches bounded writes checks
    (show check.Touches check.closer from ⟨by omega, by omega, by omega⟩) (by omega)
  rw [textAt, if_neg (by omega), if_neg (by omega), if_pos rfl] at closer
  rw [Ledger.kindsBetween_split (show check.last + 1 ≤ check.closer by omega) (by omega), removed,
    closer, List.nil_append]
  cases check.wrapsAll stream <;> cases check.wrapsArgument stream <;> decide +kernel

/-- The new source divides where a call begins and where it ends. -/
theorem keepsBinding_iff_binds {found : List Lexeme} {source : String}
    (ordered : check.start ≤ check.closer) (inside : check.closer < stream.size)
    (lexed : lex source = .ok found) (reads : ledger.ReadsAsWritten stream found) :
    check.KeepsBinding stream ledger found ↔
      Binds (ledger.kindsBetween stream 0 check.start)
        (ledger.kindsBetween stream check.start (check.closer + 1))
        (ledger.kindsBetween stream (check.closer + 1) stream.size) := by
  rcases reads.exists_parts (Nat.le_succ_of_le ordered) inside with
    ⟨front, middle, back, rfl, front_eq, middle_eq, back_eq⟩
  have solid := content_ne_empty_of_lex lexed
  have spelled_eq : ∀ {part : List Lexeme} {start stop : Nat},
      part.map Lexeme.sign = ledger.signsBetween stream start stop →
        spelled part = ledger.textBetween stream start stop := by
    intro part start stop part_eq
    rw [spelled_eq_flatMap_sign, part_eq, Ledger.flatMap_signsBetween]
    exact fun token member => spells bounded writes member
  have kinds_eq : ∀ {part : List Lexeme} {start stop : Nat},
      part.map Lexeme.sign = ledger.signsBetween stream start stop →
        part.map Lexeme.kind = ledger.kindsBetween stream start stop := by
    intro part start stop part_eq
    rw [Ledger.kindsBetween, ← part_eq, List.map_map]
    rfl
  have front_take : (front ++ middle ++ back).take front.length = front := by
    rw [List.append_assoc, List.take_left]
  have middle_drop : ((front ++ middle ++ back).take (front ++ middle).length).drop front.length =
      middle := by
    rw [List.take_left, List.drop_left]
  rw [← kinds_eq front_eq, ← kinds_eq middle_eq, ← kinds_eq back_eq, KeepsBinding,
    ← spelled_eq front_eq, ← spelled_eq back_eq]
  constructor
  · rintro ⟨start, start_le, stop, stop_le, fronts, backs, binds⟩
    rw [List.append_assoc] at start_le fronts solid
    have start_eq := eq_length_of_spelled_take solid start_le fronts
    rw [← List.append_assoc] at solid
    have fronts : spelled ((front ++ middle ++ back).take stop) = spelled (front ++ middle) := by
      have whole := congrArg spelled (List.take_append_drop stop (front ++ middle ++ back))
      rw [spelled_append, backs, spelled_append (front ++ middle)] at whole
      exact List.append_cancel_right whole
    have stop_eq := eq_length_of_spelled_take solid stop_le fronts
    subst start_eq stop_eq
    rw [front_take, middle_drop, List.drop_left] at binds
    exact binds
  · intro binds
    refine ⟨front.length, by simp, (front ++ middle).length, by simp, ?_, ?_, ?_⟩
    · rw [front_take]
    · rw [List.drop_left]
    · rw [front_take, middle_drop, List.drop_left]
      exact binds

end Pieces

section Neighbours

theorem lastCode?_append (front back : List TokenKind) :
    lastCode? (front ++ back) = (lastCode? back).or (lastCode? front) := by
  rw [lastCode?, List.filter_append, List.getLast?_append]
  rfl

theorem firstCode?_append (front back : List TokenKind) :
    firstCode? (front ++ back) = (firstCode? front).or (firstCode? back) := by
  rw [firstCode?, List.filter_append, List.head?_append]
  rfl

theorem code?_eq_none {kinds : List TokenKind} (trivia : ∀ kind ∈ kinds, kind.isTrivia = true) :
    lastCode? kinds = none ∧ firstCode? kinds = none := by
  have nothing : (kinds.filter fun kind => !kind.isTrivia) = [] := by
    rw [List.filter_eq_nil_iff]
    intro kind member
    simp [trivia kind member]
  rw [lastCode?, firstCode?, nothing]
  exact ⟨rfl, rfl⟩

/-- A call begins with code that binds tighter than a comparison. -/
theorem start_binds (checks : (ofLexemes lexemes).Checks check) :
    (ofLexemes lexemes).kindIs check.start TokenKind.isTrivia = false ∧
      (ofLexemes lexemes).kindIs check.start bindsLoose = false := by
  rcases (sits_of_checks checks).starts with same | ⟨-, isNot, -⟩
  · rw [same, kindIs_of_hasKind checks.1, kindIs_of_hasKind checks.1]
    exact ⟨rfl, rfl⟩
  · rw [kindIs_of_hasKind isNot, kindIs_of_hasKind isNot]
    exact ⟨rfl, rfl⟩

/-- A call right behind another one has the comparison for the other one in parentheses. -/
theorem wrapsAll_of_follows (checks : (ofLexemes lexemes).Checks check) {other : NullCheck}
    (behind : other.closer < check.start)
    (blank : (ofLexemes lexemes).Blank (other.closer + 1) check.start) :
    other.wrapsAll (ofLexemes lexemes) = true := by
  have order := (sits_of_checks checks).order
  have inside := lt_size_of_hasKind checks.1
  have next := nextCode?_of_blank behind blank (start_binds checks).1 (by omega)
  rw [wrapsAll, next, isLooseAt, isLooseAt, Option.all_some, (start_binds checks).2,
    Bool.and_false, Bool.not_false]

variable (writes : WritesChecks ledger (ofLexemes lexemes))

include writes

/-- Whitespace and comments become nothing else. -/
theorem code?_of_blank (blank : (ofLexemes lexemes).Blank start stop) :
    lastCode? (ledger.kindsBetween (ofLexemes lexemes) start stop) = none ∧
      firstCode? (ledger.kindsBetween (ofLexemes lexemes) start stop) = none := by
  have bounded := bounded_ofLexemes lexemes
  refine code?_eq_none fun kind member => ?_
  rcases Ledger.mem_kindsBetween_iff.mp member with ⟨place, after, before, member⟩
  rcases exists_token_of_kindIs (blank place after before) with ⟨token, here, trivia⟩
  rcases exists_touches_or (ofLexemes lexemes) place with ⟨check, checks, touches⟩ | untouched
  · have sits := sits_of_checks checks
    have differs : ∀ {mark kind}, (ofLexemes lexemes).hasKind mark kind = true →
        kind.isTrivia = false → place ≠ mark := by
      rintro mark kind isMark code rfl
      have trivia := blank place after before
      rw [kindIs_of_hasKind isMark, code] at trivia
      cases trivia
    have unmarked : ¬(place = check.name ∨ place = check.opener ∨ place = check.closer) := by
      rintro (same | same | same)
      · exact differs sits.named rfl same
      · exact differs sits.opens rfl same
      · exact differs sits.closes rfl same
    rw [kindsBetween_of_touches bounded writes checks touches (lt_size_of_token? here),
      textAt_of_removed check _ place unmarked, signsInCode_empty] at member
    exact absurd member List.not_mem_nil
  · rw [kindsBetween_of_untouched bounded writes untouched here, List.mem_singleton] at member
    rw [member]
    exact trivia

/-- What the front of the new source ends with if another call has the call at the start of its
argument. -/
theorem kindsBetween_front_of_first {other : NullCheck} (others : (ofLexemes lexemes).Checks other)
    (begins : other.first = check.start) :
    ∃ front, ledger.kindsBetween (ofLexemes lexemes) 0 check.start = front ++
      [if other.isNegated then .isNotIdentical else .isIdentical, .whitespace] ++
      (if other.wrapsArgument (ofLexemes lexemes) then [.openParenthesis] else []) := by
  have sits := sits_of_checks others
  have order := sits.order
  rw [← begins, Ledger.kindsBetween_split (Nat.zero_le other.start) (by omega),
    kindsBetween_lead (bounded_ofLexemes lexemes) writes others sits]
  exact ⟨ledger.kindsBetween (ofLexemes lexemes) 0 other.start ++
    ((if other.wrapsAll (ofLexemes lexemes) then [.openParenthesis] else []) ++
      [.nullLiteral, .whitespace]), by simp⟩

/-- What the front of the new source ends with if another call stands in front of the call. -/
theorem kindsBetween_front_of_closer {other : NullCheck}
    (checks : (ofLexemes lexemes).Checks check) (others : (ofLexemes lexemes).Checks other)
    (behind : other.closer < check.start)
    (blank : (ofLexemes lexemes).Blank (other.closer + 1) check.start) :
    ∃ front, ledger.kindsBetween (ofLexemes lexemes) 0 check.start = front ++
      [.closeParenthesis] ++
      ledger.kindsBetween (ofLexemes lexemes) (other.closer + 1) check.start := by
  have sits := sits_of_checks others
  have order := sits.order
  rw [Ledger.kindsBetween_split (Nat.zero_le (other.closer + 1)) behind,
    Ledger.kindsBetween_split (Nat.zero_le (other.last + 1)) (by omega),
    kindsBetween_trail (bounded_ofLexemes lexemes) writes others sits,
    wrapsAll_of_follows checks behind blank]
  exact ⟨ledger.kindsBetween (ofLexemes lexemes) 0 (other.last + 1) ++
    (if other.wrapsArgument (ofLexemes lexemes) then [.closeParenthesis] else []), by simp⟩

/-- No separator stands directly in front of a comparison if none stands in front of the call. -/
theorem getLast?_front (checks : (ofLexemes lexemes).Checks check) :
    (ledger.kindsBetween (ofLexemes lexemes) 0 check.start).getLast? = some .namespaceSeparator ↔
      (ofLexemes lexemes).hasKind (check.start - 1) .namespaceSeparator = true := by
  have bounded := bounded_ofLexemes lexemes
  have sits := sits_of_checks checks
  have inside := lt_size_of_hasKind checks.1
  have order := sits.order
  rcases Nat.eq_zero_or_pos check.start with first | later
  · have differs : ¬(ofLexemes lexemes).hasKind (check.start - 1) .namespaceSeparator = true :=
      fun isSeparator => sits.start_ne_of_hasKind isSeparator (by decide) (by omega)
    rw [first, Ledger.kindsBetween_self, ← first]
    exact iff_of_false (by simp) differs
  · obtain ⟨place, start_eq⟩ : ∃ place, check.start = place + 1 := ⟨check.start - 1, by omega⟩
    rcases exists_token?_of_lt (show place < (ofLexemes lexemes).size by omega) with ⟨token, here⟩
    have place_eq : check.start - 1 = place := by omega
    rw [place_eq]
    rcases exists_touches_or (ofLexemes lexemes) place with ⟨other, others, touches⟩ | untouched
    · have otherSits := sits_of_checks others
      have otherOrder := otherSits.order
      rcases touches_before checks others (show place < check.start by omega)
        (fun between _ _ => by omega) touches with ⟨before, begins⟩ | ⟨same, last_lt⟩
      · rcases kindsBetween_front_of_first writes others begins with ⟨front, front_eq⟩
        refine iff_of_false ?_ fun isSeparator => ?_
        · rw [front_eq]
          cases other.wrapsArgument (ofLexemes lexemes) <;> simp
        · have differs := ne_of_hasKind isSeparator otherSits.opens (by decide)
          have padding := otherSits.argument.lead place (by omega) (by omega)
          rw [kindIs_of_hasKind isSeparator] at padding
          cases padding
      · rcases kindsBetween_front_of_closer writes checks others (by omega)
          (fun between _ _ => by omega) with ⟨front, front_eq⟩
        refine iff_of_false ?_ fun isSeparator => ?_
        · rw [front_eq, start_eq, ← same, Ledger.kindsBetween_self]
          simp
        · exact ne_of_hasKind isSeparator otherSits.closes (by decide) same
    · rw [start_eq, Ledger.kindsBetween_split (Nat.zero_le place) (Nat.le_succ place),
        kindsBetween_of_untouched bounded writes untouched here]
      simp [TokenStream.hasKind, kind?, here]

theorem lastCode?_front_of_first {other : NullCheck} (others : (ofLexemes lexemes).Checks other)
    (begins : other.first = check.start) :
    (lastCode? (ledger.kindsBetween (ofLexemes lexemes) 0 check.start)).all bindsLoose =
      other.wrapsArgument (ofLexemes lexemes) := by
  rcases kindsBetween_front_of_first writes others begins with ⟨front, front_eq⟩
  rw [front_eq, lastCode?_append, lastCode?_append]
  cases other.wrapsArgument (ofLexemes lexemes) with
  | true => rfl
  | false => cases other.isNegated <;> rfl

/-- What the new source has in front of a comparison binds looser, unless the call is where the bare
argument of another call begins. -/
theorem bindsLoose_front_iff (checks : (ofLexemes lexemes).Checks check)
    (loose : isLooseAt (ofLexemes lexemes) ((ofLexemes lexemes).previousCode? check.start) = true) :
    (lastCode? (ledger.kindsBetween (ofLexemes lexemes) 0 check.start)).all bindsLoose = true ↔
      ¬∃ outer, (ofLexemes lexemes).Checks outer ∧ outer.first = check.start ∧
        outer.wrapsArgument (ofLexemes lexemes) = false := by
  constructor
  · rintro isLoose ⟨outer, outers, begins, bare⟩
    rw [lastCode?_front_of_first writes outers begins, bare] at isLoose
    cases isLoose
  intro none_bare
  have sits := sits_of_checks checks
  have order := sits.order
  have inside : check.start ≤ (ofLexemes lexemes).size := by
    have name_lt := lt_size_of_hasKind checks.1
    omega
  cases previous : (ofLexemes lexemes).previousCode? check.start with
  | none =>
      have blank := blank_of_previousCode?_eq_none inside previous
      rw [(code?_of_blank writes blank).1]
      rfl
  | some place =>
      rcases blank_of_previousCode? inside previous with ⟨before, blank, code⟩
      have rest := (code?_of_blank writes blank).1
      rcases exists_touches_or (ofLexemes lexemes) place with ⟨other, others, touches⟩ | untouched
      · rcases touches_before checks others before blank.padded touches with
          ⟨-, begins⟩ | ⟨rfl, -⟩
        · rw [lastCode?_front_of_first writes others begins, ← Bool.not_eq_false]
          exact fun bare => none_bare ⟨other, others, begins, bare⟩
        · rcases kindsBetween_front_of_closer writes checks others before blank with
            ⟨front, front_eq⟩
          rw [front_eq, lastCode?_append, lastCode?_append, rest]
          rfl
      · rcases exists_token?_of_lt (before.trans_le inside) with ⟨token, here⟩
        rw [previous] at loose
        simp only [isLooseAt, Option.all_some, kindIs, kind?, here, Option.map_some,
          Option.any_some] at loose code
        rw [Ledger.kindsBetween_split (Nat.zero_le place) before.le,
          Ledger.kindsBetween_split (Nat.le_succ place) before, lastCode?_append, lastCode?_append,
          Nat.succ_eq_add_one, rest,
          kindsBetween_of_untouched (bounded_ofLexemes lexemes) writes untouched here]
        simpa [lastCode?, code] using loose

/-- What the new source has behind a comparison binds looser. -/
theorem bindsLoose_back (checks : (ofLexemes lexemes).Checks check)
    (loose : isLooseAt (ofLexemes lexemes)
      ((ofLexemes lexemes).nextCode? (check.closer + 1)) = true) :
    (firstCode? (ledger.kindsBetween (ofLexemes lexemes) (check.closer + 1)
      (ofLexemes lexemes).size)).all bindsLoose = true := by
  have bounded := bounded_ofLexemes lexemes
  -- Behind the call the argument of another call may end, and behind that one again another one.
  induction left : (ofLexemes lexemes).size - check.closer using Nat.strong_induction_on
    generalizing check with
  | _ left ih =>
    have sits := sits_of_checks checks
    have inside := lt_size_of_hasKind sits.closes
    cases next : (ofLexemes lexemes).nextCode? (check.closer + 1) with
    | none =>
        have blank := blank_of_nextCodeBefore?_eq_none (Nat.le_refl _) next
        rw [(code?_of_blank writes blank).2]
        rfl
    | some place =>
        rcases of_nextCodeBefore? (Nat.le_refl _) next with
          ⟨after, within, blank, token, here, code⟩
        have gap := (code?_of_blank writes blank).2
        rw [next] at loose
        simp only [isLooseAt, Option.all_some] at loose
        rcases exists_touches_or (ofLexemes lexemes) place with
          ⟨other, others, touches⟩ | untouched
        · have otherSits := sits_of_checks others
          have otherOrder := otherSits.order
          have otherInside := lt_size_of_hasKind otherSits.closes
          rcases touches_after checks others after blank.padded touches with
            rfl | ⟨ends, last_lt⟩
          · rw [(start_binds others).2] at loose
            cases loose
          · rw [ends, Ledger.kindsBetween_split (show other.last + 1 ≤ other.closer + 1 by omega)
              otherInside, kindsBetween_trail bounded writes others otherSits, firstCode?_append]
            cases wrapsArgument : other.wrapsArgument (ofLexemes lexemes) with
            | true => rfl
            | false =>
                cases wrapsAll : other.wrapsAll (ofLexemes lexemes) with
                | true => rfl
                | false =>
                    have otherLoose := wrapsAll
                    rw [NullCheck.wrapsAll, Bool.not_eq_false', Bool.and_eq_true] at otherLoose
                    exact ih _ (by omega) others otherLoose.2 rfl
        · rw [Ledger.kindsBetween_split after within.le,
            Ledger.kindsBetween_split (Nat.le_succ place) within, firstCode?_append,
            firstCode?_append, Nat.succ_eq_add_one, gap,
            kindsBetween_of_untouched bounded writes untouched here]
          simp only [kindIs, kind?, here, Option.map_some, Option.any_some] at loose
          simpa [firstCode?, code] using loose

/-- What the new source has in place of a call. -/
theorem wrapped_iff (checks : (ofLexemes lexemes).Checks check) :
    (ledger.kindsBetween (ofLexemes lexemes) check.start (check.closer + 1)).head? =
        some .openParenthesis ∧
      (ledger.kindsBetween (ofLexemes lexemes) check.start (check.closer + 1)).getLast? =
        some .closeParenthesis ↔ check.wrapsAll (ofLexemes lexemes) = true := by
  have bounded := bounded_ofLexemes lexemes
  have sits := sits_of_checks checks
  have order := sits.order
  rw [Ledger.kindsBetween_split (show check.start ≤ check.first by omega) (by omega),
    Ledger.kindsBetween_split (show check.first ≤ check.last + 1 by omega) (by omega),
    kindsBetween_lead bounded writes checks sits, kindsBetween_trail bounded writes checks sits]
  cases check.wrapsAll (ofLexemes lexemes) with
  | true =>
      refine iff_of_true ⟨rfl, ?_⟩ rfl
      rw [List.getLast?_append, List.getLast?_append, List.getLast?_append]
      rfl
  | false => simp

/-- How a comparison binds in the new source is decided by what stands in front of its call. -/
theorem binds_iff (checks : (ofLexemes lexemes).Checks check) :
    Binds (ledger.kindsBetween (ofLexemes lexemes) 0 check.start)
        (ledger.kindsBetween (ofLexemes lexemes) check.start (check.closer + 1))
        (ledger.kindsBetween (ofLexemes lexemes) (check.closer + 1) (ofLexemes lexemes).size) ↔
      (ofLexemes lexemes).hasKind (check.start - 1) .namespaceSeparator = false ∧
        (check.wrapsAll (ofLexemes lexemes) = true ∨
          ¬∃ outer, (ofLexemes lexemes).Checks outer ∧ outer.first = check.start ∧
            outer.wrapsArgument (ofLexemes lexemes) = false) := by
  rw [Binds, ne_eq, getLast?_front writes checks, Bool.not_eq_true,
    wrapped_iff writes checks]
  refine and_congr_right fun _ => ?_
  cases wraps : check.wrapsAll (ofLexemes lexemes) with
  | true => simp
  | false =>
      rw [wrapsAll, Bool.not_eq_false', Bool.and_eq_true] at wraps
      rw [bindsLoose_front_iff writes checks wraps.1,
        bindsLoose_back writes checks wraps.2]
      simp

end Neighbours

/-- A fixing pass of the rule alone rewrites the calls of a stream and leaves the rest alone. -/
theorem writesChecks_dispatch (lexemes : List Lexeme) {dispatcher : Dispatcher}
    (alone : dispatcher.rules = [Rule.nullCheck]) :
    WritesChecks (dispatcher.dispatch (ofLexemes lexemes) true).2.pass.ledger
      (ofLexemes lexemes) where
  touched checks touches := patch?_of_touches alone checks touches
  untouched inside untouched := patch?_of_untouched alone inside untouched

end NullCheck

/-- A fixing pass rewrites every call of the rule. As long as the new source is read token by token,
a comparison in it binds as the call did exactly if no separator stands directly in front of the
call and the comparison is in parentheses, or else no bare argument of another call begins with the
call. -/
theorem NullCheck.keepsBinding_iff {source : String} {stream : TokenStream} {options : Value}
    {dispatcher : Dispatcher} {pass : Pass} {check : NullCheck}
    (read : tokenize source = .ok stream)
    (made : Dispatcher.ofRules [Rule.nullCheck] options = .ok dispatcher)
    (ran : (dispatcher.dispatch stream true).2.pass = pass) (checks : stream.Checks check) :
    (∀ edit ∈ check.edits stream,
      pass.ledger.patch? edit.index = some (.exchanged edit.text)) ∧
    ∀ found, lex pass.contents = .ok found → pass.ledger.ReadsAsWritten stream found →
      (check.KeepsBinding stream pass.ledger found ↔
        stream.hasKind (check.start - 1) .namespaceSeparator = false ∧
          (check.wrapsAll stream = true ∨
            ¬∃ outer, stream.Checks outer ∧ outer.first = check.start ∧
              outer.wrapsArgument stream = false)) := by
  rcases strict_of_tokenize read with ⟨lexemes, rfl, -⟩
  have alone : dispatcher.rules = [Rule.nullCheck] := by
    rw [Dispatcher.rules_of_ofRules made, List.mergeSort_singleton]
  have writes := writesChecks_dispatch lexemes alone
  have sits := sits_of_checks checks
  have order := sits.order
  rw [ran] at writes
  refine ⟨?_, ?_⟩
  · intro edit member
    rcases sits.text_of_mem_edits member with ⟨touches, text_eq⟩
    rw [writes.touched checks touches, text_eq]
  · intro found lexed reads
    rw [keepsBinding_iff_binds (bounded_ofLexemes lexemes) writes (by omega)
      (lt_size_of_hasKind sits.closes) lexed reads]
    exact binds_iff writes checks

/-- Both calls are replaced by comparisons between a keyword, a conjunction and a semicolon. -/
theorem NullCheck.keepsBinding_iff_conjunction :
    ∃ stream dispatcher found,
      tokenize "<?php return is_null($x) && !is_null($y->z);" = .ok stream ∧
      Dispatcher.ofRules [Rule.nullCheck] .null = .ok dispatcher ∧
      (dispatcher.dispatch stream true).2.pass.contents =
        "<?php return null === $x && null !== $y->z;" ∧
      lex (dispatcher.dispatch stream true).2.pass.contents = .ok found ∧
      (⟨10, 11, 12, 16, 13, 15⟩ : NullCheck).KeepsBinding stream
        (dispatcher.dispatch stream true).2.pass.ledger found ∧
      ¬∃ outer, stream.Checks outer ∧ outer.first = 10 ∧ outer.wrapsArgument stream = false := by
  have outcome : ∃ stream, tokenize "<?php return is_null($x) && !is_null($y->z);" = .ok stream ∧
      ∃ dispatcher, Dispatcher.ofRules [Rule.nullCheck] .null = .ok dispatcher ∧
        ∃ found, lex (dispatcher.dispatch stream true).2.pass.contents = .ok found ∧
          (dispatcher.dispatch stream true).2.pass.contents =
            "<?php return null === $x && null !== $y->z;" ∧
          (dispatcher.dispatch stream true).2.pass.ledger.ReadsAsWritten stream found ∧
          stream.Checks ⟨10, 11, 12, 16, 13, 15⟩ ∧
          (⟨10, 11, 12, 16, 13, 15⟩ : NullCheck).wrapsAll stream = false ∧
          (⟨10, 11, 12, 16, 13, 15⟩ : NullCheck).KeepsBinding stream
            (dispatcher.dispatch stream true).2.pass.ledger found := by
    decide +kernel
  rcases outcome with ⟨stream, read, dispatcher, made, found, lexed, contents_eq, reads, checks,
    bare, keeps⟩
  have binds := ((NullCheck.keepsBinding_iff read made rfl checks).2 found lexed reads).mp keeps
  rw [bare] at binds
  exact ⟨stream, dispatcher, found, read, made, contents_eq, lexed, keeps,
    binds.2.resolve_left Bool.false_ne_true⟩

/-- The inner one of two calls is left without parentheses behind the comparison for the outer one,
and a call behind a separator leaves the separator in front of its comparison. -/
theorem NullCheck.not_keepsBinding_nested_rooted :
    (∃ stream, tokenize "<?php is_null(is_null($x));" = .ok stream ∧
      ∃ dispatcher, Dispatcher.ofRules [Rule.nullCheck] .null = .ok dispatcher ∧
        ∃ found, lex (dispatcher.dispatch stream true).2.pass.contents = .ok found ∧
          (dispatcher.dispatch stream true).2.pass.contents = "<?php null === null === $x;" ∧
          (dispatcher.dispatch stream true).2.pass.ledger.ReadsAsWritten stream found ∧
          stream.Checks ⟨3, 3, 4, 6, 5, 5⟩ ∧
          ¬(⟨3, 3, 4, 6, 5, 5⟩ : NullCheck).KeepsBinding stream
            (dispatcher.dispatch stream true).2.pass.ledger found) ∧
    ∃ stream, tokenize "<?php \\is_null($x);" = .ok stream ∧
      ∃ dispatcher, Dispatcher.ofRules [Rule.nullCheck] .null = .ok dispatcher ∧
        ∃ found, lex (dispatcher.dispatch stream true).2.pass.contents = .ok found ∧
          (dispatcher.dispatch stream true).2.pass.contents = "<?php \\(null === $x);" ∧
          (dispatcher.dispatch stream true).2.pass.ledger.ReadsAsWritten stream found ∧
          stream.Checks ⟨2, 2, 3, 5, 4, 4⟩ ∧
          ¬(⟨2, 2, 3, 5, 4, 4⟩ : NullCheck).KeepsBinding stream
            (dispatcher.dispatch stream true).2.pass.ledger found := by
  decide +kernel

end TokenLint
