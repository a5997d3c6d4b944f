import TokenLint.Proofs.Lexer.Ends
import TokenLint.Proofs.Lexer.Similar

/-!
# Cuts that stay

A piece that is cut off before some text is cut off before every similar text as well. For
each shape this has two sides: where the shape ends with the piece in front of the old text
it does so in front of the new one, and where it does not stand in the old text it does not
stand in the new one.
-/

namespace TokenLint.Lexer

open Text

section Labels

variable {old new : List Char}

/-- A closing label in front of a text is one in front of each text before which it ends. -/
theorem lengthToClosingLabel?_append {label body : List Char} {atLineStart : Bool}
    (isName : IsName label) (ends : LabelEnds label old → LabelEnds label new)
    (found : lengthToClosingLabel? label atLineStart (body ++ old) = some body.length) :
    lengthToClosingLabel? label atLineStart (body ++ new) = some body.length := by
  have closing_pos : ∀ {chars : List Char} {length : Nat},
      closingLabelLength? label chars = some length → 0 < length := by
    intro chars length closes
    rcases exists_closingLabel closes with ⟨blanks, rest, -, -, -, rfl⟩
    exact Nat.add_pos_right _ (List.length_pos_iff.mpr isName.ne_nil)
  induction body generalizing atLineStart with
  | nil =>
      cases old with
      | nil => cases found
      | cons char rest =>
          simp only [List.nil_append, lengthToClosingLabel?] at found
          split at found
          · rename_i length closes
            split at closes
            · have := closing_pos closes
              simp only [Option.some.injEq, List.length_nil] at found
              omega
            · cases closes
          · simp only [Option.map_eq_some_iff] at found
            rcases found with ⟨inner, -, length_eq⟩
            simp at length_eq
  | cons char body ih =>
      simp only [List.cons_append, lengthToClosingLabel?] at found ⊢
      have later : (lengthToClosingLabel? label (char = '\n') (body ++ old)).map (· + 1) =
          some (char :: body).length →
          (lengthToClosingLabel? label (char = '\n') (body ++ new)).map (· + 1) =
            some (char :: body).length ∧ '\n' ∈ char :: body := by
        intro found
        simp only [Option.map_eq_some_iff, List.length_cons] at found
        rcases found with ⟨inner, found, length_eq⟩
        have : inner = body.length := by omega
        subst this
        refine ⟨by rw [ih found]; rfl, ?_⟩
        by_cases breaks : char = '\n'
        · rw [breaks]
          exact List.mem_cons_self ..
        · rw [decide_eq_false breaks] at found
          exact List.mem_cons_of_mem _ (newline_mem_of_lengthToClosingLabel? found)
      cases atLineStart with
      | false =>
          simp only [Bool.false_eq_true, if_false] at found ⊢
          exact (later found).1
      | true =>
          simp only [if_true] at found ⊢
          cases closes : closingLabelLength? label (char :: (body ++ old)) with
          | some length =>
              rw [closes] at found
              cases found
              rw [← List.cons_append] at closes
              rcases exists_closingLabel closes with
                ⟨blanks, rest, text_eq, blank, closed, length_eq⟩
              rw [← List.append_assoc] at text_eq
              rcases List.append_inj text_eq (by rw [length_eq, List.length_append]) with
                ⟨body_eq, rfl⟩
              have closes := closingLabelLength?_append isName blank (ends closed)
              rw [← List.append_assoc, ← body_eq, List.cons_append] at closes
              rw [closes, length_eq]
          | none =>
              rw [closes] at found
              rcases later found with ⟨newFound, newline⟩
              have open_still : closingLabelLength? label (char :: (body ++ new)) = none := by
                rw [← List.cons_append] at closes ⊢
                by_contra closed
                rcases Option.ne_none_iff_exists'.mp closed with ⟨length, closed⟩
                rw [closingLabelLength?_of_newline new isName newline closed] at closes
                cases closes
              rw [open_still]
              exact newFound

/-- A heredoc, or a shift operator, that is cut off before a text is cut off before another one if
no heredoc starts there and its label ends there. -/
theorem heredocLength?_append {piece : List Char}
    (starts : heredocStart? (piece ++ old) = none → heredocStart? (piece ++ new) = none)
    (ends : heredocStart? (piece ++ old) ≠ none → ∀ label, LabelEnds label old →
      LabelEnds label new)
    (found : heredocLength? (piece ++ old) = some piece.length) :
    heredocLength? (piece ++ new) = some piece.length := by
  simp only [heredocLength?] at found ⊢
  cases started : heredocStart? (piece ++ old) with
  | none =>
      rw [started] at found
      rw [starts started]
      exact found
  | some start =>
      rcases start with ⟨label, startLength⟩
      have labelEnds := ends (by simp [started]) label
      rw [started] at found
      simp only [Option.map_eq_some_iff] at found
      rcases found with ⟨bodyLength, closes, length_eq⟩
      rcases exists_heredocStart started with ⟨blanks, quote, lineBreak, rest, text_eq, parts⟩
      rw [text_eq, heredocStart?_heredocText parts] at started
      simp only [Option.some.injEq, Prod.mk.injEq, true_and] at started
      subst started
      rw [text_eq, List.drop_left] at closes
      have starts : heredocText blanks quote label lineBreak <+: piece := by
        have here : heredocText blanks quote label lineBreak <+: piece ++ old := by
          rw [text_eq]
          exact List.prefix_append _ _
        exact List.prefix_of_prefix_length_le here (List.prefix_append _ _) (by omega)
      rcases starts with ⟨body, rfl⟩
      rw [List.append_assoc, List.append_cancel_left_eq] at text_eq
      subst text_eq
      have : bodyLength = body.length := by
        rw [List.length_append] at length_eq
        omega
      subst this
      rw [List.append_assoc, heredocStart?_heredocText parts]
      simp only [List.drop_left, lengthToClosingLabel?_append parts.label_name labelEnds closes,
        Option.map_some, List.length_append]

end Labels

namespace Similar

variable {old new : List Char}

theorem labelEnds (similar : Similar old new) {label : List Char} (ends : LabelEnds label old) :
    LabelEnds label new := by
  have word : ∀ first ∈ neutralChars, ∀ second ∈ neutralChars, isWord first = isWord second := by
    decide
  simp only [LabelEnds, isWordBoundary, similar.any_head word] at ends ⊢
  exact ends

/-- A name that ends before the old text ends before the new one. -/
theorem nameLength_append (similar : Similar old new) {piece : List Char} (nonempty : piece ≠ [])
    (length_eq : nameLength (piece ++ old) = piece.length) :
    nameLength (piece ++ new) = piece.length := by
  rcases exists_name_of_length nonempty length_eq with ⟨isName, stops⟩
  exact Lexer.nameLength_append isName (similar.stops_namePart_iff.mp stops)

/-- A heredoc, or a shift operator, that is cut off before the old text is cut off before the new
one. -/
theorem heredocLength?_append (similar : Similar old new) {piece : List Char}
    (found : heredocLength? (piece ++ old) = some piece.length) :
    heredocLength? (piece ++ new) = some piece.length := by
  refine Lexer.heredocLength?_append (fun absent => ?_) (fun _ _ => similar.labelEnds) found
  have := mt (similar.append piece).heredocStart?_isSome_old
  simpa [absent] using this

/-- A sign without neutral letters and question marks stands in both texts or in none. -/
theorem isPrefixOf_eq (similar : Similar old new) {sign : List Char}
    (plain : ∀ char ∈ sign, char ∉ '?' :: neutralChars) :
    sign.isPrefixOf old = sign.isPrefixOf new := by
  rw [Bool.eq_iff_iff, List.isPrefixOf_iff_prefix, List.isPrefixOf_iff_prefix]
  constructor
  · rintro ⟨rest, rfl⟩
    induction sign generalizing new with
    | nil => exact List.nil_prefix
    | cons char sign ih =>
        rcases similar.of_cons_left (plain char (List.mem_cons_self ..)) with ⟨after, rfl, tail⟩
        exact List.prefix_cons_inj char |>.mpr
          (ih (fun other member => plain other (List.mem_cons_of_mem _ member)) tail)
  · rintro ⟨rest, rfl⟩
    rcases similar.exists_plain_old plain with ⟨before, rfl, -⟩
    exact List.prefix_append _ _

theorem lineCommentReach_eq_zero (similar : Similar old new) (ends : lineCommentReach old = 0) :
    lineCommentReach new = 0 := by
  cases similar with
  | nil => rfl
  | keep char rest =>
      simp only [lineCommentReach_cons, rest.head?_eq_some_iff (by decide : '>' ∉ neutralChars)]
        at ends ⊢
      split at ends
      · rename_i stops
        rw [if_pos stops]
      · omega
  | exchange names ends' rest =>
      have inside : ∀ char ∈ neutralChars, char ≠ '\r' ∧ char ≠ '\n' ∧ char ≠ '?' := by decide
      rcases names.exists_cons with ⟨first, neutral, _, _, oldTail, newTail, rfl, rfl⟩
      simp [lineCommentReach_cons, inside first neutral] at ends
  | drop dropped opens rest =>
      rw [lineCommentReach_cons] at ends
      have inside : ¬((dropped ++ ':' :: _).head? = some '>') := fun head =>
        absurd (closesTag_iff.mpr ⟨rfl, head⟩) (by rw [opens]; decide)
      rw [if_neg (by simp only [inside, and_false, or_false]; decide)] at ends
      omega

theorem lineCommentReach_append (similar : Similar old new) {piece : List Char}
    (found : lineCommentReach (piece ++ old) = piece.length) :
    lineCommentReach (piece ++ new) = piece.length := by
  induction piece with
  | nil => exact similar.lineCommentReach_eq_zero found
  | cons char piece ih =>
      simp only [List.cons_append, lineCommentReach_cons, List.length_cons,
        (similar.append piece).head?_eq_some_iff (by decide : '>' ∉ neutralChars)] at found ⊢
      split at found
      · omega
      · rename_i inside
        rw [if_neg inside, ih (by omega)]
        omega

/-- A line comment that ends before the old text ends before the new one. -/
theorem lineCommentLength_append (similar : Similar old new) {piece : List Char}
    (positive : 0 < lineCommentLength (piece ++ old))
    (length_eq : lineCommentLength (piece ++ old) = piece.length) :
    lineCommentLength (piece ++ new) = piece.length := by
  rcases lineCommentLength_pos_iff.mp positive with slashes | hash
  · rcases List.isPrefixOf_iff_prefix.mp slashes with ⟨tail, text_eq⟩
    have two_le : 2 ≤ piece.length := by
      rw [← length_eq, ← text_eq]
      simp [lineCommentLength]
    rcases piece with _ | ⟨first, _ | ⟨second, body⟩⟩
    · cases two_le
    · simp at two_le
    · simp only [List.cons_append, List.nil_append, List.cons.injEq] at text_eq
      rcases text_eq with ⟨rfl, rfl, -⟩
      simp only [List.cons_append, lineCommentLength, List.length_cons] at length_eq ⊢
      rw [similar.lineCommentReach_append (by omega)]
      omega
  · rcases List.isPrefixOf_iff_prefix.mp hash with ⟨tail, text_eq⟩
    cases piece with
    | nil => exact absurd positive (by rw [length_eq]; exact Nat.lt_irrefl 0)
    | cons first body =>
        simp only [List.cons_append, List.nil_append, List.cons.injEq] at text_eq
        rcases text_eq with ⟨rfl, -⟩
        simp only [List.cons_append, lineCommentLength, List.length_cons] at length_eq ⊢
        rw [similar.lineCommentReach_append (by omega)]
        omega

theorem labelBreakLength_eq (similar : Similar old new) :
    labelBreakLength old = labelBreakLength new := by
  have unbroken : ∀ char ∈ neutralChars, char ≠ '\n' ∧ char ≠ '\r' := by decide
  cases similar with
  | nil => rfl
  | keep char rest =>
      simp only [labelBreakLength_cons, rest.head?_eq_some_iff (by decide : '\n' ∉ neutralChars)]
  | exchange names ends rest =>
      rcases names.exists_cons with
        ⟨first, first_neutral, second, second_neutral, oldTail, newTail, rfl, rfl⟩
      simp [labelBreakLength_cons, unbroken first first_neutral, unbroken second second_neutral]
  | drop dropped opens rest => rfl

/-- A close tag that ends before the old text ends before the new one. -/
theorem closeTagLength_append (similar : Similar old new) {piece : List Char}
    (positive : 0 < closeTagLength (piece ++ old))
    (length_eq : closeTagLength (piece ++ old) = piece.length) :
    closeTagLength (piece ++ new) = piece.length := by
  rcases List.isPrefixOf_iff_prefix.mp (closeTagLength_pos_iff.mp positive) with ⟨tail, text_eq⟩
  have two_le : 2 ≤ piece.length := by
    rw [← length_eq, ← text_eq, List.cons_append, List.cons_append, closeTagLength_closesTag]
    omega
  rcases piece with _ | ⟨first, _ | ⟨second, body⟩⟩
  · cases two_le
  · simp at two_le
  · simp only [List.cons_append, List.nil_append, List.cons.injEq] at text_eq
    rcases text_eq with ⟨rfl, rfl, -⟩
    simp only [List.cons_append, closeTagLength_closesTag] at length_eq ⊢
    rw [← (similar.append body).labelBreakLength_eq]
    exact length_eq

/-- Where no tag closes before the edits, none closes after them. -/
theorem closeTagLength_eq_zero (similar : Similar old new) (absent : ¬0 < closeTagLength old) :
    ¬0 < closeTagLength new := by
  rw [closeTagLength_pos_iff] at absent ⊢
  exact fun here => absent (similar.isPrefixOf_old (by decide) (by decide) here)

theorem variableLength_pos_iff (similar : Similar old new) {piece : List Char}
    (nonempty : piece ≠ []) :
    0 < variableLength (piece ++ old) ↔ 0 < variableLength (piece ++ new) := by
  cases piece with
  | nil => exact absurd rfl nonempty
  | cons first body =>
      have names := (similar.append body).nameLength_pos_iff
      by_cases dollar : first = '$'
      · subst dollar
        simp only [List.cons_append, variableLength]
        split <;> split <;> omega
      · simp [variableLength, dollar]

/-- A variable that ends before the old text ends before the new one. -/
theorem variableLength_append (similar : Similar old new) {piece : List Char}
    (positive : 0 < variableLength (piece ++ old))
    (length_eq : variableLength (piece ++ old) = piece.length) :
    variableLength (piece ++ new) = piece.length := by
  cases piece with
  | nil =>
      rw [length_eq] at positive
      exact absurd positive (Nat.lt_irrefl 0)
  | cons first body =>
      by_cases dollar : first = '$'
      · subst dollar
        simp only [List.cons_append, variableLength, List.length_cons] at length_eq positive ⊢
        split at length_eq
        · omega
        · rename_i named
          have body_ne_nil : body ≠ [] := by
            rintro rfl
            simp only [List.nil_append, List.length_nil] at named length_eq
            omega
          rw [similar.nameLength_append body_ne_nil (by omega)]
          have := List.length_pos_iff.mpr body_ne_nil
          rw [if_neg (by omega)]
          omega
      · simp [variableLength, dollar] at positive

/-- The operator that is cut off before the old text is cut off before the new one. -/
theorem operatorLength?_append (similar : Similar old new) {piece : List Char}
    (found : operatorLength? (piece ++ old) = some piece.length) :
    operatorLength? (piece ++ new) = some piece.length := by
  have plain : ∀ entry ∈ operators, (∀ char ∈ entry.1.toList, char ∉ neutralChars) ∧
      (':' ∈ entry.1.toList → '?' ∉ entry.1.toList) := by decide
  simp only [operatorLength?, Option.map_eq_some_iff] at found ⊢
  rcases found with ⟨entry, found, length_eq⟩
  refine ⟨entry, ?_, length_eq⟩
  rw [List.find?_eq_some_iff_append] at found ⊢
  rcases found with ⟨here, before, after, operators_eq, absent⟩
  refine ⟨?_, before, after, operators_eq, ?_⟩
  · rw [List.isPrefixOf_iff_prefix] at here ⊢
    have starts := List.prefix_of_prefix_length_le here (List.prefix_append _ _)
      (by rw [String.length_toList, length_eq])
    exact starts.trans (List.prefix_append _ _)
  · intro other member
    have other_plain := plain other (by
      rw [operators_eq]
      exact List.mem_append_left _ member)
    have := mt ((similar.append piece).isPrefixOf_old other_plain.1 other_plain.2)
    simp only [Bool.not_eq_true, Bool.not_eq_true'] at this ⊢
    exact this (by simpa using absent other member)

/-- A cast that is cut off before the old text is cut off before the new one. -/
theorem cast?_append {piece : List Char} {name : String} {length : Nat}
    (found : cast? (castNames.map Prod.fst) (piece ++ old) = some (name, length))
    (length_eq : length = piece.length) :
    cast? (castNames.map Prod.fst) (piece ++ new) = some (name, length) := by
  rcases exists_cast castNames_proper found with ⟨leading, word, trailing, rest, text_eq, parts⟩
  rw [text_eq, cast?_castText parts] at found
  cases found
  rcases List.append_inj text_eq length_eq.symm with ⟨rfl, -⟩
  rw [cast?_castText parts]

end Similar

/-- Where a quote stands, there is a quoted string or no word at all. -/
theorem wordLength?_quoted {quote : Char} (member : quote ∈ ['\'', '"', '\x60'])
    (text : List Char) :
    wordLength? (quote :: text) =
      if 0 < stringLength quote (quote :: text) then some (stringLength quote (quote :: text))
      else none := by
  have noOperator : operatorLength? (quote :: text) = none := by
    have heads : ∀ quote ∈ ['\'', '"', '\x60'], ∀ entry ∈ operators,
        entry.1.toList ≠ [] ∧ entry.1.toList.head? ≠ some quote := by decide
    simp only [operatorLength?, Option.map_eq_none_iff, List.find?_eq_none,
      List.isPrefixOf_iff_prefix]
    intro entry among starts
    rcases heads quote member entry among with ⟨nonempty, differs⟩
    cases entry_eq : entry.1.toList with
    | nil => exact nonempty entry_eq
    | cons first rest =>
        rw [entry_eq] at starts differs
        exact differs (congrArg some (List.cons_prefix_cons.mp starts).1)
  have plain : ∀ quote ∈ ['\'', '"', '\x60'],
      isDigit quote = false ∧ isNameStart quote = false ∧ quote ≠ '.' ∧ quote ≠ '0' := by decide
  rcases plain quote member with ⟨noDigit, noName, noPoint, noZero⟩
  have digits : digitRunLength (quote :: text) = 0 := by simp [digitRunLength, noDigit]
  have unnamed : nameLength (quote :: text) = 0 := by simp [nameLength, noName]
  have noFloat : floatLength (quote :: text) = 0 := by
    rw [floatLength_of_unpointed (by rw [digits]; simpa using noPoint), digits]
    simp
  have noInteger : integerLength (quote :: text) = 0 := by
    rw [integerLength_of_nonzero (by simpa using noZero), digits]
  simp only [List.mem_cons, List.not_mem_nil, or_false] at member
  rcases member with rfl | rfl | rfl
  · simp [wordLength?, noFloat, noInteger, unnamed, noOperator, variableLength, cast?, stringLength]
  · simp [wordLength?, noFloat, noInteger, unnamed, noOperator, variableLength, cast?, stringLength]
  · simp [wordLength?, noFloat, noInteger, unnamed, noOperator, variableLength, cast?, stringLength]

namespace Similar

variable {old new : List Char}

/-- A word that is cut off before the old text is cut off before the new one. -/
theorem wordLength?_append (similar : Similar old new) {piece : List Char} (nonempty : piece ≠ [])
    (found : wordLength? (piece ++ old) = some piece.length) :
    wordLength? (piece ++ new) = some piece.length := by
  have texts := similar.append piece
  have positive : 0 < piece.length := List.length_pos_iff.mpr nonempty
  by_cases quoted : ∃ quote ∈ ['\'', '"', '\x60'], ∃ body, piece = quote :: body
  · rcases quoted with ⟨quote, member, body, rfl⟩
    rw [List.cons_append, wordLength?_quoted member] at found ⊢
    split at found
    · rename_i opens
      have plain : quote ≠ '\\' := by
        rintro rfl
        simp at member
      have length_eq := Option.some.inj found
      rw [← List.cons_append] at opens length_eq ⊢
      rw [stringLength_append plain new opens length_eq, if_pos positive]
    · cases found
  · have unquoted : ∀ quote ∈ ['\'', '"', '\x60'], ∀ text,
        stringLength quote (piece ++ text) = 0 := by
      intro quote member text
      cases piece with
      | nil => exact absurd rfl nonempty
      | cons first body =>
          have differs : first ≠ quote := fun same => quoted ⟨quote, member, body, by rw [same]⟩
          simp [stringLength, differs]
    have single := unquoted '\'' (by simp)
    have double := unquoted '"' (by simp)
    have backtick := unquoted '\x60' (by simp)
    simp only [wordLength?, single, double, backtick, Nat.lt_irrefl, if_false] at found ⊢
    by_cases isVariable : 0 < variableLength (piece ++ old)
    · rw [if_pos isVariable, Option.some.injEq] at found
      have kept := similar.variableLength_append isVariable found
      rw [kept, if_pos positive]
    rw [if_neg isVariable] at found
    rw [if_neg (mt (similar.variableLength_pos_iff nonempty).mpr isVariable)]
    cases cast : cast? (castNames.map Prod.fst) (piece ++ old) with
    | some parts =>
        rcases parts with ⟨name, length⟩
        rw [cast] at found
        simp only [Option.map_eq_some_iff] at found
        rcases found with ⟨kind, named, rfl⟩
        rw [cast?_append cast rfl]
        simp only [named, Option.map_some]
    | none =>
        have absent : cast? (castNames.map Prod.fst) (piece ++ new) = none := by
          have := mt texts.cast?_isSome_old
          simpa [cast] using this
        rw [cast] at found
        rw [absent]
        dsimp only at found ⊢
        rw [texts.floatLength_eq, texts.integerLength_eq] at found
        split at found
        · rename_i isFloat
          rw [if_pos isFloat, found]
        rename_i noFloat
        rw [if_neg noFloat]
        split at found
        · rename_i isInteger
          rw [if_pos isInteger, found]
        rename_i noInteger
        rw [if_neg noInteger]
        split at found
        · rename_i isName
          have kept := similar.nameLength_append nonempty (Option.some.inj found)
          rw [kept, if_pos positive]
        rename_i noName
        rw [if_neg (mt texts.nameLength_pos_iff.mpr noName)]
        exact similar.operatorLength?_append found

/-- A block comment that is cut off before the old text is cut off before any other one. -/
theorem blockCommentLength?_append {piece : List Char}
    (found : blockCommentLength? (piece ++ old) = some piece.length) :
    blockCommentLength? (piece ++ new) = some piece.length := by
  simp only [blockCommentLength?, Option.map_eq_some_iff] at found ⊢
  rcases found with ⟨inner, found, length_eq⟩
  rcases piece with _ | ⟨first, _ | ⟨second, body⟩⟩
  · simp at length_eq
  · simp at length_eq
  · simp only [List.cons_append, List.drop_succ_cons, List.drop_zero] at found ⊢
    have : inner = body.length := by
      simp only [List.length_cons] at length_eq
      omega
    subst this
    exact ⟨body.length, lengthToCommentEnd?_append new found, length_eq⟩

/-- A piece of code that is cut off before the old text is cut off before the new one. -/
theorem codeLength?_append (similar : Similar old new) {piece : List Char} (nonempty : piece ≠ [])
    (found : codeLength? (piece ++ old) = some piece.length) :
    codeLength? (piece ++ new) = some piece.length := by
  have texts := similar.append piece
  have positive : 0 < piece.length := List.length_pos_iff.mpr nonempty
  simp only [codeLength?] at found ⊢
  rw [texts.isPrefixOf_eq (by decide : ∀ char ∈ ['<', '<', '<'], char ∉ '?' :: neutralChars),
    texts.isPrefixOf_eq (by decide : ∀ char ∈ ['/', '*'], char ∉ '?' :: neutralChars),
    texts.whitespaceLength_eq] at found
  split at found
  · rename_i opens
    rw [if_pos opens]
    exact similar.heredocLength?_append found
  rename_i noHeredoc
  rw [if_neg noHeredoc]
  split at found
  · rename_i opens
    rw [if_pos opens]
    exact blockCommentLength?_append found
  rename_i noBlock
  rw [if_neg noBlock]
  split at found
  · rename_i blank
    rw [if_pos blank, found]
  rename_i noBlank
  rw [if_neg noBlank]
  split at found
  · rename_i comments
    have kept := similar.lineCommentLength_append comments (Option.some.inj found)
    rw [kept, if_pos positive]
  rename_i noComment
  rw [if_neg]
  · exact similar.wordLength?_append nonempty found
  · rw [lineCommentLength_pos_iff] at noComment ⊢
    rw [← texts.isPrefixOf_eq (by decide : ∀ char ∈ ['/', '/'], char ∉ '?' :: neutralChars),
      ← texts.isPrefixOf_eq (by decide : ∀ char ∈ ['#'], char ∉ '?' :: neutralChars)]
    exact noComment

theorem absorbedLength_eq (similar : Similar old new) :
    absorbedLength old = absorbedLength new := by
  have solid : ∀ char ∈ neutralChars,
      isSpaceOrTab char = false ∧ char ≠ '\n' ∧ char ≠ '\r' := by decide
  cases similar with
  | nil => rfl
  | keep char rest =>
      simp only [absorbedLength_cons, rest.head?_eq_some_iff (by decide : '\n' ∉ neutralChars)]
  | exchange names ends rest =>
      rcases names.exists_cons with
        ⟨first, first_neutral, second, second_neutral, oldTail, newTail, rfl, rfl⟩
      simp [absorbedLength_cons, solid first first_neutral, solid second second_neutral]
  | drop dropped opens rest => simp [absorbedLength_cons]

/-- A question mark of the new text that no colon follows comes from the old text. -/
theorem of_mark_right {next : Char} {rest : List Char}
    (similar : Similar old ('?' :: next :: rest)) (other : next ≠ ':') :
    ∃ before, old = '?' :: before ∧ Similar before (next :: rest) := by
  generalize text_eq : '?' :: next :: rest = text at similar
  cases similar with
  | nil => cases text_eq
  | keep char similar =>
      cases text_eq
      exact ⟨_, rfl, similar⟩
  | exchange names ends similar =>
      rcases names.exists_cons with ⟨_, _, second, neutral, oldTail, newTail, rfl, rfl⟩
      rw [← (List.cons.inj text_eq).1] at neutral
      exact absurd neutral (by decide)
  | drop dropped opens similar =>
      cases text_eq
      exact absurd rfl other

theorem openTagLength_pos_old (similar : Similar old new) (positive : 0 < openTagLength new) :
    0 < openTagLength old := by
  rcases exists_openTag positive with ⟨rest, rfl⟩ | ⟨first, second, third, rest, rfl, letters⟩
  · rcases similar.of_cons_right (by decide) with ⟨afterSign, rfl, marked⟩
    rcases marked.of_mark_right (by decide) with ⟨afterMark, rfl, echoes⟩
    rcases echoes.of_cons_right (by decide) with ⟨before, rfl, -⟩
    exact Nat.succ_pos _
  · have lower : ∀ char ∈ '?' :: neutralChars, char.toLower ≠ 'p' ∧ char.toLower ≠ 'h' := by decide
    have uncoloned : first ≠ ':' := by
      rintro rfl
      exact absurd letters.1 (by decide)
    have first_plain : first ∉ '?' :: neutralChars := fun member =>
      (lower first member).1 letters.1
    have second_plain : second ∉ '?' :: neutralChars := fun member =>
      (lower second member).2 letters.2.1
    have third_plain : third ∉ '?' :: neutralChars := fun member =>
      (lower third member).1 letters.2.2
    rcases similar.of_cons_right (by decide) with ⟨afterSign, rfl, marked⟩
    rcases marked.of_mark_right uncoloned with ⟨afterMark, rfl, firstLetter⟩
    rcases firstLetter.of_cons_right first_plain with ⟨afterFirst, rfl, secondLetter⟩
    rcases secondLetter.of_cons_right second_plain with ⟨afterSecond, rfl, thirdLetter⟩
    rcases thirdLetter.of_cons_right third_plain with ⟨before, rfl, -⟩
    rw [openTagLength_long before letters]
    omega

/-- An open tag that ends before the old text ends before the new one. -/
theorem openTagLength_append (similar : Similar old new) {piece : List Char}
    (positive : 0 < openTagLength (piece ++ old))
    (length_eq : openTagLength (piece ++ old) = piece.length) :
    openTagLength (piece ++ new) = piece.length := by
  rcases exists_openTag positive with
    ⟨rest, text_eq⟩ | ⟨first, second, third, rest, text_eq, letters⟩
  · rw [text_eq] at length_eq
    have length_eq : ['<', '?', '='].length = piece.length := length_eq
    have text_eq : piece ++ old = ['<', '?', '='] ++ rest := text_eq
    rcases List.append_inj text_eq length_eq.symm with ⟨rfl, -⟩
    rfl
  · rw [text_eq, openTagLength_long rest letters] at length_eq
    have starts : ['<', '?', first, second, third] <+: piece := by
      have here : ['<', '?', first, second, third] <+: piece ++ old := ⟨rest, text_eq.symm⟩
      refine List.prefix_of_prefix_length_le here (List.prefix_append _ _) ?_
      simp only [List.length_cons, List.length_nil]
      omega
    rcases starts with ⟨blank, rfl⟩
    simp only [List.cons_append, List.nil_append, List.cons.injEq, true_and] at text_eq
    subst text_eq
    simp only [List.cons_append, List.nil_append, openTagLength_long _ letters,
      (similar.append blank).absorbedLength_eq] at length_eq ⊢
    exact length_eq

/-- Markup that ends before the old text ends before the new one, if a tag that opens in the old
text opens in the new one. -/
theorem markupLength_append (similar : Similar old new)
    (tags : 0 < openTagLength old → 0 < openTagLength new) {piece : List Char}
    (length_eq : markupLength (piece ++ old) = piece.length) :
    markupLength (piece ++ new) = piece.length := by
  induction piece with
  | nil =>
      cases old with
      | nil => rw [similar.eq_nil]; rfl
      | cons char rest =>
          simp only [List.nil_append, markupLength, List.length_nil] at length_eq ⊢
          split at length_eq
          · rename_i opens
            have newOpens := tags opens
            cases new with
            | nil => rfl
            | cons first tail => rw [markupLength, if_pos newOpens]
          · omega
  | cons char piece ih =>
      simp only [List.cons_append, markupLength, List.length_cons] at length_eq ⊢
      split at length_eq
      · omega
      · rename_i closed
        have newClosed := mt (similar.append (char :: piece)).openTagLength_pos_old closed
        rw [List.cons_append] at newClosed
        rw [if_neg newClosed, ih (by omega)]
        omega

/-- A piece that is cut off before the old text is cut off before the new one. -/
theorem stride?_append (similar : Similar old new) {mode next : Mode} {piece : List Char}
    (nonempty : piece ≠ []) (tags : next = .markup → 0 < openTagLength old → 0 < openTagLength new)
    (cut : stride? mode (piece ++ old) = some (piece.length, next)) :
    stride? mode (piece ++ new) = some (piece.length, next) := by
  have positive : 0 < piece.length := List.length_pos_iff.mpr nonempty
  have texts := similar.append piece
  cases mode with
  | code =>
      simp only [stride?] at cut ⊢
      split at cut
      · rename_i closes
        simp only [Option.some.injEq, Prod.mk.injEq] at cut
        rw [similar.closeTagLength_append closes cut.1, if_pos positive, cut.2]
      · rename_i open_still
        simp only [Option.map_eq_some_iff, Prod.mk.injEq] at cut
        rcases cut with ⟨length, found, rfl, rfl⟩
        rw [if_neg (texts.closeTagLength_eq_zero open_still),
          similar.codeLength?_append nonempty found]
        rfl
  | markup =>
      simp only [stride?] at cut ⊢
      split at cut
      · rename_i opens
        simp only [Option.some.injEq, Prod.mk.injEq] at cut
        rw [similar.openTagLength_append opens cut.1, if_pos positive, cut.2]
      · rename_i closed
        rw [if_neg (mt texts.openTagLength_pos_old closed)]
        split at cut
        · simp only [Option.some.injEq, Prod.mk.injEq] at cut
          rcases cut with ⟨length_eq, rfl⟩
          rw [similar.markupLength_append (tags rfl) length_eq, if_pos positive]
        · cases cut

end Similar

end TokenLint.Lexer
