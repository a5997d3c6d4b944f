import TokenLint.Proofs.Navigation.CatchChain
import TokenLint.Proofs.Rule.Endings
import TokenLint.Proofs.Run.Findings

/-!
# Classes reported as caught twice

A clause is reported once if a name that is read in it has been read before in its chain, and not
reported otherwise. What is read as a name are the plain names and the separators between two bars.
That is the text of the alternative as long as it holds nothing else: a part of a qualified name
that is spelled like a keyword is a keyword, and left out.
-/

namespace TokenLint

open Lexer

/-! ### Alternatives and names -/

/-- Kinds that names of classes are read from. -/
def isNamePart (kind : TokenKind) : Bool := kind = .identifier || kind = .namespaceSeparator

/-- Kinds that the name of a class ends in front of. -/
def endsName (kind : TokenKind) : Bool := kind = .bitwiseOr || kind = .variable

/-- The text of the code of an alternative, in front of its variable if it has one. -/
def alternativeText (part : List Token) : String :=
  String.join (((part.takeWhile fun token => token.kind ≠ .variable).filter fun token =>
    !token.isTrivia).map Token.content)

/-- The texts between the bars of a catch clause that are not empty. -/
def alternatives (tokens : List Token) : List String :=
  ((tokens.splitOnP fun token => token.kind = .bitwiseOr).map alternativeText).filter (· ≠ "")

/-- The plain names and the separators among some tokens. -/
def nameText (part : List Token) : String :=
  String.join ((part.filter fun token => isNamePart token.kind).map Token.content)

/-- The names that are read between the bars and variables of a catch clause. -/
def namesRead (tokens : List Token) : List String :=
  ((tokens.splitOnP fun token => endsName token.kind).map nameText).filter (· ≠ "")

/-- Whether an alternative holds but plain names, separators and blanks in front of its variable,
and none of the first two behind it. -/
structure HoldsName (part : List Token) : Prop where
  front : ∀ token ∈ part.takeWhile fun token => token.kind ≠ .variable,
    token.isTrivia = true ∨ isNamePart token.kind = true
  back : ∀ token ∈ part.dropWhile fun token => token.kind ≠ .variable,
    isNamePart token.kind = false

/-- Whether each alternative of a catch clause holds but a name. -/
def HoldsNames (tokens : List Token) : Prop :=
  ∀ part ∈ tokens.splitOnP fun token => token.kind = .bitwiseOr, HoldsName part

/-- Whether a name is the same as an earlier one, but for case and leading backslashes. -/
def Repeats (earlier names : List String) : Prop :=
  ∃ before name after, names = before ++ name :: after ∧
    ∃ other ∈ earlier ++ before, classKey other = classKey name

instance (part : List Token) : Decidable (HoldsName part) :=
  decidable_of_iff (_ ∧ _)
    ⟨fun ⟨front, back⟩ => ⟨front, back⟩, fun holds => ⟨holds.front, holds.back⟩⟩

instance (tokens : List Token) : Decidable (HoldsNames tokens) :=
  inferInstanceAs (Decidable (∀ part ∈ _, HoldsName part))

/-- What holds of a list without separators, and of one that a separator leads on to a list of which
it holds, holds of all lists. -/
@[elab_as_elim]
theorem splitOnP_induction {α : Type} (separates : α → Bool) {motive : List α → Prop}
    (whole : ∀ items, (∀ item ∈ items, separates item = false) → motive items)
    (parts : ∀ first item rest, (∀ item ∈ first, separates item = false) → separates item = true →
      motive rest → motive (first ++ item :: rest)) (items : List α) : motive items := by
  induction size : items.length using Nat.strong_induction_on generalizing items with
  | h size ih =>
      cases found : items.find? separates with
      | none => exact whole items (by simpa using found)
      | some item =>
          rcases List.find?_eq_some_iff_append.mp found with ⟨isSeparator, first, rest, rfl, before⟩
          rw [List.length_append, List.length_cons] at size
          exact parts first item rest (by simpa using before) isSeparator
            (ih rest.length (by omega) rest rfl)

section Names

variable {tokens part : List Token} {token : Token} {current : String}

theorem not_isNamePart_of_endsName {kind : TokenKind} (ends : endsName kind = true) :
    isNamePart kind = false := by
  simp only [endsName, Bool.or_eq_true, decide_eq_true_eq] at ends
  rcases ends with rfl | rfl <;> rfl

theorem joinClassNames_cons (current : String) (token : Token) (rest : List Token) :
    joinClassNames current (token :: rest) =
      if isNamePart token.kind then joinClassNames (current ++ token.content) rest
      else if endsName token.kind then [current].filter (· ≠ "") ++ joinClassNames "" rest
      else joinClassNames current rest := by
  have flushed : (if current.isEmpty then [] else [current]) = [current].filter (· ≠ "") := by
    by_cases empty : current = "" <;> simp [empty]
  simp only [joinClassNames, isNamePart, endsName, Bool.or_eq_true, decide_eq_true_eq, flushed]

/-- Where a name ends, what follows is read apart. -/
theorem joinClassNames_append_cons (current : String) (first rest : List Token)
    (ends : endsName token.kind = true) :
    joinClassNames current (first ++ token :: rest) =
      joinClassNames current first ++ joinClassNames "" rest := by
  induction first generalizing current with
  | nil =>
      have flushed : joinClassNames current [] = [current].filter (· ≠ "") := by
        by_cases empty : current = "" <;> simp [joinClassNames, empty]
      rw [List.nil_append, joinClassNames_cons, if_neg (by simp [not_isNamePart_of_endsName ends]),
        if_pos ends, flushed]
  | cons head tail ih =>
      rw [List.cons_append, joinClassNames_cons, joinClassNames_cons]
      split
      · exact ih _
      · split
        · rw [ih, List.append_assoc]
        · exact ih _

/-- Between two ends of names, all plain names and separators are joined. -/
theorem joinClassNames_of_unended (unended : ∀ token ∈ tokens, endsName token.kind = false) :
    joinClassNames current tokens = [current ++ nameText tokens].filter (· ≠ "") := by
  induction tokens generalizing current with
  | nil => by_cases empty : current = "" <;> simp [joinClassNames, nameText, empty]
  | cons head tail ih =>
      have later := fun token member => unended token (List.mem_cons_of_mem _ member)
      have text_eq : nameText (head :: tail) =
          (if isNamePart head.kind then head.content else "") ++ nameText tail := by
        rw [nameText, List.filter_cons]
        split <;> simp [nameText]
      rw [joinClassNames_cons, if_neg (by simp [unended head (List.mem_cons_self ..)] :
        ¬endsName head.kind = true), ih later, ih later, text_eq]
      split
      · rw [String.append_assoc]
      · rw [String.empty_append]

theorem joinClassNames_eq_namesRead (tokens : List Token) :
    joinClassNames "" tokens = namesRead tokens := by
  induction tokens using splitOnP_induction fun token : Token => endsName token.kind with
  | whole tokens unended =>
      rw [joinClassNames_of_unended unended, namesRead, List.splitOnP_eq_singleton unended,
        List.map_singleton, String.empty_append]
  | parts first token rest unended ends ih =>
      rw [joinClassNames_append_cons _ _ _ ends, joinClassNames_of_unended unended, ih, namesRead,
        namesRead, List.splitOnP_append_cons_of_forall_mem unended token ends, List.map_cons,
        String.empty_append, ← List.filter_append, List.singleton_append]

theorem isTrivia_eq_not_isNamePart
    (holds : token.isTrivia = true ∨ isNamePart token.kind = true) :
    isNamePart token.kind = !token.isTrivia := by
  rcases holds with trivia | isPart
  · cases kind_eq : isNamePart token.kind with
    | false => rw [trivia]; rfl
    | true =>
        simp only [isNamePart, Bool.or_eq_true, decide_eq_true_eq] at kind_eq
        rcases kind_eq with kind_eq | kind_eq <;> rw [Token.isTrivia, kind_eq] at trivia <;>
          cases trivia
  · rw [isPart]
    simp only [isNamePart, Bool.or_eq_true, decide_eq_true_eq] at isPart
    rcases isPart with kind_eq | kind_eq <;> rw [Token.isTrivia, kind_eq] <;> rfl

theorem joinClassNames_of_nameless (nameless : ∀ token ∈ tokens, isNamePart token.kind = false) :
    joinClassNames "" tokens = [] := by
  induction tokens with
  | nil => rfl
  | cons head tail ih =>
      have later := ih fun token member => nameless token (List.mem_cons_of_mem _ member)
      rw [joinClassNames_cons, if_neg (by simp [nameless head (List.mem_cons_self ..)]), later]
      split <;> rfl

/-- An alternative that holds a name is read as its text. -/
theorem joinClassNames_of_holdsName (unbarred : ∀ token ∈ part, token.kind ≠ .bitwiseOr)
    (holds : HoldsName part) :
    joinClassNames "" part = [alternativeText part].filter (· ≠ "") := by
  rcases holds with ⟨frontParts, backParts⟩
  have unended : ∀ token ∈ part, token.kind ≠ .variable → endsName token.kind = false := by
    intro token member notVariable
    simp [endsName, unbarred token member, notVariable]
  have front_unended : ∀ token ∈ part.takeWhile fun token => token.kind ≠ .variable,
      endsName token.kind = false := fun token member =>
    unended token (List.takeWhile_subset _ member) (by simpa using List.mem_takeWhile_imp member)
  have text_eq : nameText (part.takeWhile fun token => token.kind ≠ .variable) =
      alternativeText part :=
    congrArg (fun tokens => String.join (List.map Token.content tokens))
      (List.filter_congr fun token member => isTrivia_eq_not_isNamePart (frontParts token member))
  have parts := part.takeWhile_append_dropWhile (p := fun token => token.kind ≠ .variable)
  have read_front := @joinClassNames_of_unended _ "" front_unended
  rw [String.empty_append, text_eq] at read_front
  cases back_eq : part.dropWhile fun token => token.kind ≠ .variable with
  | nil =>
      rw [back_eq, List.append_nil] at parts
      rwa [parts] at read_front
  | cons token back =>
      have isVariable : token.kind = .variable := by
        have head_eq := List.head?_dropWhile_not (fun token : Token => token.kind ≠ .variable) part
        rw [back_eq] at head_eq
        simpa using head_eq
      have ends : endsName token.kind = true := by simp [endsName, isVariable]
      rw [back_eq] at parts backParts
      have nameless := fun token member => backParts token (List.mem_cons_of_mem _ member)
      rw [← parts, joinClassNames_append_cons _ _ _ ends, joinClassNames_of_nameless nameless,
        List.append_nil, parts]
      exact read_front

theorem namesRead_eq_alternatives (holds : HoldsNames tokens) :
    namesRead tokens = alternatives tokens := by
  rw [← joinClassNames_eq_namesRead]
  rw [HoldsNames] at holds
  induction tokens using splitOnP_induction fun token : Token => token.kind = .bitwiseOr with
  | whole tokens unbarred =>
      rw [List.splitOnP_eq_singleton unbarred] at holds
      rw [joinClassNames_of_holdsName (by simpa using unbarred) (holds tokens (by simp)),
        alternatives, List.splitOnP_eq_singleton unbarred, List.map_singleton]
  | parts first token rest unbarred isBar ih =>
      rw [List.splitOnP_append_cons_of_forall_mem unbarred token isBar] at holds
      have ends : endsName token.kind = true := by
        simpa [endsName] using .inl (of_decide_eq_true isBar)
      have read_first :=
        joinClassNames_of_holdsName (by simpa using unbarred) (holds first (by simp))
      have read_rest := ih fun part member => holds part (List.mem_cons_of_mem _ member)
      rw [joinClassNames_append_cons _ _ _ ends, read_first, read_rest,
        alternatives, alternatives, List.splitOnP_append_cons_of_forall_mem unbarred token isBar,
        List.map_cons, ← List.filter_append, List.singleton_append]

end Names

/-! ### Reports -/

theorem repeats_cons_iff {earlier rest : List String} {name : String} :
    Repeats earlier (name :: rest) ↔
      (∃ other ∈ earlier, classKey other = classKey name) ∨ Repeats (name :: earlier) rest := by
  constructor
  · rintro ⟨before, repeated, after, names_eq, other, member, same⟩
    rcases List.cons_eq_append_iff.mp names_eq with ⟨rfl, tail_eq⟩ | ⟨first, rfl, rest_eq⟩
    · cases tail_eq
      exact .inl ⟨other, by simpa using member, same⟩
    · refine .inr ⟨first, repeated, after, rest_eq, other, ?_, same⟩
      simp only [List.mem_append, List.mem_cons] at member ⊢
      tauto
  · rintro (⟨other, member, same⟩ | ⟨before, repeated, after, rfl, other, member, same⟩)
    · exact ⟨[], name, rest, rfl, other, by simpa using member, same⟩
    · refine ⟨name :: before, repeated, after, rfl, other, ?_, same⟩
      simp only [List.mem_append, List.mem_cons] at member ⊢
      tauto

instance decidableRepeats : (earlier names : List String) → Decidable (Repeats earlier names)
  | _, [] => isFalse (by simp [Repeats])
  | earlier, name :: rest =>
    have := decidableRepeats (name :: earlier) rest
    decidable_of_iff _ repeats_cons_iff.symm

theorem Repeats.mono {earlier known names : List String} (repeats : Repeats earlier names)
    (among : earlier ⊆ known) : Repeats known names := by
  rcases repeats with ⟨before, name, after, rfl, other, member, same⟩
  refine ⟨before, name, after, rfl, other, ?_, same⟩
  exact List.mem_append.mpr ((List.mem_append.mp member).imp_left fun known => among known)

namespace Rule

variable {seen : List String} {index : Nat} {made : Report}

theorem duplicateReports_append (seen : List String) (first rest : List (Nat × String)) :
    duplicateReports seen (first ++ rest) = duplicateReports seen first ++
      duplicateReports ((first.map fun caught => classKey caught.2).reverse ++ seen) rest := by
  induction first generalizing seen with
  | nil => rfl
  | cons head tail ih =>
      rw [List.cons_append, duplicateReports, duplicateReports, ih, List.map_cons,
        List.reverse_cons, List.append_assoc, List.append_assoc, List.singleton_append]

/-- Of the names of one clause some is reported exactly if one repeats another. -/
theorem exists_mem_duplicateReports_iff {earlier names : List String} :
    (∃ made, made ∈ duplicateReports (earlier.map classKey) (names.map fun name => (index, name))) ↔
      Repeats earlier names := by
  induction names generalizing earlier with
  | nil => simp [duplicateReports, Repeats]
  | cons name rest ih =>
      have later := @ih (name :: earlier)
      rw [List.map_cons] at later
      rw [repeats_cons_iff, ← later, List.map_cons, duplicateReports]
      simp only [List.mem_append, exists_or]
      refine or_congr_left ?_
      by_cases known : ∃ other ∈ earlier, classKey other = classKey name
      · simp [known]
      · simp [known]

end Rule

namespace TokenStream

variable (stream : TokenStream)

/-- The tokens in a pair of parentheses. -/
def within (pair : BracketPair) : List Token :=
  (stream.tokens.extract (pair.opener + 1) pair.closer).toList

/-- What is reported of the catch clauses of a `try`. -/
def catchReports (index : Nat) : List Report :=
  match stream.blockEnd? index with
  | none => []
  | some closer =>
    let clauses := stream.catchChain closer
    Rule.duplicateReports [] (clauses.flatMap fun clause =>
      clause.names.map fun name => (clause.index, name)) ++ Rule.genericReports clauses

variable {stream : TokenStream} {lexemes : List Lexeme} {closer index : Nat} {pair : BracketPair}
  {clauses earlier later : List (Nat × BracketPair)} {options : Table}

theorem process_catchOrder :
    Rule.catchOrder.process stream index options = Rule.reportAll (stream.catchReports index) := by
  simp only [Rule.catchOrder, catchReports, blockEnd?]
  cases ((stream.token? index).bind Token.scope).bind Scope.closer <;> rfl

theorem caughtNames_eq (pair : BracketPair) :
    stream.caughtNames pair = namesRead (stream.within pair) :=
  joinClassNames_eq_namesRead _

/-- The names that are read in some clauses, with the places of the clauses. -/
def caughtIn (stream : TokenStream) (clauses : List (Nat × BracketPair)) : List (Nat × String) :=
  clauses.flatMap fun clause =>
    (namesRead (stream.within clause.2)).map fun name => (clause.1, name)

theorem caughtIn_append (first second : List (Nat × BracketPair)) :
    stream.caughtIn (first ++ second) = stream.caughtIn first ++ stream.caughtIn second :=
  List.flatMap_append

theorem map_snd_caughtIn (clauses : List (Nat × BracketPair)) :
    (stream.caughtIn clauses).map Prod.snd =
      clauses.flatMap fun clause => namesRead (stream.within clause.2) := by
  simp [caughtIn, List.map_flatMap, Function.comp_def]

theorem fst_mem_of_mem_caughtIn (member : index ∈ (stream.caughtIn clauses).map Prod.fst) :
    index ∈ clauses.map Prod.fst := by
  simp only [caughtIn, List.mem_map, List.mem_flatMap] at member ⊢
  rcases member with ⟨caught, ⟨clause, among, name, -, rfl⟩, rfl⟩
  exact ⟨clause, among, rfl⟩

/-- A clause of a chain is reported exactly if a name that is read in it repeats one. -/
theorem exists_duplicateReport_iff (ordered : (earlier ++ (index, pair) :: later).Pairwise
      fun first second => first.1 < second.1) :
    (∃ made ∈ Rule.duplicateReports [] (stream.caughtIn (earlier ++ (index, pair) :: later)),
        made.index = (index : Int)) ↔
      Repeats (earlier.flatMap fun clause => namesRead (stream.within clause.2))
        (namesRead (stream.within pair)) := by
  have apart : ∀ clauses : List (Nat × BracketPair), (∀ clause ∈ clauses, clause.1 ≠ index) →
      ∀ seen, ∀ made ∈ Rule.duplicateReports seen (stream.caughtIn clauses),
        made.index ≠ (index : Int) := by
    intro clauses others seen made member index_eq
    rcases Rule.of_mem_duplicateReports member with ⟨repeated, among, rfl⟩
    rcases List.mem_map.mp (fst_mem_of_mem_caughtIn (List.mem_map_of_mem among)) with
      ⟨clause, clauseMem, place_eq⟩
    exact others clause clauseMem (place_eq.trans (Int.ofNat_inj.mp index_eq))
  rw [List.pairwise_append, List.pairwise_cons] at ordered
  have before := apart earlier fun clause member =>
    (ordered.2.2 clause member _ (List.mem_cons_self ..)).ne
  have behind := apart later fun clause member => (ordered.2.1.1 clause member).ne'
  have own : stream.caughtIn [(index, pair)] =
      (namesRead (stream.within pair)).map fun name => (index, name) := by
    rw [caughtIn, List.flatMap_singleton]
  have known : ((stream.caughtIn earlier).map fun caught => classKey caught.2).reverse ++ [] =
      (earlier.flatMap fun clause => namesRead (stream.within clause.2)).reverse.map classKey := by
    rw [List.append_nil, ← map_snd_caughtIn, ← List.map_reverse, ← List.map_reverse, List.map_map]
    rfl
  have repeats_iff :
      Repeats (earlier.flatMap fun clause => namesRead (stream.within clause.2)).reverse
        (namesRead (stream.within pair)) ↔
      Repeats (earlier.flatMap fun clause => namesRead (stream.within clause.2))
        (namesRead (stream.within pair)) :=
    ⟨fun repeats => repeats.mono (by simp), fun repeats => repeats.mono (by simp)⟩
  rw [List.append_cons, caughtIn_append, caughtIn_append, own, List.append_assoc,
    Rule.duplicateReports_append, Rule.duplicateReports_append, known, ← repeats_iff,
    ← Rule.exists_mem_duplicateReports_iff]
  constructor
  · rintro ⟨made, member, index_eq⟩
    rcases List.mem_append.mp member with early | member
    · exact absurd index_eq (before _ made early)
    · rcases List.mem_append.mp member with here | late
      · exact ⟨made, here⟩
      · exact absurd index_eq (behind _ made late)
  · rintro ⟨made, member⟩
    refine ⟨made, List.mem_append_right _ (List.mem_append_left _ member), ?_⟩
    rcases Rule.of_mem_duplicateReports member with ⟨repeated, among, rfl⟩
    rcases List.mem_map.mp among with ⟨name, -, rfl⟩
    rfl

theorem renders_of_mem_catchReports {made : Report} (member : made ∈ stream.catchReports index) :
    made.Renders := by
  rw [catchReports] at member
  split at member
  · cases member
  · rcases List.mem_append.mp member with twice | generic
    · exact Rule.renders_of_mem_duplicateReports twice
    · exact Rule.renders_of_mem_genericReports generic

/-- The duplicates that are reported of a `try` are those of its chain. -/
theorem exists_catchReport_iff (strict : Strict (lexemes.map Lexeme.kind)) {place : Nat}
    {index : Int} (begins : (ofLexemes lexemes).blockEnd? place = some closer)
    (chain : (ofLexemes lexemes).CatchChain closer clauses) :
    (∃ made ∈ (ofLexemes lexemes).catchReports place,
        made.shortCode = "Duplicate" ∧ made.index = index) ↔
      ∃ made ∈ Rule.duplicateReports [] ((ofLexemes lexemes).caughtIn clauses),
        made.index = index := by
  have caught_eq : ((ofLexemes lexemes).catchChain closer).flatMap (fun clause =>
        clause.names.map fun name => (clause.index, name)) =
      (ofLexemes lexemes).caughtIn clauses := by
    rw [catchChain_eq strict chain, List.flatMap_map]
    simp only [caughtNames_eq]
    rfl
  rw [catchReports, begins]
  simp only [caught_eq]
  constructor
  · rintro ⟨made, member, code, index_eq⟩
    rcases List.mem_append.mp member with twice | generic
    · exact ⟨made, twice, index_eq⟩
    · rcases Rule.of_mem_genericReports generic with ⟨first, -, rfl⟩
      simp [Rule.errorAt] at code
  · rintro ⟨made, member, index_eq⟩
    refine ⟨made, List.mem_append_left _ member, ?_, index_eq⟩
    rcases Rule.of_mem_duplicateReports member with ⟨repeated, -, rfl⟩
    rfl

/-- What is reported as a duplicate is a clause of the chain. -/
theorem exists_chain_of_report (strict : Strict (lexemes.map Lexeme.kind)) {place : Nat}
    {index : Int} (reported : ∃ made ∈ (ofLexemes lexemes).catchReports place,
      made.shortCode = "Duplicate" ∧ made.index = index) :
    ∃ closer clauses, (ofLexemes lexemes).blockEnd? place = some closer ∧
      (ofLexemes lexemes).CatchChain closer clauses ∧
        ∃ clause ∈ clauses.map Prod.fst, index = (clause : Int) := by
  cases ends : (ofLexemes lexemes).blockEnd? place with
  | none =>
      rcases reported with ⟨made, member, -⟩
      rw [catchReports, ends] at member
      cases member
  | some closer =>
      rcases exists_catchChain strict closer with ⟨clauses, chain⟩
      rcases (exists_catchReport_iff strict ends chain).mp reported with ⟨made, member, index_eq⟩
      rcases Rule.of_mem_duplicateReports member with ⟨repeated, among, rfl⟩
      exact ⟨closer, clauses, rfl, chain, repeated.1,
        fst_mem_of_mem_caughtIn (List.mem_map_of_mem among), index_eq.symm⟩

end TokenStream

namespace LintSettings

open TokenStream

variable {rules : List Rule} {options : List (String × Table)} {maxIterations : Nat}
  {path source : String} {stream : TokenStream}

/-- A duplicate is said about a clause by the call on the `try` of its chain. -/
theorem duplicate_mem_saysAlone_iff (bounded : stream.Bounded) {index : Int} :
    ⟨"wrong_catch_order.Duplicate", index, ""⟩ ∈
        (saysAlone .catchOrder options stream).map Remark.key ↔
      ∃ place, stream.hasKind place .kwTry = true ∧ ∃ made ∈ stream.catchReports place,
        made.shortCode = "Duplicate" ∧ made.index = index := by
  have code_eq : "wrong_catch_order.Duplicate" = Rule.catchOrder.id ++ "." ++ "Duplicate" := by
    decide
  have key_iff : ∀ made : Report,
      made.key Rule.catchOrder.id = ⟨"wrong_catch_order.Duplicate", index, ""⟩ ↔
        made.shortCode = "Duplicate" ∧ made.index = index := by
    intro made
    simp [Report.key, code_eq]
  rw [keys_saysAlone (fun _ _ => process_catchOrder) fun _ _ => renders_of_mem_catchReports]
  simp only [List.mem_flatMap, List.mem_filter, List.mem_map, key_iff]
  constructor
  · rintro ⟨token, ⟨member, wanted⟩, made⟩
    have isTry : token.kind = .kwTry := by simpa [Rule.catchOrder] using wanted
    exact ⟨token.index, by
      simp [TokenStream.hasKind, kind?, bounded.token?_of_mem member, isTry], made⟩
  · rintro ⟨place, isTry, made⟩
    rcases exists_token?_of_lt (lt_size_of_hasKind isTry) with ⟨token, here⟩
    have isKeyword : token.kind = .kwTry := by
      simpa [TokenStream.hasKind, kind?, here] using isTry
    have member : token ∈ stream.tokens.toList :=
      List.mem_of_getElem? (Array.getElem?_toList.trans here)
    refine ⟨token, ⟨member, by simp [Rule.catchOrder, isKeyword]⟩, ?_⟩
    rwa [bounded.index_eq here]

/-- A clause of the chain of a `try` is found to be a duplicate, and once, exactly if a name that is
read in it has been read before in the chain. Where the alternatives up to it hold but names, that
is so exactly if one of its alternatives is one that came before. Nothing else is found to be a
duplicate. -/
theorem duplicate_classes_found (known : ∀ rule ∈ rules, rule ∈ Rule.builtin)
    (distinct : (rules.map Rule.id).Nodup) (active : Rule.catchOrder ∈ rules)
    (read : tokenize source = .ok stream) :
    ∃ found, (checking rules options maxIterations).findings path source = .ok found ∧
      (∀ index, Diagnostic.timesFound found "wrong_catch_order.Duplicate" index ≤ 1) ∧
      (∀ diagnostic ∈ found, diagnostic.code = "wrong_catch_order.Duplicate" →
        ∃ place closer clauses, stream.hasKind place .kwTry = true ∧
          stream.blockEnd? place = some closer ∧ stream.CatchChain closer clauses ∧
          ∃ index ∈ clauses.map Prod.fst, diagnostic.tokenIndex = (index : Int)) ∧
      ∀ place closer, stream.hasKind place .kwTry = true → stream.blockEnd? place = some closer →
        (∃ clauses, stream.CatchChain closer clauses) ∧
        ∀ earlier (index : Nat) pair later,
          stream.CatchChain closer (earlier ++ (index, pair) :: later) →
          (Diagnostic.timesFound found "wrong_catch_order.Duplicate" index = 1 ↔
            Repeats (earlier.flatMap fun clause => namesRead (stream.within clause.2))
              (namesRead (stream.within pair))) ∧
          ((∀ clause ∈ earlier ++ [(index, pair)], HoldsNames (stream.within clause.2)) →
            (Diagnostic.timesFound found "wrong_catch_order.Duplicate" index = 1 ↔
              Repeats (earlier.flatMap fun clause => alternatives (stream.within clause.2))
                (alternatives (stream.within pair)))) := by
  have builtin : ∀ rule ∈ rules, rule.BuiltinOrFailing := fun rule member =>
    ⟨rule, known rule member, .refl rule⟩
  rcases @exists_findings_checking rules options maxIterations path source stream builtin distinct
    read with ⟨found, found_eq, counts⟩
  have count_eq : ∀ index, Diagnostic.timesFound found "wrong_catch_order.Duplicate" index =
      if ⟨"wrong_catch_order.Duplicate", index, ""⟩ ∈
        (saysAlone .catchOrder options stream).map Remark.key then 1 else 0 :=
    counts .catchOrder active "Duplicate"
  have said_iff := @duplicate_mem_saysAlone_iff options stream (bounded_of_tokenize read)
  have le_one : ∀ index,
      Diagnostic.timesFound found "wrong_catch_order.Duplicate" index ≤ 1 := by
    intro index
    rw [count_eq]
    split <;> decide
  rcases strict_of_tokenize read with ⟨lexemes, rfl, strict⟩
  have reported_iff : ∀ index,
      Diagnostic.timesFound found "wrong_catch_order.Duplicate" index = 1 ↔
        ∃ place, (ofLexemes lexemes).hasKind place .kwTry = true ∧
          ∃ made ∈ (ofLexemes lexemes).catchReports place,
            made.shortCode = "Duplicate" ∧ made.index = index := by
    intro index
    rw [count_eq, ← said_iff]
    split
    · rename_i said
      exact iff_of_true rfl said
    · rename_i unsaid
      exact iff_of_false (by decide) unsaid
  refine ⟨found, found_eq, le_one, ?_, ?_⟩
  · intro diagnostic member code
    have once := le_one diagnostic.tokenIndex
    have often := Diagnostic.timesFound_pos member
    rw [code] at often
    rcases (reported_iff diagnostic.tokenIndex).mp (by omega) with ⟨place, isTry, made⟩
    rcases exists_chain_of_report strict made with ⟨closer, clauses, ends, chain, clause⟩
    exact ⟨place, closer, clauses, isTry, ends, chain, clause⟩
  · intro place closer isTry begins
    refine ⟨exists_catchChain strict closer, ?_⟩
    intro earlier index pair later chain
    have read_iff : Diagnostic.timesFound found "wrong_catch_order.Duplicate" index = 1 ↔
        Repeats (earlier.flatMap fun clause => namesRead ((ofLexemes lexemes).within clause.2))
          (namesRead ((ofLexemes lexemes).within pair)) := by
      rw [reported_iff, ← exists_duplicateReport_iff (chain.pairwise strict),
        ← exists_catchReport_iff strict begins chain]
      constructor
      · rintro ⟨other, otherTry, made⟩
        -- A clause is reported by the `try` of its chain alone.
        rcases exists_chain_of_report strict made with
          ⟨stop, clauses, ends, otherChain, clause, among, same⟩
        rw [← Int.ofNat_inj.mp same] at among
        have member : index ∈ (earlier ++ (index, pair) :: later).map Prod.fst := by simp
        rwa [eq_of_mem_catchChain strict isTry otherTry begins ends chain otherChain member among]
      · exact fun made => ⟨place, isTry, made⟩
    refine ⟨read_iff, fun holds => ?_⟩
    have earlier_eq : (earlier.flatMap fun clause =>
        namesRead ((ofLexemes lexemes).within clause.2)) = earlier.flatMap fun clause =>
          alternatives ((ofLexemes lexemes).within clause.2) := by
      refine List.flatMap_congr fun clause member => ?_
      exact namesRead_eq_alternatives (holds clause (List.mem_append_left _ member))
    rw [read_iff, earlier_eq, namesRead_eq_alternatives (holds (index, pair) (by simp))]

/-- A class that is one of two alternatives, and is caught again in other letters. -/
theorem duplicate_classes_found_union :
    let source := "<?php try \x7b\x7d catch (A | \\b $e) \x7b\x7d catch (B $e) \x7b\x7d"
    ∃ stream found, tokenize source = .ok stream ∧
      (∀ rule ∈ [Rule.catchOrder], rule ∈ Rule.builtin) ∧
      ([Rule.catchOrder].map Rule.id).Nodup ∧ Rule.catchOrder ∈ [Rule.catchOrder] ∧
      (checking [.catchOrder] [] 1).findings "a" source = .ok found ∧
      stream.hasKind 1 .kwTry = true ∧ stream.blockEnd? 1 = some 4 ∧
      stream.CatchChain 4 [(6, ⟨8, 17⟩), (22, ⟨24, 28⟩)] ∧
      Diagnostic.timesFound found "wrong_catch_order.Duplicate" 6 ≠ 1 ∧
      Diagnostic.timesFound found "wrong_catch_order.Duplicate" 22 = 1 := by
  intro source
  have outcome : (tokenize source).toOption.map (fun stream =>
      ([stream.hasKind 1 .kwTry, stream.hasKind 6 .kwCatch, stream.hasKind 22 .kwCatch,
          decide (HoldsNames (stream.within ⟨8, 17⟩)),
          decide (HoldsNames (stream.within ⟨24, 28⟩)),
          decide (alternatives (stream.within ⟨8, 17⟩) = ["A", "\\b"]),
          decide (alternatives (stream.within ⟨24, 28⟩) = ["B"])],
        [5, 21, 32].map stream.nextCode? ++ [1, 6, 22].map stream.blockEnd?,
        [6, 22].map stream.parenthesisAt?)) =
      some ([true, true, true, true, true, true, true],
        [some 6, some 22, none, some 4, some 20, some 31], [some ⟨8, 17⟩, some ⟨24, 28⟩]) := by
    decide +kernel
  rcases exists_tokenize_of_map_toOption outcome with ⟨stream, read, seen⟩
  simp only [Prod.mk.injEq, List.map_cons, List.map_nil, List.cons_append, List.nil_append,
    List.cons.injEq, and_true, decide_eq_true_eq] at seen
  rcases seen with ⟨⟨isTry, isCatch, isOther, holds, otherHolds, first_eq, second_eq⟩,
    ⟨next, nextOther, last, begins, block, otherBlock⟩, pair, otherPair⟩
  have chain : stream.CatchChain 4 [(6, ⟨8, 17⟩), (22, ⟨24, 28⟩)] := by
    refine .clause ⟨next, isCatch, pair, block⟩
      (.clause ⟨nextOther, isOther, otherPair, otherBlock⟩ (.done fun index pair stop more => ?_))
    cases last.symm.trans more.next
  have known : ∀ rule ∈ [Rule.catchOrder], rule ∈ Rule.builtin := by simp [Rule.builtin]
  have active : Rule.catchOrder ∈ [Rule.catchOrder] := List.mem_singleton_self _
  rcases duplicate_classes_found known (by decide) active read with
    ⟨found, found_eq, -, -, chains⟩
  have clauses := (chains 1 4 isTry begins).2
  have first_iff := (clauses [] 6 ⟨8, 17⟩ [(22, ⟨24, 28⟩)] chain).2 (by simpa using holds)
  have second_iff := (clauses [(6, ⟨8, 17⟩)] 22 ⟨24, 28⟩ [] chain).2
    (by simpa using ⟨holds, otherHolds⟩)
  rw [List.flatMap_nil, first_eq] at first_iff
  rw [List.flatMap_singleton, first_eq, second_eq] at second_iff
  exact ⟨stream, found, read, known, by decide, active, found_eq, isTry, begins, chain,
    fun once => absurd (first_iff.mp once) (by decide +kernel),
    second_iff.mpr (by decide +kernel)⟩

/-- Two classes of one namespace whose last parts are reserved words are reported as one. -/
theorem duplicate_found_of_reserved_parts :
    let source := "<?php try \x7b\x7d catch (Foo\\List $e) \x7b\x7d catch (Foo\\Array $e) \x7b\x7d"
    ∃ stream found, tokenize source = .ok stream ∧
      (checking [.catchOrder] [] 1).findings "a" source = .ok found ∧
      stream.hasKind 1 .kwTry = true ∧ stream.blockEnd? 1 = some 4 ∧
      stream.CatchChain 4 [(6, ⟨8, 14⟩), (19, ⟨21, 27⟩)] ∧
      Diagnostic.timesFound found "wrong_catch_order.Duplicate" 19 = 1 ∧
      alternatives (stream.within ⟨8, 14⟩) = ["Foo\\List"] ∧
      alternatives (stream.within ⟨21, 27⟩) = ["Foo\\Array"] ∧
      ¬Repeats (alternatives (stream.within ⟨8, 14⟩))
        (alternatives (stream.within ⟨21, 27⟩)) := by
  intro source
  have outcome : (tokenize source).toOption.map (fun stream =>
      ([stream.hasKind 1 .kwTry, stream.hasKind 6 .kwCatch, stream.hasKind 19 .kwCatch,
          decide (alternatives (stream.within ⟨8, 14⟩) = ["Foo\\List"]),
          decide (alternatives (stream.within ⟨21, 27⟩) = ["Foo\\Array"])],
        [5, 18, 31].map stream.nextCode? ++ [1, 6, 19].map stream.blockEnd?,
        [6, 19].map stream.parenthesisAt?)) =
      some ([true, true, true, true, true],
        [some 6, some 19, none, some 4, some 17, some 30], [some ⟨8, 14⟩, some ⟨21, 27⟩]) := by
    decide +kernel
  have counted : ((checking [.catchOrder] [] 1).findings "a" source).toOption.map (fun found =>
      Diagnostic.timesFound found "wrong_catch_order.Duplicate" 19) = some 1 := by
    decide +kernel
  rcases exists_tokenize_of_map_toOption outcome with ⟨stream, read, seen⟩
  simp only [Prod.mk.injEq, List.map_cons, List.map_nil, List.cons_append, List.nil_append,
    List.cons.injEq, and_true, decide_eq_true_eq] at seen
  rcases seen with ⟨⟨isTry, isCatch, isOther, first_eq, second_eq⟩,
    ⟨next, nextOther, last, begins, block, otherBlock⟩, pair, otherPair⟩
  have chain : stream.CatchChain 4 [(6, ⟨8, 14⟩), (19, ⟨21, 27⟩)] := by
    refine .clause ⟨next, isCatch, pair, block⟩
      (.clause ⟨nextOther, isOther, otherPair, otherBlock⟩ (.done fun index pair stop more => ?_))
    cases last.symm.trans more.next
  cases found_eq : (checking [.catchOrder] [] 1).findings "a" source with
  | error fault =>
      rw [found_eq] at counted
      cases counted
  | ok found =>
      rw [found_eq] at counted
      refine ⟨stream, found, read, rfl, isTry, begins, chain, Option.some.inj counted, first_eq,
        second_eq, ?_⟩
      rw [first_eq, second_eq]
      decide +kernel

end LintSettings

end TokenLint
