import TokenLint.Proofs.Navigation.Elements
import TokenLint.Proofs.Stream.Parentheses
import TokenLint.Proofs.Stream.Span
import TokenLint.Rule.DuplicateKey

/-!
# Keys reported as repeated

A key is reported where an earlier element of the literal has been read to have the same one. What
is read as the key of an element ends at the first arrow that no parenthesis and no square bracket
of the element surrounds. That arrow may belong to something else: to the arms of a `match` in
braces, or to an arrow function. And a key of several tokens is read as its text, which a quoted
string may hold as well.
-/

namespace TokenLint

open Text

/-- Whether a program may make a report, whatever it is answered on the way there. -/
def RuleProgram.Makes {α : Type} (made : Report) : RuleProgram α → Prop
  | .done _ | .fail _ => False
  | .report first next => made = first ∨ ∃ fixNow, (next fixNow).Makes made
  | .begin next | .rollback next | .remember _ next => next.Makes made
  | .finish next => ∃ accepted, (next accepted).Makes made
  | .edit _ _ _ next => ∃ accepted, (next accepted).Makes made
  | .inspect next => ∃ pass, (next pass).Makes made
  | .consult next => ∃ memory, (next memory).Makes made

/-- The report that a program begins with. -/
def RuleProgram.firstReport? {α : Type} : RuleProgram α → Option Report
  | .report made _ => some made
  | _ => none

theorem RuleProgram.makes_of_firstReport? {α : Type} {program : RuleProgram α} {made : Report}
    (first : program.firstReport? = some made) : program.Makes made := by
  cases program with
  | report made next =>
      cases first
      exact .inl rfl
  | _ => cases first

theorem RuleProgram.Makes.of_bind {α β : Type} {program : RuleProgram α}
    {next : α → RuleProgram β} {made : Report} (makes : (program.bind next).Makes made) :
    program.Makes made ∨ ∃ result, (next result).Makes made := by
  induction program with
  | done result => exact .inr ⟨result, makes⟩
  | fail fault => exact makes.elim
  | report first rest ih =>
      rcases makes with same | ⟨fixNow, makes⟩
      · exact .inl (.inl same)
      · exact (ih fixNow makes).imp_left fun makes => .inr ⟨fixNow, makes⟩
  | begin rest ih | rollback rest ih | remember memory rest ih => exact ih makes
  | finish rest ih | edit place index text rest ih | inspect rest ih | consult rest ih =>
      rcases makes with ⟨reply, makes⟩
      exact (ih reply makes).imp_left fun makes => ⟨reply, makes⟩

theorem RuleProgram.not_makes_changeAll {edits : List Edit} {made : Report} :
    ¬(changeAll edits).Makes made := by
  induction edits with
  | nil => exact id
  | cons first rest ih =>
      rintro ⟨accepted, makes⟩
      exact ih makes

/-- A rule that reports a problem and fixes it makes that report alone. -/
theorem Rule.makes_reportAndFix_iff {first made : Report} {edits : List Edit} :
    (reportAndFix first edits).Makes made ↔ made = first := by
  constructor
  · rintro (same | ⟨fixNow, makes⟩)
    · exact same
    · dsimp only at makes
      split at makes
      · rcases makes.of_bind with makes | ⟨result, makes⟩
        · rcases RuleProgram.Makes.of_bind makes with makes | ⟨result, accepted, makes⟩
          · exact absurd makes RuleProgram.not_makes_changeAll
          · exact makes.elim
        · exact makes.elim
      · exact makes.elim
  · exact .inl

namespace Rule

/-- A report on a key follows a token that was read as the same key, or one seen before. -/
theorem exists_earlier_of_makes {seen : List (ArrayKey × Nat)}
    {keys : List (Token × Except Nat ArrayKey)} {made : Report}
    (makes : (reportRepeatedKeys seen keys).Makes made) :
    ∃ before token key after, keys = before ++ (token, .ok key) :: after ∧
      made.index = token.index ∧
        (key ∈ seen.map Prod.fst ∨ ∃ first, (first, .ok key) ∈ before) := by
  fun_induction reportRepeatedKeys seen keys with
  | case1 seen => exact makes.elim
  | case2 seen token digits rest => exact makes.elim
  | case3 seen token key rest unseen ih =>
      rcases ih makes with ⟨before, other, repeated, after, rfl, index_eq, earlier⟩
      refine ⟨(token, .ok key) :: before, other, repeated, after, rfl, index_eq, ?_⟩
      rcases earlier with known | ⟨first, among⟩
      · rcases List.mem_cons.mp known with rfl | older
        · exact .inr ⟨token, List.mem_cons_self ..⟩
        · exact .inl older
      · exact .inr ⟨first, List.mem_cons_of_mem _ among⟩
  | case4 seen token key rest line known ih =>
      rcases makes with rfl | ⟨fixNow, makes⟩
      · refine ⟨[], token, key, rest, rfl, rfl, .inl ?_⟩
        rcases List.lookup_eq_some_iff.mp known with ⟨newer, older, rfl, -⟩
        simp
      · rcases ih makes with ⟨before, other, repeated, after, rfl, index_eq, earlier⟩
        refine ⟨(token, .ok key) :: before, other, repeated, after, rfl, index_eq, ?_⟩
        exact earlier.imp_right fun ⟨first, among⟩ => ⟨first, List.mem_cons_of_mem _ among⟩

end Rule

namespace TokenStream

variable {stream : TokenStream} {lexemes : List Lexeme} {brackets : BracketPair}
  {element : Nat × Nat} {arrow index : Nat} {token : Token} {read : Except Nat ArrayKey}

/-- Whether a token begins an array literal. -/
def BeginsArray (stream : TokenStream) (index : Nat) : Prop :=
  stream.hasKind index .kwArray = true ∨ stream.hasKind index .openShortArray = true

theorem mem_bracketPairs_of_arrayBrackets? (begins : (ofLexemes lexemes).BeginsArray index)
    (found : (ofLexemes lexemes).arrayBrackets? index = some brackets) :
    brackets ∈ bracketPairs (lexemes.map Lexeme.kind) ∧
      (lexemes.map Lexeme.kind)[brackets.opener]?.any opensGroup = true := by
  rcases Option.bind_eq_some_iff.mp found with ⟨token, here, found⟩
  have kind_eq := kind_of_token? here
  rcases begins with keyword | bracket
  · rw [hasKind_ofLexemes, kind_eq, Option.some.injEq] at keyword
    rw [if_pos keyword, parenthesis_ofLexemes here] at found
    rcases of_ownedParenthesis? found with ⟨-, opens, member⟩
    exact ⟨member, by rw [opens]; rfl⟩
  · rw [hasKind_ofLexemes, kind_eq, Option.some.injEq] at bracket
    rw [if_neg (by simp [bracket])] at found
    rcases Option.map_eq_some_iff.mp found with ⟨closer, matched, rfl⟩
    refine ⟨(partner_eq_some_iff here (by rw [bracket]; rfl)).mp matched, ?_⟩
    rw [kind_eq, bracket]
    rfl

/-- The first arrow of an element that no parenthesis and no square bracket of it surrounds. -/
structure FirstArrow (stream : TokenStream) (element : Nat × Nat) (arrow : Nat) : Prop where
  after : element.1 ≤ arrow
  before : arrow < element.2
  isArrow : stream.hasKind arrow .doubleArrow = true
  outside : ¬stream.Surrounded opensGroup element.1 arrow
  first : ∀ earlier, element.1 ≤ earlier → earlier < arrow →
    stream.hasKind earlier .doubleArrow = true → stream.Surrounded opensGroup element.1 earlier

/-- Kinds that separate a parameter list from what does not belong to its function. -/
def endsSignature (kind : TokenKind) : Bool :=
  kind = .doubleArrow || kind = .comma || kind = .semicolon

/-- Whether an arrow leads to the body of an arrow function. -/
def IsFunctionArrow (stream : TokenStream) (arrow : Nat) : Prop :=
  ∃ keyword < arrow, stream.hasKind keyword .kwFn = true ∧ stream.SameNesting keyword arrow ∧
    ∀ between < arrow, keyword < between → stream.SameNesting between arrow →
      stream.kindIs between endsSignature = false

instance (stream : TokenStream) (arrow : Nat) : Decidable (stream.IsFunctionArrow arrow) :=
  inferInstanceAs (Decidable (∃ keyword < arrow, _))

/-- An arrow of an element outside of all its brackets that belongs to no arrow function. -/
structure OwnArrow (stream : TokenStream) (element : Nat × Nat) (arrow : Nat) : Prop where
  after : element.1 ≤ arrow
  before : arrow < element.2
  isArrow : stream.hasKind arrow .doubleArrow = true
  outside : ¬stream.Surrounded TokenKind.isOpener element.1 arrow
  own : ¬stream.IsFunctionArrow arrow

/-- The arrow behind the key of an element. -/
structure KeyArrow (stream : TokenStream) (element : Nat × Nat) (arrow : Nat) : Prop
    extends stream.OwnArrow element arrow where
  first : ∀ earlier < arrow, ¬stream.OwnArrow element earlier

/-- Whether an arrow stands in braces of its element or belongs to an arrow function. -/
def Astray (stream : TokenStream) (element : Nat × Nat) (arrow : Nat) : Prop :=
  stream.Surrounded opensBlock element.1 arrow ∨ stream.IsFunctionArrow arrow

theorem surrounded_isOpener_iff {start : Nat} :
    stream.Surrounded TokenKind.isOpener start index ↔
      stream.Surrounded opensGroup start index ∨ stream.Surrounded opensBlock start index := by
  have kinds_iff : ∀ opener, stream.kindIs opener TokenKind.isOpener = true ↔
      stream.kindIs opener opensGroup = true ∨ stream.kindIs opener opensBlock = true := by
    intro opener
    rw [kindIs, kindIs, kindIs]
    cases stream.kind? opener with
    | none => simp
    | some kind =>
        simp only [Option.any_some, opensGroup, opensBlock, Bool.and_eq_true, decide_eq_true_eq,
          beq_iff_eq]
        constructor
        · intro isOpener
          by_cases curly : kind = .openCurly
          · exact .inr curly
          · exact .inl ⟨isOpener, curly⟩
        · rintro (⟨isOpener, -⟩ | rfl)
          · exact isOpener
          · rfl
  simp only [Surrounded, kinds_iff]
  constructor
  · rintro ⟨opener, before, after, group | block, around⟩
    · exact .inl ⟨opener, before, after, group, around⟩
    · exact .inr ⟨opener, before, after, block, around⟩
  · rintro (⟨opener, before, after, group, around⟩ | ⟨opener, before, after, block, around⟩)
    · exact ⟨opener, before, after, .inl group, around⟩
    · exact ⟨opener, before, after, .inr block, around⟩

/-- The first arrow is that of the key unless it has gone astray. -/
theorem FirstArrow.keyArrow_iff (first : stream.FirstArrow element arrow) :
    stream.KeyArrow element arrow ↔ ¬stream.Astray element arrow := by
  constructor
  · intro keyArrow
    rintro (block | function)
    · exact keyArrow.outside (surrounded_isOpener_iff.mpr (.inr block))
    · exact keyArrow.own function
  · intro notAstray
    refine ⟨⟨first.after, first.before, first.isArrow, ?_, ?_⟩, ?_⟩
    · intro surrounded
      rcases surrounded_isOpener_iff.mp surrounded with group | block
      · exact first.outside group
      · exact notAstray (.inl block)
    · exact fun function => notAstray (.inr function)
    · intro earlier before other
      have group := first.first earlier other.after before other.isArrow
      exact other.outside (surrounded_isOpener_iff.mpr (.inl group))

theorem firstArrow_of_keyArrow? (among : brackets ∈ bracketPairs (lexemes.map Lexeme.kind))
    (isGroup : (lexemes.map Lexeme.kind)[brackets.opener]?.any opensGroup = true)
    (isElement : IsElement (lexemes.map Lexeme.kind) brackets element)
    (found : (ofLexemes lexemes).keyArrow? brackets element = some arrow) :
    (ofLexemes lexemes).FirstArrow element arrow := by
  rcases firstIndex?_eq_some found with ⟨after, before, accepted, nearest⟩
  have holds_iff : ∀ index, element.1 ≤ index → index < element.2 →
      ((ofLexemes lexemes).holdsAt (fun token => token.kind = .doubleArrow &&
        token.enclosingBracket == some brackets) index = true ↔
      (ofLexemes lexemes).hasKind index .doubleArrow = true ∧
        ¬(ofLexemes lexemes).Surrounded opensGroup element.1 index) := by
    intro index index_after index_before
    rw [holdsAt, hasKind, kind?]
    cases here : (ofLexemes lexemes).token? index with
    | none => simp
    | some token =>
        rw [← enclosingBracket_eq_iff among isGroup isElement index_after index_before here]
        simp
  have within : arrow < element.2 := by omega
  have isFirst := (holds_iff arrow after within).mp accepted
  refine ⟨after, within, isFirst.1, isFirst.2, ?_⟩
  intro earlier earlier_after earlier_before isArrow
  by_contra outside
  have also := (holds_iff earlier earlier_after (by omega)).mpr ⟨isArrow, outside⟩
  rw [nearest earlier earlier_after earlier_before] at also
  cases also

/-- Whether a range of tokens holds but one that is no whitespace. -/
def IsSingle (stream : TokenStream) (start stop : Nat) : Prop :=
  ∃ index, stream.IsLone start stop index

/-- Whether two ranges of tokens write the same key: both are a single token, with one value, or
neither is, with one text. -/
def SameKey (stream : TokenStream) (first second : Nat × Nat) : Prop :=
  (∃ index other token otherToken value, stream.IsLone first.1 first.2 index ∧
    stream.IsLone second.1 second.2 other ∧ stream.token? index = some token ∧
      stream.token? other = some otherToken ∧ ArrayKey.ofToken token = .ok value ∧
        ArrayKey.ofToken otherToken = .ok value) ∨
  (¬stream.IsSingle first.1 first.2 ∧ ¬stream.IsSingle second.1 second.2 ∧
    trim (stream.textBetween first.1 first.2) = trim (stream.textBetween second.1 second.2))

/-- What an element has been read to have as its key, up to an arrow and at a token. -/
structure ReadsKey (stream : TokenStream) (element : Nat × Nat) (arrow index : Nat) (token : Token)
    (read : Except Nat ArrayKey) : Prop where
  after : element.1 ≤ index
  before : index < arrow
  here : stream.token? index = some token
  isCode : token.isTrivia = false
  read_eq : read = if trim (stream.textBetween element.1 arrow) = token.content then
    ArrayKey.ofToken token else .ok (.text (trim (stream.textBetween element.1 arrow)))

theorem readsKey_of_elementKey? (found : stream.elementKey? brackets element = some (token, read)) :
    ∃ arrow index, stream.keyArrow? brackets element = some arrow ∧
      stream.ReadsKey element arrow index token read := by
  rcases Option.bind_eq_some_iff.mp found with ⟨arrow, arrow_eq, found⟩
  rcases Option.bind_eq_some_iff.mp found with ⟨index, key_eq, found⟩
  rcases Option.bind_eq_some_iff.mp found with ⟨other, here, found⟩
  cases found
  rcases lastWith?_eq_some key_eq with ⟨after, before, -, holds⟩
  refine ⟨arrow, index, arrow_eq, after, before, here, ?_, rfl⟩
  rw [holdsAt, here] at holds
  simpa using holds

namespace ReadsKey

variable {key : ArrayKey} (reads : stream.ReadsKey element arrow index token read)

include reads

theorem kind_ne : token.kind ≠ .whitespace := by
  intro isSpace
  have isCode := reads.isCode
  rw [Token.isTrivia, isSpace] at isCode
  cases isCode

theorem not_whitespace : stream.hasKind index .whitespace = false := by
  rw [hasKind, kind?, reads.here, Option.map_some, beq_eq_false_iff_ne]
  simpa using reads.kind_ne

/-- The token that the key was read at is the only one it can consist of. -/
theorem isSingle_iff (tidy : stream.IsTidy element.1 arrow) (blank : stream.HasBlankSpaces)
    (inside : arrow ≤ stream.size) :
    stream.IsSingle element.1 arrow ↔
      trim (stream.textBetween element.1 arrow) = token.content := by
  rw [← tidy.isLone_iff blank inside reads.after reads.before reads.here reads.kind_ne]
  constructor
  · rintro ⟨other, lone⟩
    rw [lone.eq_of_solid reads.after reads.before reads.not_whitespace]
    exact lone
  · exact fun lone => ⟨index, lone⟩

end ReadsKey

/-- Whether an element has been read to have a key, up to an arrow and at a token. -/
def HasKey (stream : TokenStream) (element : Nat × Nat) (arrow index : Nat) (key : ArrayKey) :
    Prop :=
  stream.FirstArrow element arrow ∧ ∃ token, stream.ReadsKey element arrow index token (.ok key)

section Pairs

variable {first second : Nat × Nat} {arrow otherArrow otherIndex : Nat} {key : ArrayKey}

/-- Keys that have been read as the same are the same unless one of them is a single token and the
other is not. -/
theorem sameKey_iff (blank : stream.HasBlankSpaces)
    (hasKey : stream.HasKey first arrow index key)
    (otherHasKey : stream.HasKey second otherArrow otherIndex key)
    (tidy : stream.IsTidy first.1 arrow) (otherTidy : stream.IsTidy second.1 otherArrow) :
    stream.SameKey (first.1, arrow) (second.1, otherArrow) ↔
      (stream.IsSingle first.1 arrow ↔ stream.IsSingle second.1 otherArrow) := by
  rcases hasKey with ⟨isFirst, token, reads⟩
  rcases otherHasKey with ⟨isOther, otherToken, otherReads⟩
  have whole_iff := reads.isSingle_iff tidy blank (lt_size_of_hasKind isFirst.isArrow).le
  have other_iff := otherReads.isSingle_iff otherTidy blank (lt_size_of_hasKind isOther.isArrow).le
  have read_eq := reads.read_eq
  have otherRead_eq := otherReads.read_eq
  constructor
  · rintro (⟨index, other, -, -, -, lone, otherLone, -⟩ | ⟨several, otherSeveral, -⟩)
    · exact iff_of_true ⟨index, lone⟩ ⟨other, otherLone⟩
    · exact iff_of_false several otherSeveral
  · intro alike
    by_cases single : stream.IsSingle first.1 arrow
    · have otherSingle := alike.mp single
      rw [if_pos (whole_iff.mp single)] at read_eq
      rw [if_pos (other_iff.mp otherSingle)] at otherRead_eq
      rcases single with ⟨lonely, lone⟩
      rcases otherSingle with ⟨otherLonely, otherLone⟩
      cases lone.eq_of_solid reads.after reads.before reads.not_whitespace
      cases otherLone.eq_of_solid otherReads.after otherReads.before otherReads.not_whitespace
      exact .inl ⟨_, _, token, otherToken, key, lone, otherLone, reads.here, otherReads.here,
        read_eq.symm, otherRead_eq.symm⟩
    · have otherSeveral := fun other => single (alike.mpr other)
      rw [if_neg fun whole => single (whole_iff.mpr whole)] at read_eq
      rw [if_neg fun whole => otherSeveral (other_iff.mpr whole)] at otherRead_eq
      refine .inr ⟨single, otherSeveral, ?_⟩
      simpa using read_eq.symm.trans otherRead_eq

/-- Two elements that have been read to have one key do have the same key, behind arrows of their
own, exactly if no arrow has gone astray and the keys are alike. -/
theorem sameKey_of_own_iff (blank : stream.HasBlankSpaces)
    (hasKey : stream.HasKey first arrow index key)
    (otherHasKey : stream.HasKey second otherArrow otherIndex key)
    (tidy : stream.IsTidy first.1 arrow) (otherTidy : stream.IsTidy second.1 otherArrow) :
    stream.KeyArrow first arrow ∧ stream.KeyArrow second otherArrow ∧
        stream.SameKey (first.1, arrow) (second.1, otherArrow) ↔
      ¬stream.Astray first arrow ∧ ¬stream.Astray second otherArrow ∧
        (stream.IsSingle first.1 arrow ↔ stream.IsSingle second.1 otherArrow) := by
  rw [hasKey.1.keyArrow_iff, otherHasKey.1.keyArrow_iff,
    sameKey_iff blank hasKey otherHasKey tidy otherTidy]

end Pairs

end TokenStream

namespace Rule

open TokenStream

variable {source : String} {stream : TokenStream} {index : Nat} {options : Table} {made : Report}

/-- Every report on a key of an array literal follows an earlier element that has been read to have
the same key. Two elements that have been read so do have the same key, behind arrows of their own,
exactly if neither arrow stands in braces or belongs to an arrow function and the keys are both a
single token or both not. (A name may begin or end with one of the blanks beyond ASCII, which
trimming takes away; keys with such a name are left out of the second part.) -/
theorem repeats_key_of_makes (read : tokenize source = .ok stream)
    (begins : stream.BeginsArray index)
    (makes : (duplicateKey.process stream index options).Makes made) :
    ∃ brackets, stream.arrayBrackets? index = some brackets ∧
      ∃ second ∈ stream.arrayElements brackets.opener brackets.closer,
      ∃ otherArrow otherIndex key, stream.HasKey second otherArrow otherIndex key ∧
        made.index = otherIndex ∧
        (∃ first ∈ stream.arrayElements brackets.opener brackets.closer, first.2 < second.1 ∧
          ∃ arrow keyIndex, stream.HasKey first arrow keyIndex key) ∧
        ∀ first arrow keyIndex, stream.HasKey first arrow keyIndex key →
          stream.IsTidy first.1 arrow → stream.IsTidy second.1 otherArrow →
          (stream.KeyArrow first arrow ∧ stream.KeyArrow second otherArrow ∧
              stream.SameKey (first.1, arrow) (second.1, otherArrow) ↔
            ¬stream.Astray first arrow ∧ ¬stream.Astray second otherArrow ∧
              (stream.IsSingle first.1 arrow ↔ stream.IsSingle second.1 otherArrow)) := by
  have blank := hasBlankSpaces_of_tokenize read
  have bounded := bounded_of_tokenize read
  rcases strict_of_tokenize read with ⟨lexemes, rfl, -⟩
  simp only [duplicateKey] at makes
  split at makes
  · exact makes.elim
  rename_i brackets brackets_eq
  rcases mem_bracketPairs_of_arrayBrackets? begins brackets_eq with ⟨among, isGroup⟩
  rcases isElement_of_mem_arrayElements among with ⟨isElement, ordered⟩
  rcases exists_earlier_of_makes makes with
    ⟨before, otherToken, key, after, keys_eq, index_eq, earlier⟩
  -- The list of keys is split where the elements are.
  rcases List.filterMap_eq_append_iff.mp keys_eq with
    ⟨front, back, elements_eq, before_eq, back_eq⟩
  rcases List.filterMap_eq_cons_iff.mp back_eq with ⟨skipped, second, rest, rfl, -, second_eq, -⟩
  rcases earlier with unseen | ⟨token, member⟩
  · cases unseen
  rw [← before_eq, List.mem_filterMap] at member
  rcases member with ⟨first, first_mem, first_eq⟩
  have first_among : first ∈ (ofLexemes lexemes).arrayElements brackets.opener brackets.closer := by
    simp [elements_eq, first_mem]
  have second_among :
      second ∈ (ofLexemes lexemes).arrayElements brackets.opener brackets.closer := by
    simp [elements_eq]
  have in_order : first.2 < second.1 := by
    rw [elements_eq, List.pairwise_append] at ordered
    exact ordered.2.2 first first_mem second (by simp)
  rcases readsKey_of_elementKey? first_eq with ⟨arrow, keyIndex, found, reads⟩
  rcases readsKey_of_elementKey? second_eq with ⟨otherArrow, otherIndex, otherFound, otherReads⟩
  have isFirst := firstArrow_of_keyArrow? among isGroup (isElement first first_among) found
  have isOther := firstArrow_of_keyArrow? among isGroup (isElement second second_among) otherFound
  have otherHasKey : (ofLexemes lexemes).HasKey second otherArrow otherIndex key :=
    ⟨isOther, otherToken, otherReads⟩
  refine ⟨brackets, brackets_eq, second, second_among, otherArrow, otherIndex, key, otherHasKey,
    ?_, ⟨first, first_among, in_order, arrow, keyIndex, isFirst, token, reads⟩, ?_⟩
  · rw [index_eq, bounded.index_eq otherReads.here]
  · intro first arrow keyIndex hasKey tidy otherTidy
    exact sameKey_of_own_iff blank hasKey otherHasKey tidy otherTidy

/-- A number and a string that writes it are one key. -/
theorem repeats_key_of_makes_quoted :
    ∃ stream made, tokenize "<?php [8 => 1, '8' => 2];" = .ok stream ∧ stream.BeginsArray 1 ∧
      (duplicateKey.process stream 1 []).Makes made ∧
      ∃ brackets, stream.arrayBrackets? 1 = some brackets ∧
        ∃ first ∈ stream.arrayElements brackets.opener brackets.closer,
        ∃ second ∈ stream.arrayElements brackets.opener brackets.closer, first.2 < second.1 ∧
          ∃ arrow keyIndex otherArrow otherIndex key, stream.HasKey first arrow keyIndex key ∧
            stream.HasKey second otherArrow otherIndex key ∧ made.index = otherIndex := by
  have outcome : (tokenize "<?php [8 => 1, '8' => 2];").toOption.map (fun stream =>
      (stream.hasKind 1 .openShortArray,
        (duplicateKey.process stream 1 []).firstReport?.map Report.index)) =
      some (true, some 9) := by decide +kernel
  rcases exists_tokenize_of_map_toOption outcome with ⟨stream, read, seen⟩
  simp only [Prod.mk.injEq, Option.map_eq_some_iff] at seen
  rcases seen with ⟨begins, made, first, -⟩
  have makes := RuleProgram.makes_of_firstReport? first
  rcases repeats_key_of_makes read (.inr begins) makes with
    ⟨brackets, brackets_eq, second, second_mem, otherArrow, otherIndex, key, otherHasKey,
      index_eq, ⟨first, first_mem, in_order, arrow, keyIndex, hasKey⟩, -⟩
  exact ⟨stream, made, read, .inr begins, makes, brackets, brackets_eq, first, first_mem, second,
    second_mem, in_order, arrow, keyIndex, otherArrow, otherIndex, key, hasKey, otherHasKey,
    index_eq⟩

/-- A list of arrow functions has no keys, and yet a key is reported as repeated. -/
theorem makes_report_without_keys :
    ∃ stream made, tokenize "<?php [fn($x) => 1, fn($x) => 2];" = .ok stream ∧
      stream.BeginsArray 1 ∧ (duplicateKey.process stream 1 []).Makes made ∧
      ∀ element arrow, ¬stream.OwnArrow element arrow := by
  have outcome : (tokenize "<?php [fn($x) => 1, fn($x) => 2];").toOption.map (fun stream =>
      (stream.hasKind 1 .openShortArray,
        (duplicateKey.process stream 1 []).firstReport?.map Report.index,
        decide (∀ arrow < stream.size, stream.hasKind arrow .doubleArrow = true →
          stream.IsFunctionArrow arrow))) =
      some (true, some 15, true) := by decide +kernel
  rcases exists_tokenize_of_map_toOption outcome with ⟨stream, read, seen⟩
  simp only [Prod.mk.injEq, Option.map_eq_some_iff, decide_eq_true_eq] at seen
  rcases seen with ⟨begins, ⟨made, first, -⟩, functions⟩
  refine ⟨stream, made, read, .inr begins, RuleProgram.makes_of_firstReport? first, ?_⟩
  intro element arrow own
  exact own.own (functions arrow (lt_size_of_hasKind own.isArrow) own.isArrow)

end Rule

end TokenLint
