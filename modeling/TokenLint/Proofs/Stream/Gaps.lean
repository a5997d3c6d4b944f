import TokenLint.Proofs.Stream.Spread
import Mathlib.Data.List.Chain

/-!
# Gaps that are filled

What spreading makes of a text: between two pieces stand as many spaces as were missing, and twice
as many behind a tag that absorbed the first of them. Once the pieces are spread twice, no space is
missing, and apart from whitespace and from the blanks of tags the pieces are what they were.
-/

namespace TokenLint.Lexer

variable {piece next : Piece} {pieces rest : List Piece}

theorem gap_congr {other second : Piece} (same : piece.kind = other.kind)
    (sameNext : next.kind = second.kind) : gap piece next = gap other second := by
  simp only [gap, same, sameNext]

theorem gap_spacer_right (piece : Piece) (count : Nat) : gap piece (spacer count) = 0 :=
  gap_eq_zero_iff.mpr ⟨fun _ => rfl, nofun⟩

theorem gap_spacer_left (count : Nat) (next : Piece) : gap (spacer count) next = 0 :=
  gap_eq_zero_iff.mpr ⟨nofun, fun _ => rfl⟩

/-! ### Spreading twice -/

theorem spread_cons_of_gap_eq_zero (none_missing : gap piece next = 0) :
    spread (piece :: next :: rest) = piece :: spread (next :: rest) := by
  rw [spread, joint_of_gap_eq_zero none_missing]
  rfl

/-- What stands for a piece in front of another one after the pieces are spread twice. -/
def jointTwice (piece next : Piece) : List Piece :=
  if gap piece next = 0 then [piece]
  else if IsBareTag piece.text then
    [⟨piece.kind, piece.text ++ List.replicate (gap piece next) ' '⟩, spacer (gap piece next)]
  else [piece, spacer (gap piece next)]

theorem spread_spread_cons (piece next : Piece) (rest : List Piece) :
    spread (spread (piece :: next :: rest)) =
      jointTwice piece next ++ spread (spread (next :: rest)) := by
  rcases exists_spread_cons next rest with ⟨more, tail, new_eq⟩
  have sameNext : ∀ other : Piece, gap other ⟨next.kind, next.text ++ more⟩ = gap other next :=
    fun other => gap_congr rfl rfl
  by_cases none_missing : gap piece next = 0
  · rw [jointTwice, if_pos none_missing, spread_cons_of_gap_eq_zero none_missing, new_eq,
      spread_cons_of_gap_eq_zero ((sameNext piece).trans none_missing)]
    rfl
  by_cases bare : IsBareTag piece.text
  · let tag : Piece := ⟨piece.kind, piece.text ++ List.replicate (gap piece next) ' '⟩
    have gap_eq : gap tag ⟨next.kind, next.text ++ more⟩ = gap piece next := gap_congr rfl rfl
    have filled : ¬IsBareTag tag.text := by
      intro again
      have length_eq := again.2
      rw [List.length_append, bare.2, List.length_replicate] at length_eq
      omega
    rw [jointTwice, if_neg none_missing, if_pos bare, spread, joint_of_bare none_missing bare,
      new_eq, List.singleton_append, spread, joint_of_plain (gap_eq ▸ none_missing) filled, gap_eq]
  · rw [jointTwice, if_neg none_missing, if_neg bare, spread, joint_of_plain none_missing bare,
      new_eq, List.cons_append, List.singleton_append,
      spread_cons_of_gap_eq_zero (gap_spacer_right _ _),
      spread_cons_of_gap_eq_zero (gap_spacer_left _ _)]
    rfl

/-- Spread twice, pieces have no gaps. -/
theorem isChain_spread_spread (pieces : List Piece) :
    (spread (spread pieces)).IsChain fun piece next => gap piece next = 0 := by
  induction pieces using spread.induct with
  | case1 => exact .nil
  | case2 piece => exact .singleton piece
  | case3 piece next rest ih =>
      have head_eq : ∃ text tail, spread (spread (next :: rest)) = ⟨next.kind, text⟩ :: tail := by
        rcases exists_spread_cons next rest with ⟨more, tail, new_eq⟩
        rcases exists_spread_cons ⟨next.kind, next.text ++ more⟩ tail with ⟨_, _, again_eq⟩
        exact ⟨_, _, new_eq ▸ again_eq⟩
      rcases head_eq with ⟨text, tail, head_eq⟩
      rw [spread_spread_cons, jointTwice]
      rw [head_eq] at ih ⊢
      split
      · rename_i none_missing
        exact .cons_cons ((gap_congr rfl rfl).trans none_missing) ih
      split
      · exact .cons_cons (gap_spacer_right _ _) (.cons_cons (gap_spacer_left _ _) ih)
      · exact .cons_cons (gap_spacer_right _ _) (.cons_cons (gap_spacer_left _ _) ih)

/-! ### Texts with spaces -/

/-- The text of some pieces with spaces between them. -/
def spacedBy (width : Piece → Piece → Nat) : List Piece → List Char
  | [] => []
  | [piece] => piece.text
  | piece :: next :: rest =>
    piece.text ++ (List.replicate (width piece next) ' ' ++ spacedBy width (next :: rest))

theorem written_spread (pieces : List Piece) : written (spread pieces) = spacedBy gap pieces := by
  induction pieces using spread.induct with
  | case1 => rfl
  | case2 piece => simp [spread, spacedBy]
  | case3 piece next rest ih =>
      rw [spread, written_append, ih, spacedBy, joint]
      split
      · rename_i none_missing
        simp [none_missing]
      split <;> simp [spacer]

/-- The number of spaces that two pieces get when they are spread twice. -/
def gapTwice (piece next : Piece) : Nat :=
  if IsBareTag piece.text then 2 * gap piece next else gap piece next

theorem written_spread_spread (pieces : List Piece) :
    written (spread (spread pieces)) = spacedBy gapTwice pieces := by
  induction pieces using spread.induct with
  | case1 => rfl
  | case2 piece => simp [spread, spacedBy]
  | case3 piece next rest ih =>
      rw [spread_spread_cons, written_append, ih, spacedBy, jointTwice, gapTwice]
      split
      · rename_i none_missing
        simp [none_missing]
      split
      · simp [spacer, Nat.two_mul, ← List.replicate_append_replicate]
      · simp [spacer]

/-- Spaces between pieces are spaces in front of them and behind them. -/
theorem spacedBy_eq {width : Piece → Piece → Nat} (ahead behind : Nat → Nat) {pieces : List Piece}
    (inner : ∀ index piece next, pieces[index]? = some piece → pieces[index + 1]? = some next →
      behind index + ahead (index + 1) = width piece next)
    (last : behind (pieces.length - 1) = 0) (nonempty : pieces ≠ []) :
    (pieces.mapIdx fun index piece => List.replicate (ahead index) ' ' ++
        (piece.text ++ List.replicate (behind index) ' ')).flatten =
      List.replicate (ahead 0) ' ' ++ spacedBy width pieces := by
  induction pieces using spread.induct generalizing ahead behind with
  | case1 => exact absurd rfl nonempty
  | case2 piece =>
      have last : behind 0 = 0 := last
      simp [spacedBy, last]
  | case3 piece next rest ih =>
      have later := ih (fun index => ahead (index + 1)) (fun index => behind (index + 1))
        (fun index first second here there => inner (index + 1) first second here there) last
        (List.cons_ne_nil _ _)
      have width_eq := inner 0 piece next rfl rfl
      rw [List.mapIdx_cons, List.flatten_cons, later, spacedBy, ← width_eq,
        ← List.replicate_append_replicate]
      simp only [List.append_assoc, Nat.zero_add]

/-- Pieces without gaps are left as they are. -/
theorem spread_eq_self (chain : pieces.IsChain fun piece next => gap piece next = 0) :
    spread pieces = pieces := by
  induction pieces using spread.induct with
  | case1 => rfl
  | case2 piece => rfl
  | case3 piece next rest ih =>
      rw [List.isChain_cons_cons] at chain
      rw [spread_cons_of_gap_eq_zero chain.1, ih chain.2]

/-- Where there is a gap the text grows. -/
theorem length_written_lt (some_gap : ¬pieces.IsChain fun piece next => gap piece next = 0) :
    (written pieces).length < (written (spread pieces)).length := by
  have longer : ∀ {piece next : Piece} {rest : List Piece},
      (written (spread (piece :: next :: rest))).length =
        piece.text.length + gap piece next + (written (spread (next :: rest))).length := by
    intro piece next rest
    rw [written_spread, spacedBy, ← written_spread]
    simp only [List.length_append, List.length_replicate, Nat.add_assoc]
  have least : ∀ pieces : List Piece,
      (written pieces).length ≤ (written (spread pieces)).length := by
    intro pieces
    induction pieces using spread.induct with
    | case1 => exact Nat.le_refl _
    | case2 piece => exact Nat.le_refl _
    | case3 piece next rest ih =>
        rw [longer, written_cons, List.length_append]
        omega
  induction pieces using spread.induct with
  | case1 => exact absurd .nil some_gap
  | case2 piece => exact absurd (.singleton piece) some_gap
  | case3 piece next rest ih =>
      rw [longer, written_cons, List.length_append]
      by_cases none_missing : gap piece next = 0
      · have later := ih fun chain => some_gap (.cons_cons none_missing chain)
        omega
      · have later := least (next :: rest)
        omega

/-! ### The first gap -/

/-- Whether a concatenation operator has a gap on one of its sides. -/
def HasGap (front : List Piece) (piece : Piece) (back : List Piece) : Prop :=
  piece.kind = .concat ∧ ((∃ before ∈ front.getLast?, gap before piece ≠ 0) ∨
    ∃ behind ∈ back.head?, gap piece behind ≠ 0)

theorem gap_concat_right_iff (concat : next.kind = .concat) :
    gap piece next = 0 ↔ piece.kind = .whitespace := by
  rw [gap_eq_zero_iff, concat]
  exact ⟨fun filled => filled.2 rfl, fun blank => ⟨by simp [blank], fun _ => blank⟩⟩

theorem gap_concat_left_iff (concat : piece.kind = .concat) :
    gap piece next = 0 ↔ next.kind = .whitespace := by
  rw [gap_eq_zero_iff, concat]
  exact ⟨fun filled => filled.1 rfl, fun blank => ⟨fun _ => blank, by simp [blank]⟩⟩

/-- An operator has a gap if what stands beside it is no whitespace. -/
theorem hasGap_at_iff {index : Nat} (here : pieces[index]? = some piece) :
    HasGap (pieces.take index) piece (pieces.drop (index + 1)) ↔ piece.kind = .concat ∧
      ((∃ place before, index = place + 1 ∧ pieces[place]? = some before ∧
          before.kind ≠ .whitespace) ∨
        ∃ behind, pieces[index + 1]? = some behind ∧ behind.kind ≠ .whitespace) := by
  rw [HasGap]
  refine and_congr_right fun concat => or_congr ?_ ?_
  · simp only [ne_eq, gap_concat_right_iff concat]
    cases index with
    | zero => simp
    | succ place =>
        have inside : place < pieces.length := by
          have inside := (List.getElem?_eq_some_iff.mp here).1
          omega
        have last_eq : (pieces.take (place + 1)).getLast? = pieces[place]? := by
          rw [List.getLast?_take, if_neg (Nat.succ_ne_zero place), Nat.add_sub_cancel,
            List.getElem?_eq_getElem inside]
          rfl
        rw [last_eq]
        constructor
        · rintro ⟨before, found, solid⟩
          exact ⟨place, before, rfl, found, solid⟩
        · rintro ⟨_, before, same, found, solid⟩
          cases same
          exact ⟨before, found, solid⟩
  · simp only [ne_eq, gap_concat_left_iff concat, List.head?_drop, Option.mem_def]

theorem HasGap.not_isChain {front back : List Piece} (has_gap : HasGap front piece back) :
    ¬(front ++ piece :: back).IsChain fun piece next => gap piece next = 0 := by
  rw [List.isChain_iff_forall_rel_of_append_cons_cons]
  intro chain
  rcases has_gap.2 with ⟨before, last_eq, missing⟩ | ⟨behind, head_eq, missing⟩
  · rcases List.getLast?_eq_some_iff.mp last_eq with ⟨earlier, rfl⟩
    exact missing (chain (List.append_assoc earlier [before] (piece :: back)))
  · rcases List.head?_eq_some_iff.mp head_eq with ⟨tail, rfl⟩
    exact missing (chain rfl)

theorem HasGap.cons {front back : List Piece} (has_gap : HasGap front piece back) (first : Piece) :
    HasGap (first :: front) piece back := by
  refine ⟨has_gap.1, has_gap.2.imp_left ?_⟩
  rintro ⟨before, last_eq, missing⟩
  exact ⟨before, by rw [List.getLast?_cons, last_eq]; rfl, missing⟩

/-- Behind a gap that was filled, all gaps stand behind the spaces in it. -/
theorem exists_extra_of_gap (missing : gap piece next ≠ 0) {before after : List Piece}
    {first second : Piece} (spread_eq : spread (piece :: next :: rest) =
      before ++ first :: second :: after) (left : gap first second ≠ 0) :
    ∃ extra, extra ≠ [] ∧ written before ++ first.text = piece.text ++ extra := by
  have spaces_ne : List.replicate (gap piece next) ' ' ≠ [] := by simpa using missing
  by_cases bare : IsBareTag piece.text
  · rw [spread, joint_of_bare missing bare, List.singleton_append] at spread_eq
    cases before with
    | nil =>
        rw [List.nil_append, List.cons.injEq] at spread_eq
        exact ⟨_, spaces_ne, by simp [← spread_eq.1]⟩
    | cons head before =>
        rw [List.cons_append, List.cons.injEq] at spread_eq
        refine ⟨List.replicate (gap piece next) ' ' ++ (written before ++ first.text), ?_, ?_⟩
        · simp [missing]
        · simp [← spread_eq.1]
  · rw [spread, joint_of_plain missing bare, List.cons_append, List.singleton_append] at spread_eq
    rcases before with _ | ⟨head, _ | ⟨following, before⟩⟩
    · rw [List.nil_append, List.cons.injEq, List.cons.injEq] at spread_eq
      rcases spread_eq with ⟨rfl, rfl, -⟩
      exact absurd (gap_spacer_right _ _) left
    · rw [List.singleton_append, List.cons.injEq, List.cons.injEq] at spread_eq
      rcases spread_eq with ⟨-, rfl, -⟩
      exact absurd (gap_spacer_left _ _) left
    · rw [List.cons_append, List.cons_append, List.cons.injEq, List.cons.injEq] at spread_eq
      rcases spread_eq with ⟨rfl, rfl, -⟩
      refine ⟨List.replicate (gap piece next) ' ' ++ (written before ++ first.text), ?_, ?_⟩
      · simp [missing]
      · simp [spacer]

/-- The gaps that are left stand behind longer texts than the first gap there was. -/
theorem exists_first_gap
    (some_gap : ¬pieces.IsChain fun piece next => gap piece next = 0) :
    ∃ front piece back, pieces = front ++ piece :: back ∧ HasGap front piece back ∧
      ∀ before first second after, spread pieces = before ++ first :: second :: after →
        gap first second ≠ 0 → ∃ extra, extra ≠ [] ∧
          written before ++ first.text = written front ++ extra := by
  induction pieces using spread.induct with
  | case1 => exact absurd .nil some_gap
  | case2 piece => exact absurd (.singleton piece) some_gap
  | case3 piece next rest ih =>
      by_cases none_missing : gap piece next = 0
      · have later : ¬(next :: rest).IsChain fun piece next => gap piece next = 0 :=
          fun chain => some_gap (.cons_cons none_missing chain)
        rcases ih later with ⟨front, middle, back, pieces_eq, has_gap, behind⟩
        refine ⟨piece :: front, middle, back, by rw [pieces_eq]; rfl, has_gap.cons piece, ?_⟩
        intro before first second after spread_eq missing
        rw [spread_cons_of_gap_eq_zero none_missing] at spread_eq
        cases before with
        | nil =>
            rcases exists_spread_cons next rest with ⟨more, tail, new_eq⟩
            rw [new_eq, List.nil_append, List.cons.injEq, List.cons.injEq] at spread_eq
            rcases spread_eq with ⟨rfl, rfl, -⟩
            exact absurd ((gap_congr rfl rfl).trans none_missing) missing
        | cons head before =>
            rw [List.cons_append, List.cons.injEq] at spread_eq
            rcases spread_eq with ⟨rfl, spread_eq⟩
            rcases behind before first second after spread_eq missing with
              ⟨extra, some_extra, text_eq⟩
            exact ⟨extra, some_extra, by simp [text_eq]⟩
      by_cases concat : piece.kind = .concat
      · refine ⟨[], piece, next :: rest, rfl, ⟨concat, .inr ⟨next, rfl, none_missing⟩⟩, ?_⟩
        intro before first second after spread_eq left
        rcases exists_extra_of_gap none_missing spread_eq left with ⟨extra, some_extra, text_eq⟩
        exact ⟨piece.text ++ extra, by simp [some_extra], text_eq⟩
      · have next_concat := (gap_eq_one none_missing concat).2
        refine ⟨[piece], next, rest, rfl, ⟨next_concat, .inl ⟨piece, rfl, none_missing⟩⟩, ?_⟩
        intro before first second after spread_eq left
        rcases exists_extra_of_gap none_missing spread_eq left with ⟨extra, some_extra, text_eq⟩
        exact ⟨extra, some_extra, by simpa using text_eq⟩

/-- A gap that is left stands behind an open tag. -/
theorem openTag_of_gap (tags : ∀ piece ∈ pieces, IsBareTag piece.text → piece.kind = .openTag)
    {before after : List Piece} {first second : Piece}
    (spread_eq : spread pieces = before ++ first :: second :: after) (left : gap first second ≠ 0) :
    first.kind = .openTag := by
  induction pieces using spread.induct generalizing before with
  | case1 => simp [spread] at spread_eq
  | case2 piece =>
      have length_eq := congrArg List.length spread_eq
      simp only [spread, List.length_append, List.length_cons, List.length_nil] at length_eq
      omega
  | case3 piece next rest ih =>
      have later := @ih fun other member => tags other (List.mem_cons_of_mem _ member)
      rcases exists_spread_cons next rest with ⟨more, tail, new_eq⟩
      by_cases none_missing : gap piece next = 0
      · rw [spread_cons_of_gap_eq_zero none_missing] at spread_eq
        cases before with
        | nil =>
            rw [new_eq, List.nil_append, List.cons.injEq, List.cons.injEq] at spread_eq
            rcases spread_eq with ⟨rfl, rfl, -⟩
            exact absurd ((gap_congr rfl rfl).trans none_missing) left
        | cons head before => exact later (List.cons.inj spread_eq).2
      by_cases bare : IsBareTag piece.text
      · rw [spread, joint_of_bare none_missing bare, List.singleton_append] at spread_eq
        cases before with
        | nil =>
            rw [← (List.cons.inj spread_eq).1]
            exact tags piece List.mem_cons_self bare
        | cons head before => exact later (List.cons.inj spread_eq).2
      · rw [spread, joint_of_plain none_missing bare, List.cons_append,
          List.singleton_append] at spread_eq
        rcases before with _ | ⟨head, _ | ⟨following, before⟩⟩
        · rw [List.nil_append, List.cons.injEq, List.cons.injEq] at spread_eq
          rcases spread_eq with ⟨rfl, rfl, -⟩
          exact absurd (gap_spacer_right _ _) left
        · rw [List.singleton_append, List.cons.injEq, List.cons.injEq] at spread_eq
          rcases spread_eq with ⟨-, rfl, -⟩
          exact absurd (gap_spacer_left _ _) left
        · exact later (List.cons.inj (List.cons.inj spread_eq).2).2

/-- The operators that are left with a gap stand behind longer texts than the first operator with a
gap there was. -/
theorem exists_first_hasGap
    (tags : ∀ piece ∈ pieces, IsBareTag piece.text → piece.kind = .openTag)
    (some_gap : ¬pieces.IsChain fun piece next => gap piece next = 0) :
    ∃ front piece back, pieces = front ++ piece :: back ∧ HasGap front piece back ∧
      ∀ before middle after, spread pieces = before ++ middle :: after →
        HasGap before middle after → ∃ extra, extra ≠ [] ∧
          written before = written front ++ extra := by
  rcases exists_first_gap some_gap with ⟨front, piece, back, pieces_eq, has_gap, behind⟩
  refine ⟨front, piece, back, pieces_eq, has_gap, ?_⟩
  rintro before middle after spread_eq ⟨concat, ⟨last, last_eq, left⟩ | ⟨next, head_eq, left⟩⟩
  · rcases List.getLast?_eq_some_iff.mp last_eq with ⟨earlier, rfl⟩
    rw [List.append_assoc] at spread_eq
    rcases behind earlier last middle after spread_eq left with ⟨extra, some_extra, text_eq⟩
    exact ⟨extra, some_extra, by simpa using text_eq⟩
  · rcases List.head?_eq_some_iff.mp head_eq with ⟨tail, rfl⟩
    have tag := openTag_of_gap tags spread_eq left
    rw [concat] at tag
    cases tag

/-! ### What is kept -/

theorem filterMap_signOf?_spread (pieces : List Piece) :
    ((spread pieces).map Piece.kind).filterMap signOf? =
      (pieces.map Piece.kind).filterMap signOf? := by
  induction pieces using spread.induct with
  | case1 => rfl
  | case2 piece => rfl
  | case3 piece next rest ih =>
      have joint_eq : ((joint piece next).map Piece.kind).filterMap signOf? =
          [piece.kind].filterMap signOf? := by
        by_cases none_missing : gap piece next = 0
        · rw [joint_of_gap_eq_zero none_missing]
          rfl
        by_cases bare : IsBareTag piece.text
        · rw [joint_of_bare none_missing bare]
          rfl
        · rw [joint_of_plain none_missing bare]
          rfl
      rw [spread, List.map_append, List.filterMap_append, ih, joint_eq, ← List.filterMap_append]
      rfl

/-- Whether new pieces are the old ones with whitespace between them, where an open tag may have
absorbed a space. -/
inductive Sprinkled : List Piece → List Piece → Prop where
  | nil : Sprinkled [] []
  | keep {old new : Piece} {olds news : List Piece} (kind_eq : new.kind = old.kind)
      (text : new.text = old.text ∨ old.kind = .openTag ∧ new.text = old.text ++ [' '])
      (rest : Sprinkled olds news) : Sprinkled (old :: olds) (new :: news)
  | space {new : Piece} {olds news : List Piece} (kind_eq : new.kind = .whitespace)
      (rest : Sprinkled olds news) : Sprinkled olds (new :: news)

theorem ReadsPieces.openTag_of_mem {scanner : Scanner} (reads : ReadsPieces scanner pieces)
    (member : piece ∈ pieces) (bare : IsBareTag piece.text) : piece.kind = .openTag := by
  induction pieces generalizing scanner with
  | nil => cases member
  | cons first pieces ih =>
      rcases reads.cons_inv with ⟨move, -, -, -, later⟩
      rcases List.mem_cons.mp member with rfl | among
      · exact reads.openTag_of_bare bare
      · exact ih later among

theorem sprinkled_spread_spread
    (tags : ∀ piece ∈ pieces, IsBareTag piece.text → piece.kind = .openTag) :
    Sprinkled pieces (spread (spread pieces)) := by
  induction pieces using spread.induct with
  | case1 => exact .nil
  | case2 piece => exact .keep rfl (.inl rfl) .nil
  | case3 piece next rest ih =>
      have later := ih fun other member => tags other (List.mem_cons_of_mem _ member)
      rw [spread_spread_cons, jointTwice]
      split
      · exact .keep rfl (.inl rfl) later
      rename_i missing
      split
      · rename_i bare
        have tag := tags piece List.mem_cons_self bare
        have one := (gap_eq_one missing (by simp [tag])).1
        exact .keep rfl (.inr ⟨tag, by rw [one]; rfl⟩) (.space rfl later)
      · exact .keep rfl (.inl rfl) (.space rfl later)

namespace Sprinkled

variable {lexemes found : List Lexeme}

theorem codeKinds_eq (sprinkled : Sprinkled (lexemes.map pieceOf) (found.map pieceOf)) :
    codeKinds found = codeKinds lexemes := by
  have kinds_eq : ∀ lexemes : List Lexeme, codeKinds lexemes =
      ((lexemes.map pieceOf).map Piece.kind).filter fun kind => !kind.isTrivia := by
    intro lexemes
    rw [codeKinds, List.map_map]
    rfl
  rw [kinds_eq, kinds_eq]
  generalize lexemes.map pieceOf = olds at sprinkled
  generalize found.map pieceOf = news at sprinkled
  induction sprinkled with
  | nil => rfl
  | keep kind_eq text rest ih => simp only [List.map_cons, kind_eq, List.filter_cons, ih]
  | space kind_eq rest ih =>
      rw [List.map_cons, kind_eq, List.filter_cons_of_neg (by decide), ih]

/-- What is no whitespace is kept with its kind once this is settled. -/
theorem forall₂_settle (sprinkled : Sprinkled (lexemes.map pieceOf) (found.map pieceOf)) :
    List.Forall₂
      (fun old new : Lexeme => new.kind = old.kind ∧ (new.content = old.content ∨
        old.kind = .openTag ∧ new.content = old.content ++ " "))
      ((settle lexemes).filter fun lexeme => lexeme.kind ≠ .whitespace)
      ((settle found).filter fun lexeme => lexeme.kind ≠ .whitespace) := by
  generalize olds_eq : lexemes.map pieceOf = olds at sprinkled
  generalize news_eq : found.map pieceOf = news at sprinkled
  induction sprinkled generalizing lexemes found with
  | nil =>
      rw [List.map_eq_nil_iff.mp olds_eq, List.map_eq_nil_iff.mp news_eq]
      exact .nil
  | @keep old new olds news kind_eq text rest ih =>
      rcases List.map_eq_cons_iff.mp olds_eq with ⟨lexeme, lexemes, rfl, rfl, rfl⟩
      rcases List.map_eq_cons_iff.mp news_eq with ⟨other, found, rfl, rfl, rfl⟩
      have later := ih rfl rfl
      have kind_eq : other.kind = lexeme.kind := kind_eq
      have settled_eq : settledKind other.kind found = settledKind lexeme.kind lexemes := by
        rw [kind_eq, settledKind_congr rest.codeKinds_eq]
      have content : other.content = lexeme.content ∨
          settledKind lexeme.kind lexemes = .openTag ∧ other.content = lexeme.content ++ " " := by
        refine text.imp String.toList_inj.mp ?_
        rintro ⟨tag, text_eq⟩
        have tag : lexeme.kind = .openTag := tag
        have text_eq : other.content.toList = lexeme.content.toList ++ [' '] := text_eq
        refine ⟨?_, String.toList_inj.mp (by simpa using text_eq)⟩
        rw [tag]
        rfl
      simp only [settle, List.filter_cons, settled_eq]
      split
      · exact .cons ⟨rfl, content⟩ later
      · exact later
  | @space new olds news kind_eq rest ih =>
      rcases List.map_eq_cons_iff.mp news_eq with ⟨other, found, rfl, rfl, rfl⟩
      have kind_eq : other.kind = .whitespace := kind_eq
      have settled_eq : settledKind other.kind found = .whitespace := by
        rw [kind_eq]
        rfl
      simpa only [settle, List.filter_cons, settled_eq, ne_eq, not_true_eq_false, decide_false,
        Bool.false_eq_true, if_false] using ih olds_eq rfl

end Sprinkled

end TokenLint.Lexer
