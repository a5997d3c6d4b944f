import TokenLint.Proofs.Navigation.Arguments
import TokenLint.Proofs.Navigation.Bounds

/-!
# Chains of negations

Negations with nothing but whitespace and comments between them follow one another up to an operand,
or up to the end of the source. The search for the operand finds all of them. Every negation belongs
to the chain of exactly one that follows no other, and a chain ends in front of the next one.
-/

namespace TokenLint

namespace TokenStream

/-- Whether a negation follows another one with nothing but trivia between them. -/
structure NextNegation (stream : TokenStream) (index next : Nat) : Prop where
  after : index < next
  here : stream.hasKind index .booleanNot = true
  there : stream.hasKind next .booleanNot = true
  blank : stream.Blank (index + 1) next

/-- The negations that follow one another from an index on: how many there are, and where their
operand stands. Behind the last ones of a source there is no operand but its end. -/
inductive NegationsFrom (stream : TokenStream) : Nat → Nat → Nat → Prop where
  | last {index stop : Nat} (negation : stream.hasKind index .booleanNot = true)
      (after : index < stop) (within : stop ≤ stream.size)
      (blank : stream.Blank (index + 1) stop)
      (operand : stream.kindIs stop TokenKind.isTrivia = false ∧
        stream.hasKind stop .booleanNot = false) : NegationsFrom stream index 1 stop
  | next {index following count stop : Nat} (follows : stream.NextNegation index following)
      (rest : NegationsFrom stream following count stop) :
      NegationsFrom stream index (count + 1) stop

/-- Whether two or more negations follow one another from an index on up to an operand, and none
stands in front of them. -/
structure IsNegationChain (stream : TokenStream) (first count stop : Nat) : Prop where
  several : 2 ≤ count
  negations : stream.NegationsFrom first count stop
  leads : ∀ before, ¬stream.NextNegation before first

/-- Whether a negation stands at an index and follows no other one. -/
def LeadsNegations (stream : TokenStream) (index : Nat) : Prop :=
  stream.hasKind index .booleanNot = true ∧ ∀ before, ¬stream.NextNegation before index

variable {stream : TokenStream} {index next place first other count otherCount stop otherStop : Nat}

theorem code_of_negation (negation : stream.hasKind index .booleanNot = true) :
    stream.kindIs index TokenKind.isTrivia = false := kindIs_of_hasKind negation

/-- No negation stands among trivia. -/
theorem Blank.not_negation {start : Nat} (blank : stream.Blank start stop) (after : start ≤ place)
    (before : place < stop) : stream.hasKind place .booleanNot = false := by
  rw [Bool.eq_false_iff]
  intro negation
  have trivia := blank place after before
  rw [code_of_negation negation] at trivia
  cases trivia

theorem NextNegation.nextCode?_eq (follows : stream.NextNegation index next) :
    stream.nextCode? (index + 1) = some next :=
  nextCode?_of_blank follows.after follows.blank (code_of_negation follows.there)
    (lt_size_of_hasKind follows.there)

namespace NegationsFrom

theorem negation (negations : stream.NegationsFrom index count stop) :
    stream.hasKind index .booleanNot = true := by
  cases negations with
  | last negation => exact negation
  | next follows => exact follows.here

theorem count_pos (negations : stream.NegationsFrom index count stop) : 0 < count := by
  cases negations <;> exact Nat.succ_pos _

theorem index_lt (negations : stream.NegationsFrom index count stop) : index < stop := by
  induction negations with
  | last _ after => exact after
  | next follows _ ih => exact Nat.lt_trans follows.after ih

theorem stop_le (negations : stream.NegationsFrom index count stop) : stop ≤ stream.size := by
  induction negations with
  | last _ _ within => exact within
  | next _ _ ih => exact ih

/-- The operand is neither a negation nor trivia. -/
theorem operand (negations : stream.NegationsFrom index count stop) :
    stream.kindIs stop TokenKind.isTrivia = false ∧ stream.hasKind stop .booleanNot = false := by
  induction negations with
  | last _ _ _ _ operand => exact operand
  | next _ _ ih => exact ih

/-- Up to the operand stand trivia and negations that follow others. -/
theorem between (negations : stream.NegationsFrom index count stop) (after : index < place)
    (before : place < stop) : stream.kindIs place TokenKind.isTrivia = true ∨
      ∃ earlier, index ≤ earlier ∧ stream.NextNegation earlier place := by
  induction negations with
  | last _ _ _ blank => exact .inl (blank place after before)
  | @next index following count stop follows rest ih =>
      rcases Nat.lt_trichotomy place following with inFront | rfl | behind
      · exact .inl (follows.blank place after inFront)
      · exact .inr ⟨index, Nat.le_refl _, follows⟩
      · rcases ih behind before with trivia | ⟨earlier, from_following, followsToo⟩
        · exact .inl trivia
        · exact .inr ⟨earlier, Nat.le_trans (Nat.le_of_lt follows.after) from_following,
            followsToo⟩

/-- There are several negations if another one stands in front of the operand. -/
theorem several_of_between (negations : stream.NegationsFrom index count stop)
    (negation : stream.hasKind place .booleanNot = true) (after : index < place)
    (before : place < stop) : 2 ≤ count := by
  cases negations with
  | last _ _ _ blank =>
      have apart := blank.not_negation after before
      rw [negation] at apart
      cases apart
  | next _ rest => exact Nat.succ_le_succ rest.count_pos

/-- A negation that follows one in front of the operand stands in front of the operand itself. -/
theorem lt_stop (negations : stream.NegationsFrom index count stop)
    (follows : stream.NextNegation place next) (before : place < stop) : next < stop := by
  rcases Nat.lt_trichotomy next stop with inside | rfl | outside
  · exact inside
  · have operand := negations.operand.2
    rw [follows.there] at operand
    cases operand
  · have trivia := follows.blank stop before outside
    rw [negations.operand.1] at trivia
    cases trivia

/-- The count goes on from the negations that were found before. -/
theorem notChainFrom_eq (negations : stream.NegationsFrom index count stop) (found : Nat) :
    stream.notChainFrom (found + 1) index = ⟨found + count, stop⟩ := by
  induction negations generalizing found with
  | @last index stop negation after within blank operand =>
      rw [notChainFrom]
      cases searched : stream.nextCode? (index + 1) with
      | none =>
          have blankToo := blank_of_nextCodeBefore?_eq_none (Nat.le_refl _) searched
          have size_eq : stop = stream.size := by
            rcases Nat.eq_or_lt_of_le within with same | inside
            · exact same
            · have trivia := blankToo stop after inside
              rw [operand.1] at trivia
              cases trivia
          rw [size_eq]
      | some following =>
          rcases of_nextCodeBefore? (Nat.le_refl _) searched with
            ⟨later, inside, blankToo, token, here, code⟩
          have following_eq : following = stop := by
            rcases Nat.lt_trichotomy following stop with inFront | same | behind
            · have trivia := blank following later inFront
              rw [kindIs, kind?, here, Option.map_some, Option.any_some, code] at trivia
              cases trivia
            · exact same
            · have trivia := blankToo stop after behind
              rw [operand.1] at trivia
              cases trivia
          simp only [following_eq, operand.2, Bool.false_eq_true, if_false]
  | @next index following count stop follows rest ih =>
      have inside := lt_size_of_hasKind follows.there
      rw [notChainFrom, follows.nextCode?_eq]
      simp only [follows.there, follows.after, inside, and_self, if_true]
      rw [ih (found + 1), Nat.add_assoc, Nat.add_comm 1]

theorem notChain_eq (negations : stream.NegationsFrom index count stop) :
    stream.notChain index = ⟨count, stop⟩ := by
  have chain_eq := negations.notChainFrom_eq 0
  rw [Nat.zero_add count] at chain_eq
  exact chain_eq

end NegationsFrom

/-- From every negation on, some negations follow one another. -/
theorem exists_negationsFrom (negation : stream.hasKind index .booleanNot = true) :
    ∃ count stop, stream.NegationsFrom index count stop := by
  induction left : stream.size - index using Nat.strong_induction_on generalizing index with
  | h left ih =>
      have inside := lt_size_of_hasKind negation
      cases searched : stream.nextCode? (index + 1) with
      | none =>
          have blank := blank_of_nextCodeBefore?_eq_none (Nat.le_refl _) searched
          have outside : stream.kind? stream.size = none := by
            simp [kind?, token?, size]
          exact ⟨1, stream.size, .last negation inside (Nat.le_refl _) blank
            (by simp [kindIs, hasKind, outside])⟩
      | some following =>
          rcases of_nextCodeBefore? (Nat.le_refl _) searched with
            ⟨after, within, blank, token, here, code⟩
          by_cases again : stream.hasKind following .booleanNot = true
          · rcases ih _ (by omega) again rfl with ⟨count, stop, rest⟩
            exact ⟨count + 1, stop, .next ⟨after, negation, again, blank⟩ rest⟩
          · refine ⟨1, following, .last negation after (Nat.le_of_lt within) blank ⟨?_, ?_⟩⟩
            · rw [kindIs, kind?, here, Option.map_some, Option.any_some, code]
            · rwa [Bool.not_eq_true] at again

/-- The search counts the negations that follow one another and finds their operand. -/
theorem negationsFrom_notChain (negation : stream.hasKind index .booleanNot = true) :
    stream.NegationsFrom index (stream.notChain index).count (stream.notChain index).stop := by
  rcases exists_negationsFrom negation with ⟨count, stop, negations⟩
  rw [negations.notChain_eq]
  exact negations

theorem isNegationChain_iff : stream.IsNegationChain index count stop ↔
    stream.LeadsNegations index ∧ 2 ≤ count ∧ stream.notChain index = ⟨count, stop⟩ := by
  constructor
  · rintro ⟨several, negations, leads⟩
    exact ⟨⟨negations.negation, leads⟩, several, negations.notChain_eq⟩
  · rintro ⟨⟨negation, leads⟩, several, chain_eq⟩
    have negations := negationsFrom_notChain negation
    rw [chain_eq] at negations
    exact ⟨several, negations, leads⟩

/-- Every negation that follows another one stands in front of the operand of one that follows
none. -/
theorem exists_leading (follows : stream.NextNegation other index) :
    ∃ lead count stop, stream.LeadsNegations lead ∧ stream.NegationsFrom lead count stop ∧
      lead < index ∧ index < stop := by
  induction index using Nat.strong_induction_on generalizing other with
  | h index ih =>
      by_cases leading : ∀ before, ¬stream.NextNegation before other
      · rcases exists_negationsFrom follows.here with ⟨count, stop, negations⟩
        exact ⟨other, count, stop, ⟨follows.here, leading⟩, negations, follows.after,
          negations.lt_stop follows negations.index_lt⟩
      · rw [not_forall_not] at leading
        rcases leading with ⟨before, followsToo⟩
        rcases ih other follows.after followsToo with
          ⟨lead, count, stop, leads, negations, lead_lt, lt_stop⟩
        exact ⟨lead, count, stop, leads, negations, Nat.lt_trans lead_lt follows.after,
          negations.lt_stop follows lt_stop⟩

/-- What follows no other negation stands behind the operands of the ones before it. -/
theorem NegationsFrom.stop_le_of_leads (negations : stream.NegationsFrom index count stop)
    (leads : stream.LeadsNegations other) (after : index < other) : stop ≤ other := by
  by_contra inside
  rcases negations.between after (Nat.lt_of_not_le inside) with trivia | ⟨earlier, -, follows⟩
  · rw [code_of_negation leads.1] at trivia
    cases trivia
  · exact leads.2 earlier follows

/-- No place belongs to two chains. -/
theorem index_eq_of_between (leads : stream.LeadsNegations index)
    (negations : stream.NegationsFrom index count stop) (otherLeads : stream.LeadsNegations other)
    (otherNegations : stream.NegationsFrom other otherCount otherStop)
    (after : index ≤ place) (before : place < stop) (otherAfter : other ≤ place)
    (otherBefore : place < otherStop) : index = other := by
  rcases Nat.lt_trichotomy index other with inFront | same | behind
  · have apart := negations.stop_le_of_leads otherLeads inFront
    omega
  · exact same
  · have apart := otherNegations.stop_le_of_leads leads behind
    omega

/-- A negation that another one follows stands in a chain. -/
theorem exists_chain (follows : stream.NextNegation index next) :
    ∃ first count stop, stream.IsNegationChain first count stop ∧ first ≤ index ∧
      index < stop := by
  by_cases leading : ∀ before, ¬stream.NextNegation before index
  · rcases exists_negationsFrom follows.there with ⟨count, stop, rest⟩
    have negations := NegationsFrom.next follows rest
    exact ⟨index, count + 1, stop, ⟨Nat.succ_le_succ rest.count_pos, negations, leading⟩,
      Nat.le_refl _, negations.index_lt⟩
  · rw [not_forall_not] at leading
    rcases leading with ⟨before, behind⟩
    rcases exists_leading behind with ⟨first, count, stop, leads, negations, first_lt, lt_stop⟩
    refine ⟨first, count, stop, ⟨?_, negations, leads.2⟩, Nat.le_of_lt first_lt, lt_stop⟩
    exact negations.several_of_between behind.there first_lt lt_stop

/-- Whether no negation stands in front of one as the code before it. -/
def leadsNegations (stream : TokenStream) (index : Nat) : Bool :=
  stream.hasKind index .booleanNot &&
    !(stream.previousCode? index).any fun before => stream.hasKind before .booleanNot

theorem leadsNegations_iff : stream.leadsNegations index = true ↔ stream.LeadsNegations index := by
  rw [leadsNegations, Bool.and_eq_true, LeadsNegations]
  refine and_congr_right fun negation => ?_
  have inside := lt_size_of_hasKind negation
  cases searched : stream.previousCode? index with
  | none =>
      have blank := blank_of_previousCode?_eq_none (Nat.le_of_lt inside) searched
      simp only [Option.any_none, Bool.not_false, true_iff]
      intro before follows
      have apart := blank.not_negation (Nat.zero_le _) follows.after
      rw [follows.here] at apart
      cases apart
  | some before =>
      rcases blank_of_previousCode? (Nat.le_of_lt inside) searched with ⟨lower, blank, code⟩
      simp only [Option.any_some, Bool.not_eq_true', Bool.eq_false_iff]
      refine ⟨fun other earlier follows => ?_, fun leads again => ?_⟩
      · rcases Nat.lt_trichotomy earlier before with inFront | rfl | behind
        · have trivia := follows.blank before inFront lower
          rw [code] at trivia
          cases trivia
        · exact other follows.here
        · have apart := blank.not_negation behind follows.after
          rw [follows.here] at apart
          cases apart
      · exact leads before ⟨lower, again, negation, blank⟩

end TokenStream

end TokenLint
