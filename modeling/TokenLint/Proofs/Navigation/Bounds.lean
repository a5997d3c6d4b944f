import TokenLint.Navigation.Call
import TokenLint.Navigation.Ternary
import TokenLint.Proofs.Stream.Bounds
import TokenLint.Rule.NotChain
import Mathlib.Data.Option.Basic

/-!
# What searches return

A search returns the nearest index that it accepts within its bounds, and every scan over
a bounded stream ends at a token of the stream.
-/

namespace TokenLint

theorem firstIndex?_eq_some {accepts : Nat → Bool} {start stop index : Nat}
    (found : firstIndex? accepts start stop = some index) :
    start ≤ index ∧ index < stop ∧ accepts index = true ∧
      ∀ earlier, start ≤ earlier → earlier < index → accepts earlier = false := by
  fun_induction firstIndex? accepts start stop with
  | case1 start inside accepted =>
      cases found
      refine ⟨Nat.le_refl _, inside, accepted, ?_⟩
      intro earlier lower upper
      omega
  | case2 start inside refused ih =>
      rcases ih found with ⟨lower, upper, accepted, nearest⟩
      refine ⟨by omega, upper, accepted, ?_⟩
      intro earlier from_start before
      rcases Nat.eq_or_lt_of_le from_start with rfl | later
      · simpa using refused
      · exact nearest earlier later before
  | case3 start outside => cases found

theorem firstIndex?_of_nearest {accepts : Nat → Bool} {start stop index : Nat}
    (after : start ≤ index) (before : index < stop) (accepted : accepts index = true)
    (nearest : ∀ earlier, start ≤ earlier → earlier < index → accepts earlier = false) :
    firstIndex? accepts start stop = some index := by
  fun_induction firstIndex? accepts start stop with
  | case1 start inside here =>
      rcases Nat.eq_or_lt_of_le after with rfl | later
      · rfl
      · rw [nearest start (Nat.le_refl _) later] at here
        cases here
  | case2 start inside refused ih =>
      have start_ne : start ≠ index := by
        rintro rfl
        exact refused accepted
      apply ih (by omega)
      intro earlier from_start upper
      exact nearest earlier (by omega) upper
  | case3 start outside => omega

theorem firstIndex?_eq_none {accepts : Nat → Bool} {start stop : Nat}
    (missing : firstIndex? accepts start stop = none) :
    ∀ index, start ≤ index → index < stop → accepts index = false := by
  fun_induction firstIndex? accepts start stop with
  | case1 start inside accepted => cases missing
  | case2 start inside refused ih =>
      intro index after before
      rcases Nat.eq_or_lt_of_le after with rfl | later
      · simpa using refused
      · exact ih missing index later before
  | case3 start outside =>
      intro index after before
      omega

/-- The search forward returns the first of all indexes that it accepts. -/
theorem firstIndex?_eq_head? (accepts : Nat → Bool) (start stop : Nat) :
    firstIndex? accepts start stop =
      ((List.range' start (stop - start)).filter accepts).head? := by
  fun_induction firstIndex? accepts start stop with
  | case1 start inside accepted =>
      rw [← Nat.succ_pred_eq_of_pos (Nat.sub_pos_of_lt inside), List.range'_succ,
        List.filter_cons_of_pos accepted, List.head?_cons]
  | case2 start inside refused ih =>
      have length_eq : stop - start = stop - (start + 1) + 1 := by omega
      rw [ih, length_eq, List.range'_succ, List.filter_cons_of_neg refused]
  | case3 start outside =>
      have length_eq : stop - start = 0 := by omega
      rw [length_eq]
      rfl

theorem lastIndex?_eq_some {accepts : Nat → Bool} {low stop index : Nat}
    (found : lastIndex? accepts low stop = some index) :
    low ≤ index ∧ index < stop ∧ accepts index = true ∧
      ∀ later, index < later → later < stop → accepts later = false := by
  induction stop with
  | zero => cases found
  | succ stop ih =>
      simp only [lastIndex?] at found
      split at found
      · cases found
      · split at found
        · rename_i low_le accepted
          cases found
          refine ⟨by omega, Nat.lt_succ_self _, accepted, ?_⟩
          intro later after before
          omega
        · rename_i refused
          rcases ih found with ⟨lower, upper, accepted, nearest⟩
          refine ⟨lower, by omega, accepted, ?_⟩
          intro later after before
          rcases Nat.eq_or_lt_of_le (Nat.le_of_lt_succ before) with rfl | earlier
          · simpa using refused
          · exact nearest later after earlier

theorem lastIndex?_eq_none {accepts : Nat → Bool} {low stop : Nat}
    (missing : lastIndex? accepts low stop = none) :
    ∀ index, low ≤ index → index < stop → accepts index = false := by
  induction stop with
  | zero =>
      intro index after before
      omega
  | succ stop ih =>
      intro index after before
      simp only [lastIndex?] at missing
      split at missing
      · omega
      · split at missing
        · cases missing
        · rename_i refused
          rcases Nat.eq_or_lt_of_le (Nat.le_of_lt_succ before) with rfl | earlier
          · simpa using refused
          · exact ih missing index after earlier

/-- The search backward returns the last of all indexes that it accepts. -/
theorem lastIndex?_eq_getLast? (accepts : Nat → Bool) (low stop : Nat) :
    lastIndex? accepts low stop =
      ((List.range' low (stop - low)).filter accepts).getLast? := by
  induction stop with
  | zero => simp [lastIndex?]
  | succ stop ih =>
      rw [lastIndex?]
      split
      · have length_eq : stop + 1 - low = 0 := by omega
        rw [length_eq]
        rfl
      · have length_eq : stop + 1 - low = stop - low + 1 := by omega
        have last_eq : low + (stop - low) = stop := by omega
        rw [length_eq, List.range'_1_concat, last_eq, List.filter_append]
        split
        · rename_i accepted
          rw [List.filter_cons_of_pos accepted, List.filter_nil, List.getLast?_concat]
        · rename_i refused
          rw [ih, List.filter_cons_of_neg refused, List.filter_nil, List.append_nil]

namespace TokenStream

variable {stream : TokenStream}

/-- A property of the kind alone is asked of the kind. -/
theorem holdsAt_kind (stream : TokenStream) (inClass : TokenKind → Bool) :
    stream.holdsAt (fun token => inClass token.kind) =
      fun index => stream.kindIs index inClass := by
  funext index
  rw [holdsAt, kindIs, kind?, Option.any_map]

/-- What a search for code passes is blank. -/
theorem isTrivia_of_not_holdsAt {place : Nat} (inside : place < stream.size)
    (passed : stream.holdsAt (fun token => !token.isTrivia) place = false) :
    stream.kindIs place TokenKind.isTrivia = true := by
  rcases exists_token?_of_lt inside with ⟨token, here⟩
  simp only [holdsAt, here, Option.any_some, Bool.not_eq_false'] at passed
  simp only [kindIs, kind?, here, Option.map_some, Option.any_some]
  exact passed

theorem firstWith?_eq_some {property : Token → Bool} {start stop index : Nat}
    (found : stream.firstWith? property start stop = some index) :
    start ≤ index ∧ index < stop ∧ index < stream.size ∧ stream.holdsAt property index = true := by
  have nearest := firstIndex?_eq_some found
  exact ⟨nearest.1, by omega, by omega, nearest.2.2.1⟩

theorem lastWith?_eq_some {property : Token → Bool} {low stop index : Nat}
    (found : stream.lastWith? property low stop = some index) :
    low ≤ index ∧ index < stop ∧ index < stream.size ∧ stream.holdsAt property index = true := by
  have nearest := lastIndex?_eq_some found
  exact ⟨nearest.1, by omega, by omega, nearest.2.2.1⟩

theorem nextCode?_bounds {start index : Nat} (found : stream.nextCode? start = some index) :
    start ≤ index ∧ index < stream.size :=
  have bounds := firstWith?_eq_some found
  ⟨bounds.1, bounds.2.2.1⟩

theorem of_callOpener? {index opener : Nat} (found : stream.callOpener? index = some opener) :
    stream.nextCode? (index + 1) = some opener ∧ stream.hasKind opener .openParenthesis = true ∧
      ∃ previous, stream.previousCode? index = some previous ∧
        stream.kindIs previous hidesFunction = false ∧
        (stream.hasKind previous .namespaceSeparator && stream.isQualified previous) = false := by
  unfold callOpener? at found
  rcases Option.bind_eq_some_iff.mp found with ⟨following, next, found⟩
  rcases Option.bind_eq_some_iff.mp found with ⟨⟨⟩, opens, found⟩
  rcases Option.bind_eq_some_iff.mp found with ⟨previous, before, found⟩
  rcases Option.bind_eq_some_iff.mp found with ⟨⟨⟩, visible, found⟩
  rcases Option.bind_eq_some_iff.mp found with ⟨⟨⟩, unqualified, found⟩
  cases found
  simp only [Option.guard_eq_some', Bool.not_eq_true'] at opens visible unqualified
  exact ⟨next, opens, previous, before, visible, unqualified⟩

/-- A call's parenthesis stands after its name. -/
theorem callOpener?_bounds {index opener : Nat} (found : stream.callOpener? index = some opener) :
    index < opener ∧ opener < stream.size :=
  nextCode?_bounds (of_callOpener? found).1

theorem argumentsFrom_bounds {closer start index : Nat} {argument : Nat × Nat}
    (member : argument ∈ stream.argumentsFrom closer start index) :
    argument.1 < stream.size ∧ argument.2 < stream.size := by
  fun_induction argumentsFrom stream closer start index with
  | case1 start index within token inner opens later ih => exact ih member
  | case2 | case5 => simp at member
  | case3 start index within token opens ends first range ih =>
      rcases List.mem_append.mp member with here | later
      · simp only [range] at here
        split at here
        · rename_i first last found_first found_last
          cases List.mem_singleton.mp here
          exact ⟨(firstWith?_eq_some found_first).2.2.1, (lastWith?_eq_some found_last).2.2.1⟩
        · simp at here
      · exact ih later
  | case4 start index within token opens ends ih => exact ih member

/-- The sign that ends the then branch of a ternary stands after the scan's start. -/
theorem ternaryElseFrom?_bounds {depth index colon : Nat}
    (found : stream.ternaryElseFrom? depth index = some colon) :
    index ≤ colon ∧ colon < stream.size := by
  fun_induction ternaryElseFrom? stream depth index with
  | case1 | case2 | case4 | case5 | case10 => cases found
  | case3 depth index inside token here opens closer matched later ih =>
      have bounds := ih found
      omega
  | case6 depth index inside token here opens closes asks ih =>
      have bounds := ih found
      omega
  | case7 depth index inside =>
      cases found
      exact ⟨Nat.le_refl _, inside⟩
  | case8 depth index inside token here opens closes asks answers deep ih =>
      have bounds := ih found
      omega
  | case9 depth index inside token here opens closes asks answers ih =>
      have bounds := ih found
      omega

theorem ternaryElse?_bounds {index colon : Nat} (found : stream.ternaryElse? index = some colon) :
    index < colon ∧ colon < stream.size :=
  ternaryElseFrom?_bounds found

theorem hasKind_of_ternaryElseFrom? {depth index colon : Nat}
    (found : stream.ternaryElseFrom? depth index = some colon) :
    stream.hasKind colon .ternaryElse = true := by
  fun_induction ternaryElseFrom? stream depth index with
  | case1 | case2 | case4 | case5 | case10 => cases found
  | case3 depth index inside token here opens closer matched later ih => exact ih found
  | case6 depth index inside token here opens closes asks ih => exact ih found
  | case7 depth index inside token here opens closes asks answers =>
      cases found
      simp [hasKind, kind?, here, answers]
  | case8 depth index inside token here opens closes asks answers deep ih => exact ih found
  | case9 depth index inside token here opens closes asks answers ih => exact ih found

theorem hasKind_of_ternaryElse? {index colon : Nat}
    (found : stream.ternaryElse? index = some colon) : stream.hasKind colon .ternaryElse = true :=
  hasKind_of_ternaryElseFrom? found

theorem elseEndFrom?_lt {last index stop : Nat} (bounded : stream.Bounded)
    (last_lt : last < stream.size) (found : stream.elseEndFrom? last index = some stop) :
    stop < stream.size := by
  fun_induction elseEndFrom? stream last index with
  | case1 | case2 | case4 => cases found
  | case3 last index inside token here opens closer matched later ih =>
      have pair : stream.partner? index = some closer := by
        rw [partner?, here]
        exact matched
      exact ih (bounded.partner_lt pair) found
  | case5 last index inside =>
      cases found
      exact last_lt
  | case6 last index inside token here opens ends ih =>
      refine ih ?_ found
      split
      · exact last_lt
      · exact inside
  | case7 last index outside =>
      cases found
      exact last_lt

theorem elseEnd?_lt {colon stop : Nat} (bounded : stream.Bounded) (colon_lt : colon < stream.size)
    (found : stream.elseEnd? colon = some stop) : stop < stream.size := by
  unfold elseEnd? at found
  rcases Option.bind_eq_some_iff.mp found with ⟨last, ended, found⟩
  rcases Option.bind_eq_some_iff.mp found with ⟨-, -, found⟩
  cases found
  exact elseEndFrom?_lt bounded colon_lt ended

/-- A chain of negations ends within the stream. -/
theorem stop_notChainFrom_le {count index : Nat} :
    (stream.notChainFrom count index).stop ≤ stream.size := by
  fun_induction notChainFrom stream count index with
  | case1 => exact Nat.le_refl _
  | case2 count index following next negates inside ih => exact ih
  | case3 => exact Nat.le_refl _
  | case4 count index following next => exact Nat.le_of_lt (nextCode?_bounds next).2

end TokenStream

end TokenLint
