import TokenLint.Config.Merge
import TokenLint.Proofs.Workspace.Places
import Mathlib.Data.List.Induction
import Mathlib.Data.List.Nodup

/-!
# What cannot be merged

Two things go wrong when settings are merged. The options of rules are laid over a value that is no
table and cannot be read as one; and what a ruleset excludes is united with values that cannot be
put in order. Both are told here from the values alone.
-/

namespace TokenLint

namespace Table

variable {made reached : Table} {entry : String × Value} {key : String}

theorem has_iff {table : Table} : table.has key = true ↔ key ∈ table.map Prod.fst := by
  simp [has, get?]

theorem get?_set (made : Table) (key : String) (value : Value) (other : String) :
    (made.set key value).get? other = if other = key then some value else made.get? other := by
  simp only [set, get?]
  split
  · rename_i present
    rw [lookup_map_replace]
    rcases Option.isSome_iff_exists.mp present with ⟨earlier, found⟩
    rw [show made.lookup key = some earlier from found, Option.map_some]
  · rename_i absent
    by_cases same : other = key
    · have missing : made.lookup key = none := by
        rw [← Option.not_isSome_iff_eq_none]
        exact absent
      simp [same, List.lookup_append, missing]
    · simp [List.lookup_append, List.lookup_cons, beq_eq_false_iff_ne.mpr same, same]

/-- Whether settings do not set the options of rules. -/
def Quiet (settings : Table) : Prop :=
  ∀ entry ∈ settings, entry.1 = Setting.ruleOptions.key → entry.2 = .null

/-- Whether settings lay options of rules over a value that cannot be read as a table. -/
def MixesOptions (settings : Table) : Prop :=
  ∃ earlier value between options later,
    settings = earlier ++ (Setting.ruleOptions.key, value) ::
      (between ++ (Setting.ruleOptions.key, .table options) :: later) ∧
    Quiet between ∧ value ≠ .null ∧ ∃ error, value.asTable = .error error

variable {settings : Table}

theorem keys_set (made : Table) (key : String) (value : Value) :
    (made.set key value).map Prod.fst =
      if made.has key then made.map Prod.fst else made.map Prod.fst ++ [key] := by
  simp only [set]
  split
  · rw [List.map_map]
    refine List.map_congr_left fun entry _ => ?_
    simp only [Function.comp_apply]
    split
    · rename_i same
      exact same.symm
    · rfl
  · rw [List.map_append, List.map_singleton]

theorem nodup_keys_set (distinct : (made.map Prod.fst).Nodup) (key : String) (value : Value) :
    ((made.set key value).map Prod.fst).Nodup := by
  rw [keys_set]
  split
  · exact distinct
  · rename_i absent
    rw [has_iff] at absent
    refine List.nodup_append.mpr ⟨distinct, List.nodup_singleton key, ?_⟩
    rintro other member another last rfl
    exact absent (List.mem_singleton.mp last ▸ member)

end Table

/-- Whether values that are to be united with some identifiers cannot be put in order: one of them
cannot be an element of a set, or two of all cannot be compared. -/
def Unsortable (ids : List String) (values : List Value) : Prop :=
  (∃ value ∈ values, value.isHashable = false) ∨
    ∃ left ∈ ids.map Value.text ++ values, ∃ right ∈ ids.map Value.text ++ values,
      left.comparisonClass ≠ right.comparisonClass

end TokenLint
