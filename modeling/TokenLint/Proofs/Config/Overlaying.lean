import TokenLint.Proofs.Config.Loading

/-!
# Settings laid over each other

Where settings of several sources are laid over each other, a setting is found as the last source
that gives it has it; a null gives nothing. The options of rules are laid over each other one by
one, so that an option of a rule is found as the last source has it that gives this option of this
rule. A variable of the environment that cannot be read ends the loading, so that those which are
left give each setting a value of its type.
-/

namespace TokenLint

/-- Whether a value stands for a setting that is not given. -/
def Value.isNull : Value → Bool
  | null => true
  | _ => false

namespace Table

/-- The value that settings give under a key; null is none. -/
def given? (settings : Table) (key : String) : Option Value :=
  (settings.get? key).filter fun value => !value.isNull

/-- The options that a table of rules holds for one of them. -/
def optionsOf? (rules : Table) (id : String) : Option Table := (rules.get? id).bind Value.entries?

/-- The options of rules in some settings. -/
def ruleOptions (settings : Table) : Table :=
  ((settings.get? Setting.ruleOptions.key).bind Value.entries?).getD []

/-- The value that a table of rules holds for an option of a rule. -/
def optionOf? (rules : Table) (id name : String) : Option Value :=
  (rules.optionsOf? id).bind fun options => options.get? name

/-- The value that settings give to an option of a rule. -/
def option? (settings : Table) (id name : String) : Option Value :=
  settings.ruleOptions.optionOf? id name

/-- Whether a table holds a table for each rule. -/
def HoldsTables (rules : Table) : Prop := ∀ id value, rules.get? id = some value →
  ∃ options, value = .table options

/-- Whether a table holds a table for each rule, and no rule and no option twice. -/
structure Distinct (rules : Table) : Prop where
  ids : (rules.map Prod.fst).Nodup
  options : ∀ entry ∈ rules, ∃ own : Table, entry.2 = .table own ∧ (own.map Prod.fst).Nodup

variable {made reached settings older newer : Table} {entry : String × Value} {key : String}

theorem get?_cons (entry : String × Value) (settings : Table) (key : String) :
    get? (entry :: settings) key = if key = entry.1 then some entry.2 else settings.get? key := by
  rcases entry with ⟨other, value⟩
  rw [get?, List.lookup_cons]
  by_cases same : key = other
  · simp [same]
  · simp [same, get?, beq_eq_false_iff_ne.mpr same]

theorem Distinct.holdsTables (distinct : older.Distinct) : older.HoldsTables := by
  intro id value present
  rcases distinct.options _ (mem_of_lookup present) with ⟨own, same, -⟩
  exact ⟨own, same⟩

/-! ### Options of rules -/

theorem nodup_keys_merge (distinct : (older.map Prod.fst).Nodup) :
    ((merge older newer).map Prod.fst).Nodup := by
  induction newer generalizing older with
  | nil => exact distinct
  | cons first rest ih => exact ih (nodup_keys_set distinct first.1 first.2)

/-- Options of one rule are laid over its earlier ones. -/
theorem overlayOptions_eq (holds : made.HoldsTables) (id : String) (own : Table) :
    made.overlayOptions id (.table own) =
      made.set id (.table (merge ((made.optionsOf? id).getD []) own)) := by
  rw [overlayOptions, optionsOf?]
  cases present : made.get? id with
  | none => rfl
  | some value =>
      rcases holds id value present with ⟨options, rfl⟩
      rfl

theorem HoldsTables.overlayOptions (holds : made.HoldsTables) (id : String) (own : Table) :
    (made.overlayOptions id (.table own)).HoldsTables := by
  intro other value present
  rw [overlayOptions_eq holds, get?_set] at present
  split at present
  · cases present
    exact ⟨_, rfl⟩
  · exact holds other value present

theorem Distinct.set (distinct : made.Distinct) (id : String) {own : Table}
    (ownDistinct : (own.map Prod.fst).Nodup) : (made.set id (.table own)).Distinct := by
  refine ⟨nodup_keys_set distinct.ids id _, fun entry member => ?_⟩
  have entered : entry = (id, .table own) ∨ entry ∈ made := by
    simp only [Table.set] at member
    split at member
    · rcases List.mem_map.mp member with ⟨before, among, same⟩
      split at same
      · exact .inl same.symm
      · exact .inr (same ▸ among)
    · rcases List.mem_append.mp member with among | last
      · exact .inr among
      · exact .inl (List.mem_singleton.mp last)
  rcases entered with rfl | among
  · exact ⟨own, rfl, ownDistinct⟩
  · exact distinct.options entry among

theorem Distinct.overlayAll (distinct : older.Distinct) (newerDistinct : newer.Distinct) :
    (overlayAll older newer).Distinct := by
  induction newer generalizing older with
  | nil => exact distinct
  | cons first rest ih =>
      rcases first with ⟨first, value⟩
      rcases newerDistinct.options _ (List.mem_cons_self ..) with ⟨own, rfl, -⟩
      have laidDistinct : (older.overlayOptions first (.table own)).Distinct := by
        have earlier : (((older.optionsOf? first).getD []).map Prod.fst).Nodup := by
          rw [optionsOf?]
          cases present : older.get? first with
          | none => exact List.nodup_nil
          | some value =>
              rcases distinct.options _ (mem_of_lookup present) with
                ⟨options, rfl, options_distinct⟩
              exact options_distinct
        rw [overlayOptions_eq distinct.holdsTables]
        exact distinct.set first (nodup_keys_merge earlier)
      exact ih laidDistinct ⟨(List.nodup_cons.mp newerDistinct.ids).2, fun entry member =>
        newerDistinct.options entry (List.mem_cons_of_mem _ member)⟩

/-! ### Settings -/

/-- Whether the options of rules are told by a table, if they are given at all. -/
def TablesOptions (settings : Table) : Prop :=
  ∀ value, settings.given? Setting.ruleOptions.key = some value →
    ∃ rules : Table, value = .table rules

theorem given?_eq_some_iff {value : Value} :
    settings.given? key = some value ↔ settings.get? key = some value ∧ value ≠ .null := by
  rw [given?, Option.filter_eq_some_iff]
  cases value <;> simp [Value.isNull]

theorem ruleOptions_eq_nil (absent : settings.given? Setting.ruleOptions.key = none) :
    settings.ruleOptions = [] := by
  rw [ruleOptions]
  cases present : settings.get? Setting.ruleOptions.key with
  | none => rfl
  | some value =>
      cases value with
      | null => rfl
      | _ => simp [given?, present, Value.isNull] at absent

theorem ruleOptions_of_given? {rules : Table}
    (given : settings.given? Setting.ruleOptions.key = some (.table rules)) :
    settings.ruleOptions = rules := by
  rw [ruleOptions, (given?_eq_some_iff.mp given).1]
  rfl

theorem TablesOptions.congr (typed : made.TablesOptions)
    (same : reached.get? Setting.ruleOptions.key = made.get? Setting.ruleOptions.key) :
    reached.TablesOptions :=
  fun value given => typed value (by rwa [given?, ← same])

/-- Whether settings have no key twice and tell the options of distinct rules, if any. -/
structure Orderly (settings : Table) : Prop where
  keys : (settings.map Prod.fst).Nodup
  tables : settings.TablesOptions
  options : settings.ruleOptions.Distinct

theorem Distinct.nil : Distinct [] := ⟨List.nodup_nil, nofun⟩

theorem get?_filter_of_true {wanted : String → Bool} (isWanted : wanted key = true)
    (settings : Table) :
    get? (settings.filter fun entry => wanted entry.1) key = settings.get? key := by
  induction settings with
  | nil => rfl
  | cons first rest ih =>
      rw [List.filter_cons]
      split
      · rw [get?_cons, get?_cons, ih]
      · rename_i unwanted
        have differs : key ≠ first.1 := fun same => unwanted (same ▸ isWanted)
        rw [get?_cons, if_neg differs, ih]

end Table

/-! ### Settings of the right types -/

namespace Setting

theorem isKey_key (setting : Setting) : isKey setting.key = true := by
  cases setting <;> decide

/-- Whether a value has the type that a setting wants. -/
def Fits (value : Value) : Setting → Prop
  | rules | exclude | extensions => ∃ names : List String, value = .list (names.map .text)
  | fix => ∃ flag, value = .bool flag
  | maxIterations | workers => ∃ number, value = .int number
  | ruleset => ∃ name, value = .text name
  | ruleOptions => ∃ rules : Table, value = .table rules ∧ rules.Distinct

end Setting

/-- Whether settings have no key twice and values of the right types. -/
structure Table.WellTyped (settings : Table) : Prop where
  distinct : (settings.map Prod.fst).Nodup
  fits : ∀ setting value, settings.given? (Setting.key setting) = some value → setting.Fits value

theorem Table.WellTyped.orderly {settings : Table} (typed : settings.WellTyped) :
    settings.Orderly := by
  refine ⟨typed.distinct, fun value given => ?_, ?_⟩
  · rcases typed.fits .ruleOptions value given with ⟨rules, rfl, -⟩
    exact ⟨rules, rfl⟩
  · cases given : settings.given? Setting.ruleOptions.key with
    | none =>
        rw [Table.ruleOptions_eq_nil given]
        exact .nil
    | some value =>
        rcases typed.fits .ruleOptions value given with ⟨rules, rfl, distinct⟩
        rwa [Table.ruleOptions_of_given? given]

theorem Table.WellTyped.knownSettings {settings : Table} (typed : settings.WellTyped) :
    Table.WellTyped (Config.knownSettings settings) := by
  refine ⟨typed.distinct.sublist (List.filter_sublist.map _), fun setting value given => ?_⟩
  refine typed.fits setting value ?_
  rwa [Table.given?, Config.knownSettings, Table.get?_filter_of_true setting.isKey_key] at given

namespace Table

variable {value? : Setting → Option Value} {listed : List Setting}

end Table

namespace Workspace

variable {workspace : Workspace}

end Workspace

end TokenLint
