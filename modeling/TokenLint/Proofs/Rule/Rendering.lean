import TokenLint.Diagnostic.Pass

/-!
# Reports that can be rendered

A template that converts each of its arguments by `%s`, or by `%d` if it is an integer, and holds no
other percent sign, is filled whatever the arguments show.
-/

namespace TokenLint

/-- Whether a template takes all of its arguments by `%s` and, where they are integers, by `%d`. -/
def takesArguments : List Char → List Value → Bool
  | [], arguments => arguments.isEmpty
  | '%' :: 's' :: rest, _ :: others => takesArguments rest others
  | '%' :: 'd' :: rest, .int _ :: others => takesArguments rest others
  | char :: rest, arguments => char != '%' && takesArguments rest arguments

theorem exists_fillTemplate {template : List Char} {arguments : List Value}
    (takes : takesArguments template arguments = true) (total : Nat) :
    ∃ shown, fillTemplate total arguments template = .ok shown := by
  fun_induction takesArguments template arguments with
  | case1 arguments =>
      rw [fillTemplate]
      exact ⟨[], if_pos takes⟩
  | case2 rest argument others ih =>
      rcases ih takes with ⟨shown, filled⟩
      rw [fillTemplate]
      simp [Conversion.read, Conversion.readFlags, Conversion.readSize, Conversion.apply, filled,
        bind, Except.bind, pure, Except.pure]
  | case3 rest number others ih =>
      rcases ih takes with ⟨shown, filled⟩
      rw [fillTemplate]
      simp [Conversion.read, Conversion.readFlags, Conversion.readSize, Conversion.apply,
        Conversion.integerOf, Conversion.integer?, filled, bind, Except.bind, pure, Except.pure]
  | case4 char rest arguments _ _ ih =>
      rcases Bool.and_eq_true_iff.mp takes with ⟨plain, takesRest⟩
      rcases ih takesRest with ⟨shown, filled⟩
      rw [fillTemplate]
      simp [bne_iff_ne.mp plain, filled, bind, Except.bind, pure, Except.pure]

namespace Report

/-- Whether the message of a report can be rendered. -/
def Renders (made : Report) : Prop :=
  ∃ message, renderTemplate made.template made.arguments = .ok message

variable {made : Report}

theorem renders_of_nil (plain : made.arguments = []) : made.Renders :=
  ⟨made.template, by rw [renderTemplate, plain]; rfl⟩

theorem renders_of_takes (takes : takesArguments made.template.toList made.arguments = true) :
    made.Renders := by
  by_cases plain : made.arguments = []
  · exact renders_of_nil plain
  · rcases exists_fillTemplate takes made.template.toList.length with ⟨shown, filled⟩
    refine ⟨String.ofList shown, ?_⟩
    simp only [renderTemplate, List.isEmpty_iff, plain, if_false, filled]
    rfl

end Report

end TokenLint
