import TokenLint.Navigation.Call
import TokenLint.Proofs.Lexer.Lossless
import TokenLint.Proofs.Navigation.Bounds
import TokenLint.Proofs.Stream.Pairing
import Mathlib.Data.Option.Basic

/-!
# Streams of the same kinds

What is a call, and which arguments it has, depends on the kinds of the tokens and on the partners
of brackets, and these are decided by the kinds as well. Streams of the same kinds therefore have
the same calls, whatever their names.
-/

namespace TokenLint.TokenStream

/-- Whether two streams have tokens of the same kinds with the same partners. -/
structure SameKinds (first second : TokenStream) : Prop where
  size_eq : first.size = second.size
  kind?_eq : ∀ index, first.kind? index = second.kind? index
  partner?_eq : ∀ index, first.partner? index = second.partner? index

theorem sameKinds_ofLexemes {first second : List Lexeme}
    (same : first.map Lexeme.kind = second.map Lexeme.kind) :
    (ofLexemes first).SameKinds (ofLexemes second) where
  size_eq := by simpa [size, ofLexemes] using congrArg List.length same
  kind?_eq index := by rw [kind?_ofLexemes, kind?_ofLexemes, same]
  partner?_eq index := by rw [partner?_ofLexemes, partner?_ofLexemes, same]

namespace SameKinds

variable {first second : TokenStream} (same : first.SameKinds second)

include same

theorem hasKind_eq (index : Nat) (kind : TokenKind) :
    first.hasKind index kind = second.hasKind index kind := by
  rw [hasKind, hasKind, same.kind?_eq]

theorem kindIs_eq (index : Nat) (inClass : TokenKind → Bool) :
    first.kindIs index inClass = second.kindIs index inClass := by
  rw [kindIs, kindIs, same.kind?_eq]

/-- Code stands at the same places. -/
theorem holdsAt_code_eq :
    first.holdsAt (fun token => !token.isTrivia) = second.holdsAt fun token => !token.isTrivia := by
  have first_eq := holdsAt_kind first fun kind => !kind.isTrivia
  have second_eq := holdsAt_kind second fun kind => !kind.isTrivia
  exact first_eq.trans ((funext fun index => same.kindIs_eq index _).trans second_eq.symm)

theorem nextCodeBefore?_eq (start stop : Nat) :
    first.nextCodeBefore? start stop = second.nextCodeBefore? start stop := by
  rw [nextCodeBefore?, nextCodeBefore?, firstWith?, firstWith?, same.holdsAt_code_eq, same.size_eq]

theorem previousCodeFrom?_eq (low stop : Nat) :
    first.previousCodeFrom? low stop = second.previousCodeFrom? low stop := by
  rw [previousCodeFrom?, previousCodeFrom?, lastWith?, lastWith?, same.holdsAt_code_eq,
    same.size_eq]

theorem nextCode?_eq (start : Nat) : first.nextCode? start = second.nextCode? start := by
  rw [nextCode?, nextCode?, same.nextCodeBefore?_eq, same.size_eq]

theorem previousCode?_eq (stop : Nat) : first.previousCode? stop = second.previousCode? stop :=
  same.previousCodeFrom?_eq 0 stop

/-- The same names are calls. -/
theorem callOpener?_eq (index : Nat) : first.callOpener? index = second.callOpener? index := by
  simp only [callOpener?, isQualified, same.nextCode?_eq, same.previousCode?_eq, same.hasKind_eq,
    same.kindIs_eq]
  rfl

theorem argumentsFrom_eq (closer start index : Nat) :
    first.argumentsFrom closer start index = second.argumentsFrom closer start index := by
  have inner_eq : ∀ index,
      ((first.token? index).filter (fun token => token.kind.isOpener)).bind Token.partner =
        ((second.token? index).filter (fun token => token.kind.isOpener)).bind Token.partner := by
    have by_kind : ∀ (stream : TokenStream) (index : Nat),
        ((stream.token? index).filter (fun token => token.kind.isOpener)).bind Token.partner =
          if stream.kindIs index TokenKind.isOpener then stream.partner? index else none := by
      intro stream index
      rw [kindIs, kind?, partner?]
      cases stream.token? index with
      | none => rfl
      | some token => by_cases opens : token.kind.isOpener = true <;> simp [opens, Option.filter]
    intro index
    rw [by_kind, by_kind, same.kindIs_eq, same.partner?_eq]
  have comma_eq : ∀ index, (first.token? index).any (fun token => token.kind = .comma) =
      (second.token? index).any fun token => token.kind = .comma := by
    intro index
    have by_kind := same.kindIs_eq index fun kind => kind = .comma
    simpa [kindIs, kind?, Option.any_map, Function.comp_def] using by_kind
  fun_induction argumentsFrom first closer start index with
  | case1 start index within token inner jumps ahead ih =>
      rw [argumentsFrom.eq_def second]
      simp only [if_pos within, ← inner_eq index]
      rw [jumps]
      simp only [if_pos ahead, ih]
  | case2 start index within token inner jumps behind =>
      rw [argumentsFrom.eq_def second]
      simp only [if_pos within, ← inner_eq index]
      rw [jumps]
      simp only [if_neg behind]
  | case3 start index within token stays ends code range ih =>
      rw [argumentsFrom.eq_def second]
      simp only [if_pos within, ← inner_eq index, ← comma_eq index,
        ← same.nextCodeBefore?_eq, ← same.previousCodeFrom?_eq]
      rw [stays]
      rw [ih]
      exact (if_pos ends).symm
  | case4 start index within token stays inside ih =>
      rw [argumentsFrom.eq_def second]
      simp only [if_pos within, ← inner_eq index, ← comma_eq index]
      rw [stays]
      rw [ih]
      exact (if_neg inside).symm
  | case5 start index beyond =>
      rw [argumentsFrom.eq_def second, if_neg beyond]

/-- Calls have the same arguments. -/
theorem callArguments_eq (opener : Nat) :
    first.callArguments opener = second.callArguments opener := by
  simp only [callArguments, same.partner?_eq, same.argumentsFrom_eq]

end SameKinds

end TokenLint.TokenStream

namespace TokenLint

open Lexer

/-- A source whose brackets all match is read as the stream of its lexemes. -/
theorem tokenize_of_lex {source : String} {lexemes : List Lexeme} (lexed : lex source = .ok lexemes)
    (complete : (TokenStream.ofLexemes lexemes).unmatched = []) :
    tokenize source = .ok (.ofLexemes lexemes) := by
  simp [tokenize, tokenizeLenient, lexed, complete, bind, Except.bind, Except.map]

/-- Which brackets match depends on the kinds. -/
theorem TokenStream.unmatched_ofLexemes_congr {first second : List Lexeme}
    (same : first.map Lexeme.kind = second.map Lexeme.kind) :
    (ofLexemes first).unmatched = (ofLexemes second).unmatched := by
  simp only [ofLexemes, same]

end TokenLint
