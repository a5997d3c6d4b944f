import TokenLint.Fix.Edit

/-!
# The ledger of a fixing pass

Edits are gathered in changesets. A changeset is committed as a whole or not at all:
if it touches a token that an earlier one of the same pass has changed, it is
discarded and the conflict is kept. A changeset may be bound to the report whose
problem it fixes, and the ledger then says what became of that report.
-/

namespace TokenLint

/-- Why a call on the ledger is refused. -/
inductive ChangesetError where
  | alreadyOpen
  | notOpen
  | outOfRange (index : Int) (size : Nat)
  deriving DecidableEq

/-- The wording of a refusal. -/
def ChangesetError.message : ChangesetError → String
  | alreadyOpen => "A changeset is already open; end or roll it back first"
  | notOpen => "end_changeset() called without begin_changeset()"
  | outOfRange index size =>
    "Token index " ++ toString index ++ " out of range (0.." ++ toString ((size : Int) - 1) ++ ")"

/-- A list of numbers between brackets. -/
def showIndexes (indexes : List Nat) : String :=
  "[" ++ ", ".intercalate (indexes.map toString) ++ "]"

/-- A changeset that was discarded: the tokens that were changed already, and the code of the report
that it was bound to. -/
structure Conflict where
  indexes : List Nat
  code : Option String
  deriving DecidableEq

/-- The note about a discarded changeset, with the code of the report it was made for. -/
def Conflict.message (conflict : Conflict) : String :=
  let owner := match conflict.code with
    | some code => if code.isEmpty then "" else " for " ++ code
    | none => ""
  "Changeset" ++ owner ++ " discarded: token(s) " ++ showIndexes conflict.indexes ++
    " already modified in this pass"

/-- A report, by its number in the pass, that the next changeset is to be bound to. -/
structure Offer where
  report : Nat
  code : String
  deriving DecidableEq

/-- What a commit means for the report it is bound to. -/
inductive Verdict where
  | nothing
  | fixed (report : Nat)
  | conflicted (report : Nat) (conflict : Conflict)
  deriving DecidableEq

/-- The edits of one pass. `patches` holds for each token what committed changesets made of it, and
nothing for a token that none has touched; `fixed` lists the reports whose changesets were
committed, in order. -/
structure Ledger where
  patches : Array (Option Patch)
  conflicts : List Conflict
  fixed : List Nat
  commitCount : Nat
  staged : Option (List Edit)
  offered : Option Offer
  bound : Option Offer

/-- The outcome of a call that may commit: the ledger after it, whether the edits were accepted, and
what that means for a report. -/
structure Commitment where
  ledger : Ledger
  accepted : Bool
  verdict : Verdict

namespace Ledger

/-- The ledger of a pass over a stream of some size. -/
def empty (size : Nat) : Ledger := ⟨Array.replicate size none, [], [], 0, none, none, none⟩

variable (ledger : Ledger)

/-- How many tokens the ledger covers. -/
def size : Nat := ledger.patches.size

/-- Whether a changeset is open. -/
def inChangeset : Bool := ledger.staged.isSome

/-- Whether any changeset was committed. -/
def changed : Bool := 0 < ledger.commitCount

/-- What committed changesets made of a token. -/
def patch? (index : Nat) : Option Patch := ledger.patches.getD index none

/-- Whether a committed changeset touched a token. -/
def isTouched (index : Nat) : Bool := (ledger.patch? index).isSome

/-- Offers a report to be bound to the next changeset. -/
def offer (offer : Offer) : Ledger := { ledger with offered := some offer }

/-- A ledger without an offer: the next edits belong to no report. -/
def clearOffer : Ledger := { ledger with offered := none }

/-- Opens a changeset and binds it to the report on offer. -/
def begin : Except ChangesetError Ledger :=
  if ledger.inChangeset then .error .alreadyOpen
  else .ok { ledger with staged := some [], bound := ledger.offered, offered := none }

/-- Discards the open changeset, if there is one. -/
def rollback : Ledger := { ledger with staged := none, bound := none }

/-- The tokens of some edits that are touched already, in increasing order. -/
def clashing (edits : List Edit) : List Nat :=
  (List.range ledger.size).filter fun index =>
    ledger.isTouched index && edits.any fun edit => edit.index = index

/-- Enters one edit in the patch of its token. -/
def applyEdit (patches : Array (Option Patch)) (edit : Edit) : Array (Option Patch) :=
  patches.modify edit.index fun patch =>
    some ((patch.getD .empty).add edit.place edit.text)

/-- Commits a batch of edits bound to a report. An empty batch is accepted and leaves no trace; a
clashing one is discarded. -/
def commit (edits : List Edit) (offer : Option Offer) : Commitment :=
  if edits.isEmpty then ⟨ledger, true, .nothing⟩
  else
    let open? := offer.filter fun offer => !ledger.fixed.contains offer.report
    match ledger.clashing edits with
    | [] =>
      let committed := { ledger with
        patches := edits.foldl applyEdit ledger.patches
        commitCount := ledger.commitCount + 1
        fixed := ledger.fixed ++ (open?.map Offer.report).toList }
      ⟨committed, true, match open? with
        | some offer => .fixed offer.report
        | none => .nothing⟩
    | indexes =>
      let conflict : Conflict := ⟨indexes, offer.map Offer.code⟩
      ⟨{ ledger with conflicts := ledger.conflicts ++ [conflict] }, false, match open? with
        | some offer => .conflicted offer.report conflict
        | none => .nothing⟩

/-- Commits the open changeset. -/
def finish : Except ChangesetError Commitment :=
  match ledger.staged with
  | none => .error .notOpen
  | some edits => .ok (ledger.rollback.commit edits ledger.bound)

/-- Stages an edit in the open changeset, or commits it alone when none is open. -/
def edit (place : EditPlace) (index : Int) (text : String) : Except ChangesetError Commitment :=
  if 0 ≤ index ∧ index < ledger.size then
    let edit : Edit := ⟨place, index.toNat, text⟩
    match ledger.staged with
    | some edits => .ok ⟨{ ledger with staged := some (edits ++ [edit]) }, true, .nothing⟩
    | none => .ok (ledger.commit [edit] ledger.offered)
  else .error (.outOfRange index ledger.size)

/-- The text of a token with committed edits applied. -/
def tokenText (token : Token) : String :=
  match ledger.patch? token.index with
  | some patch => patch.render token.content
  | none => token.content

/-- The source of a stream with committed edits applied. -/
def contents (stream : TokenStream) : String :=
  String.join (stream.tokens.toList.map ledger.tokenText)

end Ledger

end TokenLint
