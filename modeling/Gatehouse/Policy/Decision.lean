import Gatehouse.Policy.Basic

/-!
# What one policy decides

A clause applies to a request when one of its action patterns admits the action
and its object patterns describe the path.  Among the clauses that apply the last
one decides; if none applies the policy leaves the request open.

Object patterns are alternatives, yet they do not stand for themselves alone: all
of those that describe the path contribute their bindings, and they have to agree
on the names that they share.  If they do not, the clause does not apply.

`evaluate` walks through the clauses once and keeps the latest result.  The walk
is a left fold over the clauses with their positions, so that a statement about
the last clause is a statement about the end of a list.
-/

namespace Gatehouse

/-- What is decided about a request. -/
inductive Decision where
  | allow
  | deny
  /-- Nothing applied to the request. -/
  | indeterminate
  deriving DecidableEq, Repr

namespace Decision

/-- The word for a decision. -/
def word : Decision → String
  | allow => "allow"
  | deny => "deny"
  | indeterminate => "indeterminate"

/-- The decision that an effect takes. -/
def ofEffect : Effect → Decision
  | .allow => allow
  | .deny => deny

/-- Something applied. -/
def isDecisive : Decision → Bool
  | indeterminate => false
  | _ => true

/-- Only an explicit permission permits. -/
def isAllowed : Decision → Bool
  | allow => true
  | _ => false

theorem isDecisive_ofEffect (effect : Effect) : (ofEffect effect).isDecisive = true := by
  cases effect <;> rfl

end Decision

namespace Clause

/-- The bindings of those object patterns that describe the path, in order. -/
def objectMatches (clause : Clause) (path : String) (prebound : Bindings) : List Bindings :=
  clause.objects.filterMap fun pattern => pattern.bindingsWith? path prebound

/-- The bindings under which the clause describes the path: there is an object
pattern that does, and all those that do agree. -/
def objectBindings? (clause : Clause) (path : String) (prebound : Bindings) : Option Bindings :=
  match clause.objectMatches path prebound with
  | [] => none
  | found => Bindings.mergeAll? .empty found

/-- Some action pattern of the clause admits the action. -/
def admitsAction (clause : Clause) (action : String) : Bool :=
  clause.actions.any fun pattern => pattern.admits action

/-- The bindings under which the clause applies to a request. -/
def applies? (clause : Clause) (action path : String) (prebound : Bindings) : Option Bindings :=
  if clause.admitsAction action then clause.objectBindings? path prebound else none

end Clause

/-- The outcome of one policy. -/
structure Evaluation where
  decision : Decision
  /-- The bindings of the deciding clause. -/
  bindings : Bindings
  /-- The position of the deciding clause. -/
  clause : Option Nat
  deriving DecidableEq

namespace Evaluation

/-- No clause applied. -/
def none : Evaluation := ⟨.indeterminate, .empty, .none⟩

/-- A clause applied. -/
def ofClause (index : Nat) (clause : Clause) (bindings : Bindings) : Evaluation :=
  ⟨.ofEffect clause.effect, bindings, some index⟩

end Evaluation

namespace Policy

/-- Walk through clauses, the first of which stands at `start`, with the result so
far. -/
def scan (action path : String) (prebound : Bindings) :
    Nat → Evaluation → List Clause → Evaluation
  | _, result, [] => result
  | start, result, clause :: clauses =>
    scan action path prebound (start + 1)
      (match clause.applies? action path prebound with
        | some bindings => .ofClause start clause bindings
        | none => result)
      clauses

@[simp] theorem scan_nil (action path : String) (prebound : Bindings) (start : Nat)
    (result : Evaluation) : scan action path prebound start result [] = result := rfl

/-- A clause that applies replaces the result, and one that does not keeps it. -/
theorem scan_cons (action path : String) (prebound : Bindings) (start : Nat)
    (result : Evaluation) (clause : Clause) (clauses : List Clause) :
    scan action path prebound start result (clause :: clauses) =
      scan action path prebound (start + 1)
        (match clause.applies? action path prebound with
          | some bindings => .ofClause start clause bindings
          | none => result)
        clauses := rfl

/-- What the policy decides about a request, with some captures fixed. -/
def evaluate (policy : Policy) (action path : String) (prebound : Bindings) : Evaluation :=
  scan action path prebound 0 .none policy.clauses

end Policy

end Gatehouse
