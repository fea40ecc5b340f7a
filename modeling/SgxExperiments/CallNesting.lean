import Mathlib.Logic.Relation

/-!
Two sides that call each other: the inner one is entered through its entries and
calls out through exits, on which it may be entered again. What is entered from
outside is up to the outer side, as far as a runtime lets it in; what is called
out is up to the code of the entry.
-/

namespace SgxExperiments.CallNesting

structure Interface (Entry Exit : Type) where
  isPublic : Entry → Prop
  makes : Entry → Exit → Prop
  allows : Exit → Entry → Prop

inductive Call (Entry Exit : Type) where
  | entry (which : Entry)
  | exit (which : Exit)
  deriving DecidableEq

variable {Entry Exit : Type} (interface : Interface Entry Exit)

abbrev CallStack (Entry Exit : Type) := List (Call Entry Exit)

/-- A public entry from outside all calls, and during an exit those that it allows. -/
def Permits : CallStack Entry Exit → Entry → Prop
  | [], which => interface.isPublic which
  | .exit out :: _, which => interface.allows out which
  | .entry _ :: _, _ => False

def Makes : CallStack Entry Exit → Exit → Prop
  | .entry which :: _, out => interface.makes which out
  | _, _ => False

def Nested : CallStack Entry Exit → Prop
  | [] => True
  | .entry which :: below => Permits interface below which ∧ Nested below
  | .exit out :: below => Makes interface below out ∧ Nested below

/-- The outer side may try any entry at any time; it gets in where it is admitted. -/
inductive Step (admits : CallStack Entry Exit → Entry → Prop) :
    CallStack Entry Exit → CallStack Entry Exit → Prop where
  | enter {stack : CallStack Entry Exit} {which : Entry} (admitted : admits stack which) :
      Step admits stack (.entry which :: stack)
  | callOut {stack : CallStack Entry Exit} {out : Exit} (made : Makes interface stack out) :
      Step admits stack (.exit out :: stack)
  | back {call : Call Entry Exit} {stack : CallStack Entry Exit} : Step admits (call :: stack) stack

abbrev Reached (admits : CallStack Entry Exit → Entry → Prop) (stack : CallStack Entry Exit) : Prop :=
  Relation.ReflTransGen (Step interface admits) [] stack

variable {interface} {admits : CallStack Entry Exit → Entry → Prop}

theorem Nested.below {call : Call Entry Exit} {stack : CallStack Entry Exit}
    (nested : Nested interface (call :: stack)) : Nested interface stack := by
  cases call with
  | entry which => exact nested.2
  | exit out => exact nested.2

theorem step_nested (permitted : ∀ stack which, admits stack which → Permits interface stack which)
    {before after : CallStack Entry Exit} (nested : Nested interface before)
    (step : Step interface admits before after) : Nested interface after := by
  cases step with
  | enter admitted => exact ⟨permitted _ _ admitted, nested⟩
  | callOut made => exact ⟨made, nested⟩
  | back => exact nested.below

theorem reached_nested (permitted : ∀ stack which, admits stack which → Permits interface stack which)
    {stack : CallStack Entry Exit} (reached : Reached interface admits stack) :
    Nested interface stack := by
  induction reached with
  | refl => trivial
  | tail _ step ih => exact step_nested permitted ih step

theorem nested_reached {stack : CallStack Entry Exit} (nested : Nested interface stack) :
    Reached interface (Permits interface) stack := by
  induction stack with
  | nil => exact Relation.ReflTransGen.refl
  | cons call below ih =>
      apply (ih nested.below).tail
      cases call with
      | entry which => exact .enter nested.1
      | exit out => exact .callOut nested.1

end SgxExperiments.CallNesting
