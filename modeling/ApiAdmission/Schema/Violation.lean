import ApiAdmission.Tree.Basic

/-!
# Violations of a schema

A violation says which keyword of a schema a value violates, where the value is below the value that
was validated, and in what words.  A violation of alternatives holds the violations of all of them.
-/

namespace ApiAdmission.Schema

set_option autoImplicit false

/-- A step down into a value. -/
inductive Step where
  /-- Into the value of a key. -/
  | key (name : String)
  /-- Into an item of a list. -/
  | index (position : Int)
deriving DecidableEq, Repr

/-- How a step is shown. -/
def Step.text : Step → String
  | .key name => name
  | .index position => toString position

/-- A violation of a keyword; a schema that allows nothing has no keyword. -/
inductive Violation where
  /-- A violation with its parts. -/
  | mk (keyword : Option String) (expected : Tree) (path : List Step) (message : String)
      (subject schema : Tree) (context : List Violation)
deriving Inhabited

namespace Violation

/-- The keyword that is violated. -/
def keyword : Violation → Option String
  | .mk keyword .. => keyword

/-- The value of the keyword. -/
def expected : Violation → Tree
  | .mk _ expected .. => expected

/-- Where the value is, from the value of the violation around this one. -/
def path : Violation → List Step
  | .mk _ _ path .. => path

/-- What is wrong, in words. -/
def message : Violation → String
  | .mk _ _ _ message .. => message

/-- The value that violates the keyword. -/
def subject : Violation → Tree
  | .mk _ _ _ _ subject .. => subject

/-- The schema that has the keyword. -/
def schema : Violation → Tree
  | .mk _ _ _ _ _ schema _ => schema

/-- The violations of the alternatives. -/
def context : Violation → List Violation
  | .mk _ _ _ _ _ _ context => context

/-- The violation seen from one step above. -/
def inside (step : Step) : Violation → Violation
  | .mk keyword expected path message subject schema context =>
    .mk keyword expected (step :: path) message subject schema context

/-- The violation with the path from further above. -/
def under (steps : List Step) : Violation → Violation
  | .mk keyword expected path message subject schema context =>
    .mk keyword expected (steps ++ path) message subject schema context

mutual
/-- The number of violations in a violation, itself included. -/
def count : Violation → Nat
  | .mk _ _ _ _ _ _ context => 1 + countAll context
termination_by structural violation => violation

/-- The number of violations in a list and inside its members. -/
def countAll : List Violation → Nat
  | [] => 0
  | violation :: rest => count violation + countAll rest
termination_by structural violations => violations
end

end Violation

end ApiAdmission.Schema
