/-!
The eight kinds of function header, in the order in which they are tried.
-/

namespace HeaderNotes

/-- The shape in which a line opens a function. -/
inductive Kind
  /-- As in `function f(a) {`. -/
  | declaration
  /-- As in `async function f(a) {`. -/
  | asyncDeclaration
  /-- As in `export default function f(a) {`. -/
  | exportedDeclaration
  /-- As in `const f = (a) => {`. -/
  | arrow
  /-- As in `const f = a => {`. -/
  | arrowSingleParam
  /-- As in `obj.f = function(a) {`. -/
  | assignedExpression
  /-- As in `f: function(a) {`. -/
  | objectMethod
  /-- As in `f(a) {`. -/
  | bareMethod
deriving DecidableEq, Repr

namespace Kind

/-- All kinds, the most specific first. -/
def all : List Kind :=
  [declaration, asyncDeclaration, exportedDeclaration, arrow, arrowSingleParam,
    assignedExpression, objectMethod, bareMethod]

theorem mem_all (k : Kind) : k ∈ all := by
  cases k <;> decide

/-- The place of a kind in `all`, counted from one. -/
def priority : Kind → Nat
  | declaration => 1
  | asyncDeclaration => 2
  | exportedDeclaration => 3
  | arrow => 4
  | arrowSingleParam => 5
  | assignedExpression => 6
  | objectMethod => 7
  | bareMethod => 8

def name : Kind → String
  | declaration => "declaration"
  | asyncDeclaration => "async-declaration"
  | exportedDeclaration => "exported-declaration"
  | arrow => "arrow"
  | arrowSingleParam => "arrow-single-param"
  | assignedExpression => "assigned-expression"
  | objectMethod => "object-method"
  | bareMethod => "bare-method"

def ofName? (s : String) : Option Kind :=
  all.find? fun k => k.name == s

theorem ofName?_name (k : Kind) : ofName? k.name = some k := by
  cases k <;> decide

end Kind
end HeaderNotes
