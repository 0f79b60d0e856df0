import HeaderNotes.Header.Kind
import HeaderNotes.Header.Reading

/-!
Function headers and the recognition of one line. A header carries its whole parameter list and
its opening brace on the line; the blanks at the end of the line, its terminator among them, do
not matter.
-/

namespace HeaderNotes

/-- A line that opens a function, cut into its parts. -/
structure Header where
  /-- The blanks in front, as they stand. -/
  indentation : String
  /-- The name of the function, method or assignment target. -/
  name : String
  /-- The text between the parentheses, or the single parameter of an arrow function. -/
  parameters : String
  kind : Kind
deriving DecidableEq, Repr

namespace Header

open HeaderNotes.Text

/-- Statement words that share the shape of a method header. -/
def reservedNames : List String :=
  ["if", "for", "while", "switch", "catch", "with"]

def isReserved (h : Header) : Bool :=
  h.kind == .bareMethod && reservedNames.contains h.name

/-- What is read off a line behind its indentation: a name and parameters. -/
structure Signature where
  name : List Char
  parameters : List Char
deriving DecidableEq, Repr

def parametersAndBrace? (name cs : List Char) : Option Signature := do
  let (parameters, rest) ← parameters? (skipBlanks cs)
  if opensBlock rest then some ⟨name, parameters⟩ else none

/-- Reads `function NAME(PARAMETERS) {`. -/
def declaration? (cs : List Char) : Option Signature := do
  let (name, rest) ← run? isNameChar (← gap? (← keyword? "function" cs))
  parametersAndBrace? name rest

/-- Reads `async function NAME(PARAMETERS) {`. -/
def asyncDeclaration? (cs : List Char) : Option Signature := do
  declaration? (← gap? (← keyword? "async" cs))

/-- Reads `export [default] function NAME(PARAMETERS) {`. -/
def exportedDeclaration? (cs : List Char) : Option Signature := do
  let rest ← gap? (← keyword? "export" cs)
  match keyword? "default" rest with
  | some rest => declaration? (← gap? rest)
  | none => declaration? rest

/-- Reads `const NAME =`, `let NAME =` or `var NAME =`. Returns the name, and what follows the
blanks behind the equals sign. -/
def binding? (cs : List Char) : Option (List Char × List Char) := do
  let rest ← keyword? "const" cs <|> keyword? "let" cs <|> keyword? "var" cs
  let (name, rest) ← run? isNameChar (← gap? rest)
  let rest ← keyword? "=" (skipBlanks rest)
  some (name, skipBlanks rest)

/-- What follows an `async` and the blanks behind it; everything, if there is no `async`. -/
def skipAsync (cs : List Char) : List Char :=
  match keyword? "async" cs with
  | some rest => skipBlanks rest
  | none => cs

def opensArrowBody (cs : List Char) : Bool :=
  match keyword? "=>" (skipBlanks cs) with
  | some rest => opensBlock rest
  | none => false

/-- Reads `const NAME = [async] (PARAMETERS) => {`. -/
def arrow? (cs : List Char) : Option Signature := do
  let (name, rest) ← binding? cs
  let (parameters, rest) ← parameters? (skipAsync rest)
  if opensArrowBody rest then some ⟨name, parameters⟩ else none

def singleParameter? (name cs : List Char) : Option Signature := do
  let (parameter, rest) ← run? isNameChar cs
  if opensArrowBody rest then some ⟨name, parameter⟩ else none

/-- Reads `const NAME = [async] PARAMETER => {`. The reading that takes an `async` off the front
is tried first, so that a parameter that starts with these letters loses them. -/
def arrowSingleParam? (cs : List Char) : Option Signature := do
  let (name, rest) ← binding? cs
  (keyword? "async" rest).bind (fun plain => singleParameter? name (skipBlanks plain))
    <|> singleParameter? name rest

/-- Reads `[async] function(PARAMETERS) {`, for a function of the given name. -/
def functionValue? (name cs : List Char) : Option Signature := do
  parametersAndBrace? name (← keyword? "function" (skipAsync cs))

/-- Reads `TARGET = [async] function(PARAMETERS) {`. -/
def assignedExpression? (cs : List Char) : Option Signature := do
  let (target, rest) ← run? isTargetChar cs
  functionValue? target (skipBlanks (← keyword? "=" (skipBlanks rest)))

/-- Reads `KEY: [async] function(PARAMETERS) {`. -/
def objectMethod? (cs : List Char) : Option Signature := do
  let (key, rest) ← run? isNameChar cs
  functionValue? key (skipBlanks (← keyword? ":" (skipBlanks rest)))

/-- Reads `NAME(PARAMETERS) {` for a name that is not reserved. -/
def plainMethod? (cs : List Char) : Option Signature := do
  let (name, rest) ← identifier? cs
  if reservedNames.contains (String.ofList name) then none else parametersAndBrace? name rest

/-- Reads `[async] NAME(PARAMETERS) {`. The reading that takes an `async` off the front is tried
first, so that an identifier that starts with these letters loses them unless what is left is
reserved. -/
def bareMethod? (cs : List Char) : Option Signature :=
  (keyword? "async" cs).bind (fun plain => plainMethod? (skipBlanks plain)) <|> plainMethod? cs

def signature? : Kind → List Char → Option Signature
  | .declaration => declaration?
  | .asyncDeclaration => asyncDeclaration?
  | .exportedDeclaration => exportedDeclaration?
  | .arrow => arrow?
  | .arrowSingleParam => arrowSingleParam?
  | .assignedExpression => assignedExpression?
  | .objectMethod => objectMethod?
  | .bareMethod => bareMethod?

def ofLineAs? (kind : Kind) (line : String) : Option Header :=
  (signature? kind (skipBlanks line.toList)).map fun s =>
    { indentation := String.ofList (leadingBlanks line.toList)
      name := String.ofList s.name
      parameters := String.ofList s.parameters
      kind }

/-- Reads a line as a header of the first kind that fits. -/
def ofLine? (line : String) : Option Header :=
  Kind.all.findSome? fun kind => ofLineAs? kind line

end Header
end HeaderNotes
