import HeaderNotes.Settings.Basic
import HeaderNotes.Settings.Reader.Value

/-!
Settings files as a whole. A record is an object whose keys name its fields, in any order, or a
list of its fields from the first one on; a field that is not given keeps its default.
-/

namespace HeaderNotes.Settings.Reader

structure Field (σ : Type) where
  name : String
  read : σ → List Char → Except Stop (Parsed σ)

/-- The place of the next key of an object, behind its opening quote, if there is one. -/
def nextKey? (first : Bool) (cs : List Char) : Except Stop (Option (List Char)) :=
  match skipSpace cs with
  | [] => .error (.atNext .endOfObject [])
  | c :: rest =>
    if c = '\x7d' then
      .ok none
    else if first then
      if c = '"' then .ok (some rest) else .error (.atNext .keyNotText (c :: rest))
    else if c = ',' then
      match skipSpace rest with
      | [] => .error (.atNext .endOfValue [])
      | d :: rest =>
        if d = '"' then .ok (some rest)
        else if d = '\x7d' then .error (.atNext .trailingComma (d :: rest))
        else .error (.atNext .keyNotText (d :: rest))
    else
      .error (.atNext .expectedObjectEnd (c :: rest))

/-- A repeated key. The place of this problem lies behind the white space that follows the key,
and behind the end of the object if that comes next. -/
def duplicate {α : Type} (name : String) (cs : List Char) : Except Stop α :=
  match skipSpace cs with
  | '\x7d' :: rest => .error (.here (.duplicateField name) rest)
  | rest => .error (.here (.duplicateField name) rest)

/-- Reads the fields of an object up to its closing bracket, in at most the given number of
rounds. The names in `seen` have been given already. -/
def objectWithin {σ : Type} (fields : List (Field σ)) :
    Nat → Bool → List String → σ → List Char → Except Stop (Parsed σ)
  | 0, _, _, _, cs => .error (.atNext .endOfObject cs)
  | rounds + 1, first, seen, record, cs => do
    match ← nextKey? first cs with
    | none => .ok (record, (skipSpace cs).tail)
    | some cs =>
      let (key, cs) ← text cs
      match fields.find? fun field => field.name == key with
      | none => objectWithin fields rounds false seen record (← skipValue (← colon cs))
      | some field =>
        if seen.contains key then
          duplicate key cs
        else
          let (record, cs) ← field.read record (← colon cs)
          objectWithin fields rounds false (key :: seen) record cs

/-- The end of a list that has given every field. -/
def listEnd (cs : List Char) : Except Stop (List Char) :=
  match skipSpace cs with
  | [] => .error (.atNext .endOfList [])
  | c :: rest =>
    if c = ']' then
      .ok rest
    else if c = ',' then
      match skipSpace rest with
      | ']' :: rest => .error (.atNext .trailingComma (']' :: rest))
      | rest => .error (.atNext .trailingCharacters rest)
    else
      .error (.atNext .trailingCharacters (c :: rest))

/-- Reads fields in order from a list up to its closing bracket. -/
def listFields {σ : Type} :
    List (Field σ) → Bool → σ → List Char → Except Stop (Parsed σ)
  | [], _, record, cs => do .ok (record, ← listEnd cs)
  | field :: fields, first, record, cs => do
    match ← nextItem? first cs with
    | none => .ok (record, (skipSpace cs).tail)
    | some cs =>
      let (record, cs) ← field.read record cs
      listFields fields false record cs

/-- Reads a record over its defaults. Every field takes a character. -/
def record {σ : Type} (shape : Shape) (fields : List (Field σ)) (defaults : σ)
    (cs : List Char) : Except Stop (Parsed σ) :=
  match skipSpace cs with
  | [] => .error (.atNext .endOfValue [])
  | c :: rest =>
    if c = '[' then listFields fields true defaults rest
    else if c = '\x7b' then objectWithin fields (rest.length + 1) true [] defaults rest
    else mismatch shape (c :: rest)

def Field.of {σ α : Type} (name : String) (read : List Char → Except Stop (Parsed α))
    (set : σ → α → σ) : Field σ :=
  { name, read := fun record cs => (read cs).map fun (a, rest) => (set record a, rest) }

def noteFields : List (Field Template) :=
  [.of "locale" locale fun t locale => { t with locale },
    .of "empty_placeholder" (optional quotedText) fun t p => { t with placeholder? := p }]

def settingsFields : List (Field Settings) :=
  [.of "extensions" texts fun s extensions => { s with extensions },
    .of "ignore" texts fun s ignore => { s with ignore },
    .of "include_hidden" boolean fun s includeHidden => { s with includeHidden },
    .of "note" (record .noteSettings noteFields {}) fun s note => { s with note },
    .of "workers" (optional count) fun s workers => { s with workers }]

def document (cs : List Char) : Except Stop Settings := do
  let (settings, rest) ← record .settings settingsFields {} cs
  match skipSpace rest with
  | [] => .ok settings
  | rest => .error (.atNext .trailingCharacters rest)

end HeaderNotes.Settings.Reader

namespace HeaderNotes

def Settings.ofText (text : String) : Except String Settings :=
  (Settings.Reader.document text.toList).mapError fun stop => stop.message text

end HeaderNotes
