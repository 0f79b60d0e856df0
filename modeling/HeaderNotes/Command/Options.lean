/-!
Reading of command-line arguments. An argument is an option with two dashes, a group of options
of one letter each, or a word; an option may take a value, either attached to it or as the next
argument. What is wrong with arguments is not told apart, and asking for help counts as wrong.
-/

namespace HeaderNotes.Command

inductive Halt
  | usage
  | version
deriving DecidableEq, Repr

/-- What an option does to the options read so far. -/
inductive Effect (σ : Type)
  | flag (set : σ → Except Halt σ)
  | value (set : String → σ → Except Halt σ)

structure Flag (σ : Type) where
  long : String
  short : Option Char := none
  effect : Effect σ

/-- The same option for a part of larger options. -/
def Flag.lift {σ τ : Type} (get : τ → σ) (set : τ → σ → τ) (f : Flag σ) : Flag τ :=
  { long := f.long
    short := f.short
    effect :=
      match f.effect with
      | .flag change => .flag fun t => (change (get t)).map (set t)
      | .value change => .value fun v t => (change v (get t)).map (set t) }

inductive Shape
  | escape
  | long (name : String) (value : Option String)
  | letters (cs : List Char)
  | word
deriving DecidableEq, Repr

/-- The shape of an argument. A single dash is a word. -/
def shapeOf (arg : String) : Shape :=
  match arg.toList with
  | '-' :: '-' :: [] => .escape
  | '-' :: '-' :: cs =>
    match cs.dropWhile (· != '=') with
    | _ :: value => .long (String.ofList (cs.takeWhile (· != '='))) (some (String.ofList value))
    | [] => .long (String.ofList cs) none
  | '-' :: c :: cs => .letters (c :: cs)
  | _ => .word

/-- What is due after an option: nothing, or a value for it. -/
abbrev Pending (σ : Type) := Option (String → σ → Except Halt σ)

/-- Reads a group of one-letter options. An option that takes a value takes the rest of the
group, without an equals sign in front, or the next argument. -/
def letters {σ : Type} (flags : List (Flag σ)) :
    List Char → σ → Except Halt (σ × Pending σ)
  | [], state => .ok (state, none)
  | c :: cs, state =>
    match flags.find? fun f => f.short == some c with
    | none => .error .usage
    | some f =>
      match f.effect with
      | .flag set => do letters flags cs (← set state)
      | .value set =>
        match cs with
        | [] => .ok (state, some set)
        | '=' :: value => do .ok (← set (String.ofList value) state, none)
        | value => do .ok (← set (String.ofList value) state, none)

def long {σ : Type} (flags : List (Flag σ)) (name : String) (value : Option String)
    (state : σ) : Except Halt (σ × Pending σ) :=
  match flags.find? fun f => f.long == name with
  | none => .error .usage
  | some f =>
    match f.effect, value with
    | .flag set, none => do .ok (← set state, none)
    | .flag _, some _ => .error .usage
    | .value set, none => .ok (state, some set)
    | .value set, some v => do .ok (← set v state, none)

/-- How a level of the command line is read: its options, what a word means given the arguments
behind it, what follows a double dash, and what the options amount to at the end. A word either
ends the level or changes its options. -/
structure Level (σ ρ : Type) where
  flags : List (Flag σ)
  word : σ → String → List String → Except Halt (σ ⊕ ρ)
  escape : σ → List String → Except Halt ρ
  finish : σ → Except Halt ρ

def Level.read {σ ρ : Type} (level : Level σ ρ) : Pending σ → List String → σ → Except Halt ρ
  | none, [], state => level.finish state
  | some _, [], _ => .error .usage
  | some set, arg :: args, state =>
    match shapeOf arg with
    | .word => do level.read none args (← set arg state)
    | _ => .error .usage
  | none, arg :: args, state =>
    match shapeOf arg with
    | .escape => level.escape state args
    | .long name value => do
      let (state, pending) ← long level.flags name value state
      level.read pending args state
    | .letters cs => do
      let (state, pending) ← letters level.flags cs state
      level.read pending args state
    | .word => do
      match ← level.word state arg args with
      | .inl state => level.read none args state
      | .inr result => .ok result

/-- An option without a value that may be given once. -/
def once {σ : Type} (get : σ → Bool) (set : σ → σ) : Effect σ :=
  .flag fun state => if get state then .error .usage else .ok (set state)

/-- An option with a value that may be given once. -/
def single {σ α : Type} (parse : String → Option α) (get : σ → Option α) (set : σ → α → σ) :
    Effect σ :=
  .value fun text state =>
    match get state, parse text with
    | none, some a => .ok (set state a)
    | _, _ => .error .usage

/-- An option with a value that may be given any number of times. -/
def many {σ : Type} (add : σ → String → σ) : Effect σ :=
  .value fun text state => .ok (add state text)

/-- A path, which must not be empty. -/
def path? (text : String) : Option String :=
  if text.isEmpty then none else some text

/-- An unsigned integer of 64 bits, perhaps with a plus sign. -/
def count? (text : String) : Option UInt64 :=
  let digits :=
    match text.toList with
    | '+' :: cs => cs
    | cs => cs
  let value := digits.foldl (fun n c => n * 10 + (c.toNat - 48)) 0
  if digits.isEmpty || !digits.all Char.isDigit || UInt64.size ≤ value then none
  else some value.toUInt64

end HeaderNotes.Command
