import HeaderNotes.Command.Options
import HeaderNotes.Report.Annotating
import HeaderNotes.Settings.Basic

/-!
Invocations: what the arguments of the program ask for.
-/

namespace HeaderNotes.Command

/-- Options that may stand before and behind the name of a command. -/
structure Globals where
  config : Option String := none
  verbose : Bool := false
deriving DecidableEq, Repr

structure AnnotateTask where
  path : Option String := none
  dryRun : Bool := false
  check : Bool := false
  format : Option Format := none
  changes : SettingsChanges := {}
deriving DecidableEq, Repr

structure ListTask where
  path : Option String := none
  missingOnly : Bool := false
  json : Bool := false
  changes : SelectionChanges := {}
deriving DecidableEq, Repr

structure InitTask where
  force : Bool := false
deriving DecidableEq, Repr

inductive Task
  | annotate (options : AnnotateTask)
  | list (options : ListTask)
  | init (options : InitTask)
deriving DecidableEq, Repr

structure Invocation where
  task : Task
  config : Option String
  verbose : Bool
deriving DecidableEq, Repr

def globalFlags : List (Flag Globals) :=
  [{ long := "config", short := some 'c'
     effect := single path? Globals.config fun g c => { g with config := some c } },
    { long := "verbose", short := some 'v'
      effect := once Globals.verbose fun g => { g with verbose := true } }]

def selectionFlags : List (Flag SelectionChanges) :=
  [{ long := "ext"
     effect := many fun s e => { s with extensions := s.extensions ++ [e] } },
    { long := "ignore"
      effect := many fun s i => { s with ignore := s.ignore ++ [i] } },
    { long := "include-hidden"
      effect := once SelectionChanges.includeHidden fun s => { s with includeHidden := true } }]

def format? : String → Option Format
  | "text" => some .text
  | "json" => some .json
  | "diff" => some .diff
  | _ => none

def annotateFlags : List (Flag AnnotateTask) :=
  [{ long := "dry-run"
     effect := once AnnotateTask.dryRun fun o => { o with dryRun := true } },
    { long := "check"
      effect := once AnnotateTask.check fun o => { o with check := true } },
    { long := "format"
      effect := single format? AnnotateTask.format fun o f => { o with format := some f } },
    { long := "locale"
      effect := single Locale.ofName? (fun o => o.changes.locale) fun o l =>
        { o with changes := { o.changes with locale := some l } } },
    { long := "placeholder"
      effect := single some (fun o => o.changes.placeholder) fun o p =>
        { o with changes := { o.changes with placeholder := some p } } },
    { long := "workers", short := some 'j'
      effect := single count? (fun o => o.changes.workers) fun o w =>
        { o with changes := { o.changes with workers := some w } } }]
  ++ selectionFlags.map (Flag.lift (fun o => o.changes.toSelectionChanges)
    fun o s => { o with changes := { o.changes with toSelectionChanges := s } })

def listFlags : List (Flag ListTask) :=
  [{ long := "missing"
     effect := once ListTask.missingOnly fun o => { o with missingOnly := true } },
    { long := "json"
      effect := once ListTask.json fun o => { o with json := true } }]
  ++ selectionFlags.map (Flag.lift ListTask.changes fun o s => { o with changes := s })

def initFlags : List (Flag InitTask) :=
  [{ long := "force", short := some 'f'
     effect := once InitTask.force fun o => { o with force := true } }]

/-- A word that gives the path, which may be given once. -/
def pathWord {σ : Type} (get : σ → Option String) (set : σ → String → σ) (options : σ)
    (word : String) : Except Halt σ :=
  match get options, path? word with
  | none, some path => .ok (set options path)
  | _, _ => .error .usage

/-- The level behind the name of a command. Behind a double dash all arguments are words. -/
def commandLevel {σ : Type} (flags : List (Flag σ)) (word : σ → String → Except Halt σ) :
    Level (Globals × σ) (Globals × σ) :=
  { flags :=
      globalFlags.map (Flag.lift Prod.fst fun s g => (g, s.2))
        ++ flags.map (Flag.lift Prod.snd fun s o => (s.1, o))
    word := fun s arg _ => (word s.2 arg).map fun o => .inl (s.1, o)
    escape := fun s args => (args.foldlM word s.2).map fun o => (s.1, o)
    finish := .ok }

/-- Puts the options of both levels together. Those behind the command win; the environment
gives the settings file to a level that does not name one, and must not give an empty one. -/
def assemble (environment : Option String) (outer inner : Globals) (task : Task) :
    Except Halt Invocation :=
  if environment = some "" ∧ (outer.config = none ∨ inner.config = none) then
    .error .usage
  else
    .ok { task
          config := inner.config <|> outer.config <|> environment
          verbose := outer.verbose || inner.verbose }

/-- Reads the arguments behind the name of a command. -/
def command (environment : Option String) (outer : Globals) (name : String)
    (args : List String) : Except Halt Invocation := do
  match name with
  | "annotate" =>
    let set := fun (o : AnnotateTask) p => { o with path := some p }
    let level := commandLevel annotateFlags (pathWord AnnotateTask.path set)
    let (inner, options) ← level.read none args ({}, {})
    assemble environment outer inner (.annotate options)
  | "list" =>
    let set := fun (o : ListTask) p => { o with path := some p }
    let level := commandLevel listFlags (pathWord ListTask.path set)
    let (inner, options) ← level.read none args ({}, {})
    assemble environment outer inner (.list options)
  | "init" =>
    let level := commandLevel initFlags fun _ _ => .error .usage
    let (inner, options) ← level.read none args ({}, {})
    assemble environment outer inner (.init options)
  | _ => .error .usage

/-- The level before the name of a command, the only one that tells the version. -/
def programLevel (environment : Option String) : Level Globals Invocation :=
  { flags := globalFlags
      ++ [{ long := "version", short := some 'V', effect := .flag fun _ => .error .version }]
    word := fun outer name args => (command environment outer name args).map .inr
    escape := fun _ _ => .error .usage
    finish := fun _ => .error .usage }

/-- What the arguments ask for. The environment may name a settings file. -/
def Invocation.ofArguments (args : List String) (environment : Option String) :
    Except Halt Invocation :=
  (programLevel environment).read none args {}

end HeaderNotes.Command
