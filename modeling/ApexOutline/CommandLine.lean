import ApexOutline.Path
import ApexOutline.Text.Digits
/-!
# The command line

Arguments are read from left to right into items, and the items are gathered into options. The first
item that ends the reading decides: a request for help is granted although mistakes follow it.
-/

namespace ApexOutline

open Text

/-! ## Items -/

namespace CommandLine

/-- Switches, which take no value. -/
inductive Switch where
  | verbose
  | help
  | version
  deriving DecidableEq, Repr

/-- Options that take a value. -/
inductive Setting where
  | config
  | scope
  | output
  | maxFiles
  | threads
  deriving DecidableEq, Repr

/-- What a letter or a long name stands for. -/
inductive Name where
  | switch (switch : Switch)
  | setting (setting : Setting)
  deriving DecidableEq, Repr

/-- The option with a letter. -/
def Name.ofLetter? : Char → Option Name
  | 'c' => some (.setting .config)
  | 's' => some (.setting .scope)
  | 'o' => some (.setting .output)
  | 'v' => some (.switch .verbose)
  | 'h' => some (.switch .help)
  | 'V' => some (.switch .version)
  | _ => none

/-- The long names, which are not abbreviated. -/
def longNames : List (Text × Name) :=
  [("config".toList, .setting .config), ("scope".toList, .setting .scope),
   ("output".toList, .setting .output), ("max-files".toList, .setting .maxFiles),
   ("threads".toList, .setting .threads), ("verbose".toList, .switch .verbose),
   ("help".toList, .switch .help), ("version".toList, .switch .version)]

/-- A part of a command line. -/
inductive Item where
  | input (path : Path)
  | switch (switch : Switch)
  | value (setting : Setting) (text : Text)
  /-- An unknown option, a value that is missing, or one that nothing asked for. -/
  | mistake
  deriving DecidableEq, Repr

/-- What one argument holds: its items, and the setting whose value has to follow. -/
structure Argument where
  items : List Item := []
  open? : Option Setting := none
  deriving DecidableEq, Repr

/-- Reads letters after a single dash. A setting takes what is left of them as its value, after an
equals sign if there is one. -/
def Argument.ofLetters : Text → Argument
  | [] => {}
  | c :: rest =>
    match Name.ofLetter? c with
    | none => { items := [.mistake] }
    | some (.switch switch) =>
      let more := ofLetters rest
      { more with items := .switch switch :: more.items }
    | some (.setting setting) =>
      if rest.isEmpty then { open? := some setting }
      else { items := [.value setting ((after? ['='] rest).getD rest)] }

/-- Reads a long name after two dashes, which an equals sign and a value may follow. -/
def Argument.ofLongName (t : Text) : Argument :=
  let name := t.takeWhile (· != '=')
  match longNames.lookup name, t.drop name.length with
  | some (.switch switch), [] => { items := [.switch switch] }
  | some (.setting setting), [] => { open? := some setting }
  | some (.setting setting), _ :: value => { items := [.value setting value] }
  | _, _ => { items := [.mistake] }

/-- Reads an argument. A dash alone is an input. -/
def Argument.ofText : Text → Argument
  | '-' :: '-' :: name => .ofLongName name
  | '-' :: c :: letters => .ofLetters (c :: letters)
  | path => { items := [.input path] }

/-- Whether an argument can be the value of the setting before it: nothing that looks like an option
can. -/
def isValue : Text → Bool
  | '-' :: _ :: _ => false
  | _ => true

/-- The items of a command line. After two dashes alone everything is an input. -/
def items : List Text → List Item
  | [] => []
  | arg :: rest =>
    if arg = "--".toList then rest.map .input
    else
      let argument := Argument.ofText arg
      argument.items ++
        match argument.open? with
        | none => items rest
        | some setting =>
          match rest with
          | [] => [.mistake]
          | value :: after =>
            if isValue value then .value setting value :: items after else [.mistake]

/-- A count in decimal digits, possibly after a plus, that fits into 64 bits. -/
def count? (t : Text) : Option Nat :=
  countIn? 10 ((after? ['+'] t).getD t)

end CommandLine

/-! ## Options -/

/-- What a command line asks for. -/
structure Options where
  /-- Files and directories. -/
  inputs : List Path := []
  /-- The configuration file. -/
  config : Option Path := none
  /-- The scopes to document; when there are any, they replace the configured ones. -/
  scopes : List Text := []
  /-- Where the report goes. -/
  output : Option Path := none
  maxFiles : Option Nat := none
  threads : Option Nat := none
  verbose : Bool := false
  deriving DecidableEq, Repr

/-- Why there are no options. -/
inductive Options.Ending where
  | help
  | version
  /-- The command line is wrong. -/
  | misuse
  deriving DecidableEq, Repr

namespace Options

open CommandLine

/-- A value that must not have been given before. -/
def once {α : Type} (before : Option α) (value : Option α) : Except Ending (Option α) :=
  match before, value with
  | none, some a => .ok (some a)
  | _, _ => .error .misuse

/-- A path, which is not empty. -/
def path? (t : Text) : Option Path :=
  if t.isEmpty then none else some t

/-- The options with the value of a setting. Only scopes may be given again. -/
def addValue (options : Options) (text : Text) : Setting → Except Ending Options
  | .scope => .ok { options with scopes := options.scopes ++ [text] }
  | .config => do return { options with config := ← once options.config (path? text) }
  | .output => do return { options with output := ← once options.output (path? text) }
  | .maxFiles => do return { options with maxFiles := ← once options.maxFiles (count? text) }
  | .threads => do return { options with threads := ← once options.threads (count? text) }

/-- The options with one more item. -/
def add (options : Options) : Item → Except Ending Options
  | .input path =>
    if path.isEmpty then .error .misuse else .ok { options with inputs := options.inputs ++ [path] }
  | .switch .verbose =>
    if options.verbose then .error .misuse else .ok { options with verbose := true }
  | .switch .help => .error .help
  | .switch .version => .error .version
  | .value setting text => options.addValue text setting
  | .mistake => .error .misuse

/-- The options that some items make. There has to be an input. -/
def ofItems (items : List Item) : Except Ending Options := do
  let options ← items.foldlM add {}
  if options.inputs.isEmpty then .error .misuse else return options

/-- The options of a command line. -/
def parse (args : List Text) : Except Ending Options :=
  ofItems (items args)

end Options

end ApexOutline
