/-
The arguments of the command line.

There is one operand, the file of records, and there are four options. Options have
long spellings, of which any beginning that fits only one of them will do, and short
ones, which may be run together. An option takes its value from the same argument,
after an equals sign or directly after its short spelling, or else from the next
argument, if that is an operand. A double hyphen makes operands of all arguments
after it.

Arguments are first told apart, which needs no context but the double hyphen, and
then taken into account from left to right.
-/
import SymbolDocs.Text.Digit
import SymbolDocs.Text.Quoted

set_option autoImplicit false

namespace SymbolDocs.CommandLine

/-! ## Options -/

/-- An option. -/
inductive Flag where
  | help
  | output
  | strict
  | verbose
  deriving DecidableEq, Repr

/-- The spellings of each option, in the order in which they are listed. -/
def spellings : List (String × Flag) :=
  [("-h", .help), ("--help", .help), ("-o", .output), ("--output", .output),
   ("--strict", .strict), ("-v", .verbose), ("--verbose", .verbose)]

/-- How diagnostics name an option: by all its spellings. -/
def Flag.label (flag : Flag) : String :=
  String.intercalate "/" ((spellings.filter fun s => s.2 = flag).map (·.1))

def Flag.takesValue (flag : Flag) : Bool :=
  flag = .output

/-! ## Faults -/

/-- Why the arguments are refused. -/
inductive UsageFault where
  /-- An option is spelled by a beginning of several spellings. -/
  | ambiguous (argument : String) (candidates : List String)
  /-- An option without value is given one. -/
  | ignoredValue (flag : Flag) (value : String)
  /-- An option with value is given none. -/
  | missingValue (flag : Flag)
  | missingRecords
  | unrecognized (arguments : List String)
  deriving DecidableEq, Repr

/-- The wording of a fault. -/
def UsageFault.message : UsageFault → String
  | .ambiguous argument candidates =>
    "ambiguous option: " ++ argument ++ " could match " ++ String.intercalate ", " candidates
  | .ignoredValue flag value =>
    "argument " ++ flag.label ++ ": ignored explicit argument " ++ Text.quoted value
  | .missingValue flag => "argument " ++ flag.label ++ ": expected one argument"
  | .missingRecords => "the following arguments are required: records"
  | .unrecognized arguments =>
    "unrecognized arguments: " ++ String.intercalate " " arguments

/-! ## Telling arguments apart -/

/-- An argument, seen for what it is. -/
inductive Word where
  | operand (text : String)
  /-- The double hyphen after which everything is an operand. -/
  | divider
  /-- An option, possibly with a value in the same argument. `short` tells that its
  short spelling was used. -/
  | option (flag : Flag) (short : Bool) (attached : Option (List Char))
  /-- An argument that looks like an option and is none. -/
  | unknown (text : String)
  deriving DecidableEq, Repr

/-- The part of an argument before its first equals sign, and the value after it. -/
def cutAtEquals (cs : List Char) : List Char × Option (List Char) :=
  match cs.dropWhile (· ≠ '=') with
  | [] => (cs, none)
  | _ :: value => (cs.takeWhile (· ≠ '='), some value)

/-- Whether a spelling is a short one. -/
def isShort (spelling : List Char) : Bool :=
  spelling.length = 2

/-- The option of a spelling. -/
def flag? (spelling : List Char) : Option Flag :=
  spellings.lookup (String.ofList spelling)

/-- A text without the line feed that it may end in. -/
def dropLineEnd (cs : List Char) : List Char :=
  if cs.getLast? = some '\n' then cs.dropLast else cs

/-- Whether an argument writes a negative number, which is an operand. The digits may
be those of any script, and one line feed may follow. -/
def isNegativeNumber (cs : List Char) : Bool :=
  match dropLineEnd cs with
  | '-' :: rest =>
    match rest.dropWhile Text.isDecimalDigit with
    | [] => !rest.isEmpty
    | '.' :: places => !places.isEmpty && places.all Text.isDecimalDigit
    | _ => false
  | _ => false

/-- The long spellings that an argument with two hyphens may be short for. -/
def candidates (beginning : List Char) : List (String × Flag) :=
  spellings.filter fun s => beginning.isPrefixOf s.1.toList

/-- An argument that starts with a hyphen and is not spelled like any option. -/
def otherWord (cs : List Char) : Word :=
  if isNegativeNumber cs || cs.contains ' ' then .operand (String.ofList cs)
  else .unknown (String.ofList cs)

/-- An argument that starts with two hyphens and is no whole spelling. -/
def longWord (cs : List Char) : Except UsageFault Word :=
  let (beginning, attached) := cutAtEquals cs
  match candidates beginning with
  | [] => .ok (otherWord cs)
  | [(_, flag)] => .ok (.option flag false attached)
  | several => .error (.ambiguous (String.ofList cs) (several.map (·.1)))

/-- An argument that starts with one hyphen and is no whole spelling. -/
def shortWord (cs : List Char) : Word :=
  match flag? (cs.take 2) with
  | some flag => .option flag true (some (cs.drop 2))
  | none => otherWord cs

/-- Tells what an argument before the divider is. A lone hyphen is an operand. -/
def Word.ofArgument (argument : String) : Except UsageFault Word :=
  let cs := argument.toList
  match cs with
  | '-' :: second :: _ =>
    let (spelling, attached) := cutAtEquals cs
    match flag? cs, flag? spelling with
    | some flag, _ => .ok (.option flag (isShort cs) none)
    | none, some flag => .ok (.option flag (isShort spelling) attached)
    | none, none => if second = '-' then longWord cs else .ok (shortWord cs)
  | _ => .ok (.operand argument)

/-- Tells all arguments apart. -/
def Word.ofArguments : List String → Except UsageFault (List Word)
  | [] => .ok []
  | argument :: rest =>
    if argument = "--" then .ok (.divider :: rest.map .operand)
    else do
      let word ← Word.ofArgument argument
      let words ← Word.ofArguments rest
      return word :: words

/-! ## Taking arguments into account -/

/-- What a run is asked to do. -/
structure Invocation where
  /-- The file of records. -/
  records : String
  /-- Where to write the Markdown, if not to standard output. -/
  output : Option String
  strict : Bool
  verbose : Bool
  deriving DecidableEq, Repr

/-- What the arguments come to. -/
inductive Request where
  /-- Show the help. -/
  | help
  | run (invocation : Invocation)
  deriving DecidableEq, Repr

/-- What the arguments so far have said. -/
structure Partial where
  records : Option String := none
  output : Option String := none
  strict : Bool := false
  verbose : Bool := false
  /-- Arguments that nobody asked for, in order. -/
  extras : List String := []
  deriving DecidableEq, Repr

/-- The options of one argument, the last possibly with a value. -/
abbrev Bundle := List (Flag × Option String)

/-- Takes short options apart that are run together. The characters after an option
without value are the next options, up to one that takes what is left as its value.
Characters that are no option are a value that nobody asked for. -/
def unbundle (flag : Flag) : List Char → Except UsageFault Bundle
  | [] => if flag.takesValue then .ok [(flag, some "")] else .error (.ignoredValue flag "")
  | c :: rest =>
    if flag.takesValue then .ok [(flag, some (String.ofList (c :: rest)))]
    else
      match flag? ['-', c] with
      | none => .error (.ignoredValue flag (String.ofList (c :: rest)))
      | some next =>
        let others : Except UsageFault Bundle :=
          match rest with
          | [] => .ok [(next, none)]
          | more => unbundle next more
        others.map fun b => (flag, none) :: b

/-- The options that an option argument holds. -/
def bundle (flag : Flag) (short : Bool) (attached : Option (List Char)) :
    Except UsageFault Bundle :=
  match attached with
  | none => .ok [(flag, none)]
  | some value =>
    if short then unbundle flag value
    else if flag.takesValue then .ok [(flag, some (String.ofList value))]
    else .error (.ignoredValue flag (String.ofList value))

/-- The file that a value of the output option names. The double hyphen names none, so
that the Markdown goes to standard output. -/
def namedFile? (value : Option String) : Option String :=
  value.filter (· ≠ "--")

/-- Takes the options of an argument into account, in order; `none` is a request for
help, which ends everything. -/
def Partial.set (p : Partial) : Bundle → Option Partial
  | [] => some p
  | (.help, _) :: _ => none
  | (.output, value) :: rest => { p with output := namedFile? value }.set rest
  | (.strict, _) :: rest => { p with strict := true }.set rest
  | (.verbose, _) :: rest => { p with verbose := true }.set rest

/-- Adds an argument that nobody asked for. -/
def Partial.extra (p : Partial) (argument : String) : Partial :=
  { p with extras := p.extras ++ [argument] }

/-- What the arguments come to when all are taken into account. -/
def Partial.finish (p : Partial) : Except UsageFault Request :=
  match p.records with
  | none => .error .missingRecords
  | some records =>
    if p.extras.isEmpty then
      .ok (.run { records := records, output := p.output, strict := p.strict
                  verbose := p.verbose })
    else .error (.unrecognized p.extras)

/-- Gives the last option of a bundle its value. -/
def withValue (value : String) : Bundle → Bundle
  | [] => []
  | [(flag, _)] => [(flag, some value)]
  | f :: rest => f :: withValue value rest

/-- The last option of a bundle, if it still needs a value. -/
def Bundle.needy? (b : Bundle) : Option Flag :=
  match b.getLast? with
  | some (flag, none) => if flag.takesValue then some flag else none
  | _ => none

/-- Takes words into account from left to right. The first operand is the file of
records; a divider directly before or after it disappears with it. -/
def takeWords (p : Partial) : List Word → Except UsageFault Request
  | [] => p.finish
  | .operand text :: rest =>
    match p.records with
    | some _ => takeWords (p.extra text) rest
    | none =>
      let p := { p with records := some text }
      match rest with
      | .divider :: rest => takeWords p rest
      | rest => takeWords p rest
  | .divider :: rest =>
    match p.records, rest with
    | none, .operand text :: rest => takeWords { p with records := some text } rest
    | _, rest => takeWords (p.extra "--") rest
  | .unknown text :: rest => takeWords (p.extra text) rest
  | .option flag short attached :: rest => do
    let b ← bundle flag short attached
    match b.needy?, rest with
    | none, rest =>
      match p.set b with
      | none => return .help
      | some p => takeWords p rest
    | some _, .operand value :: rest =>
      match p.set (withValue value b) with
      | none => return .help
      | some p => takeWords p rest
    | some needy, _ => .error (.missingValue needy)

/-- What the arguments of the command line come to. -/
def request (arguments : List String) : Except UsageFault Request := do
  let words ← Word.ofArguments arguments
  takeWords {} words

/-! ## Texts -/

def usage : String :=
  "usage: sourcedocs [-h] [-o OUTPUT] [--strict] [-v] records\n"

def helpText : String :=
  usage ++ "\n"
    ++ "Render documentation records as Markdown.\n"
    ++ "\n"
    ++ "positional arguments:\n"
    ++ "  records               JSON file of records\n"
    ++ "\n"
    ++ "options:\n"
    ++ "  -h, --help            show this help message and exit\n"
    ++ "  -o OUTPUT, --output OUTPUT\n"
    ++ "                        Write Markdown here instead of stdout\n"
    ++ "  --strict              Exit with status 1 if any symbol is undocumented\n"
    ++ "  -v, --verbose\n"

/-- What is told about arguments that are refused. -/
def UsageFault.report (fault : UsageFault) : String :=
  usage ++ "sourcedocs: error: " ++ fault.message ++ "\n"

end SymbolDocs.CommandLine
