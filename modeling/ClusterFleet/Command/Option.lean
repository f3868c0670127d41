/-!
# Command line — options

How options and other arguments are told apart. An option has a long name and perhaps a letter; its
value follows after an equals sign or as the next argument, and after the letter also at once. After
two hyphens alone nothing is an option any more. An option may be given once, and the first mistake
ends the reading.
-/

namespace ClusterFleet

namespace Command

/-- What an option sets. -/
inductive Setting where
  /-- The form of what is printed. -/
  | output
  /-- The folder of the manifests. -/
  | folder
  /-- The name of the cluster that manifests are for. -/
  | clusterName
  /-- The number of workers. -/
  | workers
  /-- The number of keys that may wait. -/
  | queueCapacity
  /-- The number of seconds that the work on one key may take. -/
  | syncTimeout
  /-- That members which left a set are dropped. -/
  | prune
  /-- That help is wanted. -/
  | help
  /-- That the version is wanted. -/
  | version
  deriving DecidableEq, Repr

/-- An option. -/
structure OptionRule where
  /-- What it sets. -/
  setting : Setting
  /-- Its long name. -/
  long : String
  /-- Its letter, if it has one. -/
  short : Option Char
  /-- Whether a value can be given, if it takes one; nothing if it takes none. -/
  accepts : Option (String → Bool)

/-- Why the reading of arguments ends early. -/
inductive Stop where
  /-- Help is wanted. -/
  | help
  /-- The version is wanted. -/
  | version
  /-- The arguments make no sense. -/
  | misuse
  deriving DecidableEq, Repr

/-- Which arguments can be given. -/
structure Grammar where
  /-- The options. -/
  options : List OptionRule
  /-- The greatest number of other arguments, if there is one. -/
  room : Option Nat
  /-- Whether the first other argument, unless it comes after two hyphens, begins a grammar of its
  own. -/
  isOuter : Bool

/-- The arguments given. -/
structure Given where
  /-- The options with their values, the last one first; an option without a value has an empty
  one. -/
  options : List (Setting × String)
  /-- The other arguments, the last one first. -/
  others : List String
  deriving DecidableEq, Repr

namespace Given

/-- Nothing is given yet. -/
def none : Given := ⟨[], []⟩

/-- Whether an option was given. -/
def has (g : Given) (s : Setting) : Bool :=
  (g.options.lookup s).isSome

/-- The value of an option. -/
def value? (g : Given) (s : Setting) : Option String :=
  g.options.lookup s

/-- The arguments with one more option. -/
def addOption (s : Setting) (value : String) (g : Given) : Except Stop Given :=
  match s with
  | .help => .error .help
  | .version => .error .version
  | s => if g.has s then .error .misuse else .ok { g with options := (s, value) :: g.options }

/-- The arguments with one more that is no option. -/
def addOther (room : Option Nat) (arg : String) (g : Given) : Except Stop Given :=
  if room.all (g.others.length < ·) then .ok { g with others := arg :: g.others }
  else .error .misuse

end Given

namespace Grammar

/-- Whether an argument looks like an option. A hyphen alone does not. -/
def isOption (arg : String) : Bool :=
  arg.toList.head? = some '-' && arg ≠ "-"

/-- Gives a value to an option that takes one. -/
def addValue (o : OptionRule) (value : String) (g : Given) : Except Stop Given :=
  if o.accepts.any (· value) then g.addOption o.setting value else .error .misuse

/-- Reads an option by its long name. If its value is still to come, the option is told. -/
def readLong (options : List OptionRule) (cs : List Char) (g : Given) :
    Except Stop (Option OptionRule × Given) :=
  let name := String.ofList (cs.takeWhile (· ≠ '='))
  match options.find? fun o => o.long = name, cs.dropWhile (· ≠ '=') with
  | none, _ => .error .misuse
  | some o, [] =>
    if o.accepts.isSome then .ok (some o, g)
    else (g.addOption o.setting "").map fun g => (none, g)
  | some o, _ :: value => (addValue o (String.ofList value) g).map fun g => (none, g)

/-- Reads options by their letters. What follows the letter of an option with a value is its value;
if nothing does, the value is still to come, and the option is told. -/
def readShort (options : List OptionRule) :
    List Char → Given → Except Stop (Option OptionRule × Given)
  | [], g => .ok (none, g)
  | c :: rest, g =>
    match options.find? fun o => o.short = some c with
    | none => .error .misuse
    | some o =>
      if o.accepts.isSome then
        match rest with
        | [] => .ok (some o, g)
        | '=' :: value => (addValue o (String.ofList value) g).map fun g => (none, g)
        | value => (addValue o (String.ofList value) g).map fun g => (none, g)
      else
        match g.addOption o.setting "" with
        | .error stop => .error stop
        | .ok g => readShort options rest g

/-- Reads arguments none of which is an option. -/
def readOthers (room : Option Nat) : List String → Given → Except Stop Given
  | [], g => .ok g
  | arg :: rest, g =>
    match g.addOther room arg with
    | .error stop => .error stop
    | .ok g => readOthers room rest g

/-- Reads arguments, while an option may be waiting for its value. What is left begins with the
argument that begins a grammar of its own. -/
def readFrom (grammar : Grammar) :
    Option OptionRule → List String → Given → Except Stop (Given × List String)
  | none, [], g => .ok (g, [])
  | some _, [], _ => .error .misuse
  | some o, arg :: rest, g =>
    if isOption arg then .error .misuse
    else match addValue o arg g with
      | .error stop => .error stop
      | .ok g => readFrom grammar none rest g
  | none, arg :: rest, g =>
    match arg.toList with
    | ['-', '-'] => (readOthers grammar.room rest g).map fun g => (g, [])
    | '-' :: '-' :: cs => match readLong grammar.options cs g with
      | .error stop => .error stop
      | .ok (waiting, g) => readFrom grammar waiting rest g
    | '-' :: c :: cs => match readShort grammar.options (c :: cs) g with
      | .error stop => .error stop
      | .ok (waiting, g) => readFrom grammar waiting rest g
    | _ =>
      if grammar.isOuter then .ok (g, arg :: rest)
      else match g.addOther grammar.room arg with
        | .error stop => .error stop
        | .ok g => readFrom grammar none rest g

/-- Reads arguments. -/
def read (grammar : Grammar) (args : List String) : Except Stop (Given × List String) :=
  readFrom grammar none args Given.none

end Grammar

end Command

end ClusterFleet
