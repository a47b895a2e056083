/-!
# Options and words

The arguments of a command are options and words, in any order. An option has a long name behind two
hyphens and a letter behind one. Its value is the next argument or is attached: `--name=value`,
`-xvalue`, `-x=value`. Letters of options without values may stand together. No option may be given
twice, and a value that is an argument by itself must not look like an option. Behind two hyphens
all arguments are words.
-/

namespace GaussMarkup

inductive OptionKind
  | value
  /-- It is given or not. -/
  | switch
  | help
  | version
  deriving DecidableEq, Repr

structure CommandOption where
  long : String
  letter : Char
  kind : OptionKind
  deriving DecidableEq, Repr

structure Interface where
  options : List CommandOption
  /-- The commands that may follow; the arguments of such a command are its own. -/
  commands : List String := []
  /-- How many words it takes at most, if there is a limit. -/
  most : Option Nat := some 0
  deriving DecidableEq, Repr

/-- The options and words that were given. -/
structure Given where
  /-- Long names with values. -/
  options : List (String × List Char) := []
  words : List (List Char) := []
  deriving DecidableEq, Repr, Inhabited

/-- What arguments amount to. -/
inductive Reading
  | done (given : Given)
  /-- A command follows with the rest of the arguments. -/
  | command (given : Given) (name : List Char) (rest : List (List Char))
  | help
  | version
  | misuse
  deriving DecidableEq, Repr

/-- What one argument does. -/
inductive Effect
  | proceed (given : Given)
  /-- The next argument is the value of an option. -/
  | expect (given : Given) (option : CommandOption)
  | stop (reading : Reading)
  deriving DecidableEq, Repr

namespace Given

def value? (g : Given) (long : String) : Option (List Char) :=
  g.options.lookup long

/-- Adds an option that was not given before. -/
def addOption (g : Given) (o : CommandOption) (value : List Char) : Effect :=
  if (g.value? o.long).isSome then .stop .misuse
  else .proceed { g with options := g.options ++ [(o.long, value)] }

/-- Adds a word if there may be more. -/
def addWord (i : Interface) (g : Given) (word : List Char) : Effect :=
  if i.most.all (g.words.length < ·) then .proceed { g with words := g.words ++ [word] }
  else .stop .misuse

def addFlag (g : Given) (o : CommandOption) : Effect :=
  match o.kind with
  | .help => .stop .help
  | .version => .stop .version
  | _ => g.addOption o []

end Given

/-- The letters behind a hyphen. -/
def readLetters (i : Interface) (g : Given) : List Char → Effect
  | [] => .proceed g
  | c :: s =>
    match i.options.find? (·.letter == c) with
    | none => .stop .misuse
    | some o =>
      if o.kind = .value then
        if s = [] then .expect g o
        else g.addOption o (if s.head? = some '=' then s.drop 1 else s)
      else
        match g.addFlag o with
        | .proceed g => readLetters i g s
        | effect => effect

/-- The name behind two hyphens, perhaps with a value. -/
def readLong (i : Interface) (g : Given) (s : List Char) : Effect :=
  match i.options.find? (·.long.toList == s.takeWhile (· != '=')) with
  | none => .stop .misuse
  | some o =>
    match s.dropWhile (· != '=') with
    | [] => if o.kind = .value then .expect g o else g.addFlag o
    | _ :: value => if o.kind = .value then g.addOption o value else .stop .misuse

/-- What an argument does that is not two hyphens and no command. -/
def readArgument (i : Interface) (g : Given) : List Char → Effect
  | '-' :: '-' :: s => readLong i g s
  | '-' :: c :: s => readLetters i g (c :: s)
  | word => g.addWord i word

/-- Whether an argument looks like an option. A hyphen by itself does not. -/
def isOptionLike (s : List Char) : Bool :=
  s.head? == some '-' && s != ['-']

/-- Words without any options among them. -/
def readWords (i : Interface) (g : Given) : List (List Char) → Reading
  | [] => .done g
  | word :: rest =>
    match g.addWord i word with
    | .proceed g => readWords i g rest
    | _ => .misuse

/-- What arguments amount to, behind those that were read. -/
def readArguments (i : Interface) (g : Given) : List (List Char) → Reading
  | [] => .done g
  | a :: rest =>
    if a = ['-', '-'] then readWords i g rest
    else if i.commands.any (·.toList == a) then .command g a rest
    else
      match readArgument i g a with
      | .stop reading => reading
      | .proceed g => readArguments i g rest
      | .expect g o =>
        match rest with
        | [] => .misuse
        | value :: rest =>
          if isOptionLike value then .misuse
          else
            match g.addOption o value with
            | .proceed g => readArguments i g rest
            | _ => .misuse

end GaussMarkup
