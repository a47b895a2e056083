import GaussMarkup.Command.Arguments
import GaussMarkup.Role.MenuSelection

/-!
# Requests

What the program is asked to do: one of its commands, with a file of settings if one is named, or to
tell about itself. Options that every command knows may stand in front of its name or behind it;
behind it they count more.
-/

namespace GaussMarkup

inductive Command
  | highlight
  | detect
  | menu
  | signature
  | classify
  | listLanguages
  | listFormats
  deriving DecidableEq, Repr

def settingsOption : CommandOption := ⟨"config", 'c', .value⟩

def verboseOption : CommandOption := ⟨"verbose", 'v', .switch⟩

def helpOption : CommandOption := ⟨"help", 'h', .help⟩

def versionOption : CommandOption := ⟨"version", 'V', .version⟩

def formatOption : CommandOption := ⟨"format", 'f', .value⟩

def languageOption : CommandOption := ⟨"lexer", 'l', .value⟩

def roleOption : CommandOption := ⟨"role", 'r', .value⟩

namespace Command

def all : List Command :=
  [highlight, detect, menu, signature, classify, listLanguages, listFormats]

def name : Command → String
  | highlight => "highlight"
  | detect => "detect"
  | menu => "menusel"
  | signature => "signature"
  | classify => "classify"
  | listLanguages => "list-lexers"
  | listFormats => "list-formats"

def ofName? (name : List Char) : Option Command :=
  all.find? (·.name.toList == name)

/-- The options of a command beside those of all commands. -/
def options : Command → List CommandOption
  | highlight => [formatOption, languageOption]
  | menu => [roleOption]
  | _ => []

/-- How many words a command takes at least. -/
def least : Command → Nat
  | listLanguages | listFormats => 0
  | _ => 1

def interface (c : Command) : Interface where
  options := c.options ++ [settingsOption, verboseOption, helpOption]
  most := if c = classify then none else some c.least

end Command

/-- What is accepted in front of a command. -/
def topInterface : Interface where
  options := [settingsOption, verboseOption, helpOption, versionOption]
  commands := Command.all.map Command.name ++ ["help"]

inductive Action
  | highlight (path format : List Char) (language? : Option (List Char))
  | detect (path : List Char)
  | menu (text role : List Char)
  | signature (text : List Char)
  | classify (words : List (List Char))
  | listLanguages
  | listFormats
  deriving DecidableEq, Repr

/-- What a command with its options and words does. -/
def Command.action (c : Command) (g : Given) : Action :=
  let word := g.words.head?.getD []
  match c with
  | highlight => .highlight word ((g.value? "format").getD "html".toList) (g.value? "lexer")
  | detect => .detect word
  | menu => .menu word ((g.value? "role").getD menuSelectionName)
  | signature => .signature word
  | classify => .classify g.words
  | listLanguages => .listLanguages
  | listFormats => .listFormats

structure Invocation where
  action : Action
  settings? : Option (List Char) := none
  /-- Tell what is being done. -/
  verbose : Bool := false
  deriving DecidableEq, Repr

/-- What the program is asked. -/
inductive Request
  | invoke (invocation : Invocation)
  | help
  | version
  deriving DecidableEq, Repr

/-- The request of a command with its arguments; `outer` was given in front of it. -/
def Command.request? (c : Command) (outer : Given) (args : List (List Char)) : Option Request :=
  match readArguments c.interface {} args with
  | .done g =>
    if c.least ≤ g.words.length then
      some <| .invoke
        { action := c.action g
          settings? := (g.value? "config").or (outer.value? "config")
          verbose := ((g.value? "verbose").or (outer.value? "verbose")).isSome }
    else none
  | .help => some .help
  | _ => none

/-- Asks for help about the program or about a command. -/
def helpRequest? : (names : List (List Char)) → Option Request
  | [] => some .help
  | [name] => if topInterface.commands.any (·.toList == name) then some .help else none
  | _ => none

/-- What arguments ask for, if they make sense. -/
def Request.ofArguments? (args : List (List Char)) : Option Request :=
  match readArguments topInterface {} args with
  | .command g name rest =>
    match Command.ofName? name with
    | some c => c.request? g rest
    | none => helpRequest? rest
  | .help => some .help
  | .version => some .version
  | _ => none

end GaussMarkup
