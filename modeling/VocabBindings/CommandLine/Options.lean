import VocabBindings.Text.Basic
import VocabBindings.Keyed

/-!
The arguments of the command line. An option is long, with its value behind an equals sign or in the
next argument, or short, with its value behind its letter or in the next argument; short options
without a value can share one hyphen. Two hyphens alone end the options.
-/

set_option autoImplicit false

namespace VocabBindings.CommandLine

inductive Field where
  | schemas
  | package
  | folder
  | cacheFolder
  | source
  deriving DecidableEq

inductive Switch where
  | removeOld
  | verbose
  | help
  deriving DecidableEq

inductive Choice where
  | field (f : Field)
  | switch (s : Switch)
  deriving DecidableEq

def longOptions : List (Text × Choice) :=
  [("--schemas".toList, .field .schemas), ("--namespace".toList, .field .package),
   ("--folder".toList, .field .folder), ("--cache-dir".toList, .field .cacheFolder),
   ("--source".toList, .field .source), ("--remove-old".toList, .switch .removeOld),
   ("--verbose".toList, .switch .verbose), ("--help".toList, .switch .help)]

def shortOptions : List (Char × Choice) :=
  [('s', .field .schemas), ('n', .field .package), ('f', .field .folder), ('v', .switch .verbose)]

/-- What an argument with options holds: switches, and at most one field, with its value if the
value is in the argument too. -/
structure Cluster where
  switches : List Switch := []
  field : Option (Field × Option Text) := none
  deriving DecidableEq

def shortCluster : Text → Option Cluster
  | [] => some {}
  | c :: rest =>
    match Keyed.get? c shortOptions with
    | none => none
    | some (.field f) => some { field := some (f, if rest = [] then none else some rest) }
    | some (.switch s) => (shortCluster rest).map fun k => { k with switches := s :: k.switches }

def cluster (argument : Text) : Option Cluster :=
  let name := argument.takeWhile (· ≠ '=')
  let attached :=
    match argument.drop name.length with
    | _ :: value => some value
    | [] => none
  match Keyed.get? name longOptions with
  | some (.field f) => some { field := some (f, attached) }
  | some (.switch s) => if attached = none then some { switches := [s] } else none
  | none => if Text.startsWith "--".toList argument then none else shortCluster (argument.drop 1)

structure Arguments where
  values : List (Field × Text) := []
  switches : List Switch := []
  others : List Text := []
  deriving DecidableEq

def isOption (argument : Text) : Bool := argument.head? = some '-' && argument ≠ ['-']

namespace Arguments

def withSwitches (a : Arguments) (switches : List Switch) : Arguments :=
  { a with switches := switches ++ a.switches }

def withValue (a : Arguments) (f : Field) (value : Text) : Arguments :=
  { a with values := (f, value) :: a.values }

def withOther (a : Arguments) (other : Text) : Arguments := { a with others := other :: a.others }

/-- Reads arguments, unless an option is unknown or its value is missing. An argument that holds the
value of a field is read as that, whatever it looks like. -/
def read : List Text → Option Arguments
  | [] => some {}
  | argument :: rest =>
    if argument = "--".toList then some { others := rest }
    else if !isOption argument then (read rest).map (·.withOther argument)
    else
      match cluster argument with
      | none => none
      | some ⟨switches, none⟩ => (read rest).map (·.withSwitches switches)
      | some ⟨switches, some (f, some value)⟩ =>
        (read rest).map fun a => (a.withValue f value).withSwitches switches
      | some ⟨switches, some (f, none)⟩ =>
        match rest with
        | [] => none
        | value :: rest => (read rest).map fun a => (a.withValue f value).withSwitches switches

def all (a : Arguments) (f : Field) : List Text :=
  (a.values.filter fun p => p.1 = f).map Prod.snd

def last? (a : Arguments) (f : Field) : Option Text := (a.all f).getLast?

def has (a : Arguments) (s : Switch) : Bool := a.switches.contains s

end Arguments

inductive Request where
  | help
  | generate (version : Text) (a : Arguments)
  deriving DecidableEq

def generateRequest (arguments : List Text) : Option Request :=
  match Arguments.read arguments with
  | none => none
  | some a =>
    if a.has .help then some .help
    else
      match a.others with
      | [] => some (.generate "latest".toList a)
      | [version] => some (.generate version a)
      | _ => none

def request : List Text → Option Request
  | [] => none
  | first :: rest =>
    let (command, rest) : Option Text × List Text :=
      if first = "--".toList then (rest.head?, rest.tail) else (some first, rest)
    if first = "--help".toList then some .help
    else if command = some "generate".toList then generateRequest rest
    else none

end VocabBindings.CommandLine
