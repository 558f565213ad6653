import VocabBindings.CommandLine.Options
import VocabBindings.Resolve.Message
import VocabBindings.Session

/-!
Runs of the command line: the settings that its arguments make, the run, and what is printed about
it.
-/

set_option autoImplicit false

namespace VocabBindings.CommandLine

/-- The settings that arguments make. A cache folder without a name is none. -/
def settings (defaultCache version : Text) (a : Arguments) : Settings where
  schemas := Settings.namesIn (a.all .schemas)
  schemas_clean := Settings.cleaned_namesIn _
  package := a.last? .package
  folder := a.last? .folder
  version
  removeOld := a.has .removeOld
  cacheFolder :=
    match a.last? .cacheFolder with
    | some (c :: rest) => c :: rest
    | _ => defaultCache
  source := a.last? .source

/-- How a run ended. A run that failed otherwise has a failure that nothing is printed about. -/
inductive Ending where
  | usage
  | finished (code : Nat) (output errors : Text)
  | failed (f : Failure)

structure Result where
  ending : Ending
  files : Files.Tree
  requests : List Text := []
  log : List Text := []

def resolutionCode : Nat := 1

def usageCode : Nat := 2

def unavailableCode : Nat := 69

def outputCode : Nat := 73

def settingsCode : Nat := 78

def linesOf (texts : List Text) : Text := texts.flatMap (· ++ ['\n'])

def errorLine (message : Text) : Text := linesOf ["Error: ".toList ++ message]

def settingsErrors (m : MissingSettings) : Text :=
  errorLine m.message ++
    linesOf ["Use --schemas, --namespace and --folder to configure the generation.".toList]

def suggestionLines (suggestions : List Text) : Text :=
  if suggestions = [] then []
  else
    linesOf
      ["You may want to generate the following classes too for a better IDE experience:".toList,
       Text.joined ", ".toList suggestions]

/-- How a run ends with a failure of its output. Nothing is printed about a path that is none. -/
def outputEnding (folder : Text) (e : Files.FileError) : Ending :=
  if e.fault = .nullCharacter then .failed (.output e)
  else
    .finished outputCode []
      (errorLine ("cannot write to ".toList ++ folder ++ ": ".toList ++ e.message))

def endingOf (folder : Text) (f : Failure) : Ending :=
  match f.unavailable?, f with
  | some u, _ => .finished unavailableCode [] (errorLine u.message)
  | none, .output e => outputEnding folder e
  | none, .resolution (.missing m) => .finished resolutionCode [] (errorLine m.message)
  | none, .resolution (.duplicate d) => .finished resolutionCode [] (errorLine d.message)
  | none, f => .failed f

def finalNote (classes : List ClassOutline) : Note :=
  .debug ("[cli]: generated ".toList ++ Text.ofNat classes.length ++ " traits".toList)

def logLines (verbose : Bool) (notes : List Note) : List Text :=
  (notes.filter fun n => verbose || n.level = .info).map Note.text

def generate (verbose : Bool) (settings : Settings) (network : Web.Network) (files : Files.Tree) :
    Result :=
  match Session.start settings [] with
  | .error m => { ending := .finished settingsCode [] (settingsErrors m), files }
  | .ok session =>
    let saved := session.save network files
    let log := logLines verbose
    match saved.value, saved.session.result with
    | .error f, _ =>
      { ending := endingOf session.folder f, files := saved.files
        requests := saved.requests, log := log saved.notes }
    | .ok _, none =>
      { ending := .finished 0 [] [], files := saved.files, requests := saved.requests
        log := log saved.notes }
    | .ok _, some result =>
      { ending := .finished 0 (suggestionLines result.remainingSuggestions) []
        files := saved.files, requests := saved.requests
        log := log (saved.notes ++ [finalNote result.classes]) }

def run (defaultCache : Text) (arguments : List Text) (network : Web.Network) (files : Files.Tree) :
    Result :=
  match request arguments with
  | none => { ending := .usage, files }
  | some .help => { ending := .finished 0 [] [], files }
  | some (.generate version a) =>
    generate (a.has .verbose) (settings defaultCache version a) network files

end VocabBindings.CommandLine
