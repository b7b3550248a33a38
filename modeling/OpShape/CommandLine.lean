/-
# `OpShape.CommandLine` — the command that verifies the built-in library and writes it.

The command takes the directory of the output and a few options.  What it does is described by its
exit code and by what it prints; the files that it reads and writes are reached through `FileOps`.
-/
import OpShape.Builtin.Library
import OpShape.Oracle.Reference
import OpShape.Publish
import OpShape.Registry.File
import OpShape.Registry.Table

namespace OpShape.CommandLine

/-! ## Words of a command -/

/-- What is asked of a run. -/
structure Options where
  outputDir : String
  /-- The table to compare with, if it is not the built-in one. -/
  registry : Option String
  outputName : String
  verbose : Bool
  deriving DecidableEq, Repr

/-- What the command is asked for. -/
inductive Command where
  | help
  | generate (options : Options)
  deriving DecidableEq, Repr

/-- What is wrong with the words of a command. -/
inductive UsageError where
  | missingDirectory
  | invalidOption (option : String)
  | unexpectedArgument (word : String)
  | missingValue (option : String)
  | unexpectedValue (option value : String)
  deriving DecidableEq, Repr

/-- What is wrong, in words. -/
def UsageError.message : UsageError → String
  | missingDirectory => "missing `<output_dir>` arg"
  | invalidOption option => "invalid option '" ++ option ++ "'"
  | unexpectedArgument word => "unexpected argument " ++ Text.quoted word
  | missingValue option => "missing argument for option '" ++ option ++ "'"
  | unexpectedValue option value =>
    "unexpected argument for option '" ++ option ++ "': " ++ Text.quoted value

/-- What has been read of a command. -/
structure Draft where
  outputDir : Option String
  registry : Option String
  outputName : String
  verbose : Bool

/-- The name of the output where none is given. -/
def defaultName : String := "shape_library.json"

namespace Draft

/-- The command in front of its words. -/
def start : Draft :=
  { outputDir := none, registry := none, outputName := defaultName, verbose := false }

/-- Read a word that is no option. -/
def addWord (draft : Draft) (word : String) : Except UsageError Draft :=
  match draft.outputDir with
  | none => .ok { draft with outputDir := some word }
  | some _ => .error (.unexpectedArgument word)

/-- The command once all words are read. -/
def finish (draft : Draft) : Except UsageError Command :=
  match draft.outputDir with
  | none => .error .missingDirectory
  | some outputDir =>
    .ok (.generate {
      outputDir, registry := draft.registry, outputName := draft.outputName,
      verbose := draft.verbose })

end Draft

/-- Read the letters of a word of short options, where `previous` is the letter before.  None of
them takes a value, and nothing is read behind the one that asks for help. -/
def readLetters : Draft → Option Char → List Char → Except UsageError (Option Draft)
  | draft, _, [] => .ok (some draft)
  | _, some letter, '=' :: value =>
    .error (.unexpectedValue (String.ofList ['-', letter]) (String.ofList value))
  | draft, _, 'v' :: rest => readLetters { draft with verbose := true } (some 'v') rest
  | _, _, 'h' :: _ => .ok none
  | _, _, c :: _ => .error (.invalidOption (String.ofList ['-', c]))

/-- The name of a long option, and the value that is written behind an equals sign. -/
def longOption (text : List Char) : String × Option String :=
  match Text.cutFirst '=' text with
  | some (name, value) => (String.ofList name, some (String.ofList value))
  | none => (String.ofList text, none)

/-- Read the words of a command.  An option that takes a value and has none behind an equals sign
takes the next word, whatever that is.  Behind two hyphens there are no options. -/
def readWords : Draft → List String → Except UsageError Command
  | draft, [] => draft.finish
  | draft, word :: rest =>
    if word = "--" then do
      (← rest.foldlM Draft.addWord draft).finish
    else
      match Text.stripStart ['-', '-'] word.toList with
      | some text =>
        match longOption text, rest with
        | ("registry", some path), rest => readWords { draft with registry := some path } rest
        | ("registry", none), path :: rest => readWords { draft with registry := some path } rest
        | ("output-name", some name), rest => readWords { draft with outputName := name } rest
        | ("output-name", none), name :: rest => readWords { draft with outputName := name } rest
        | ("verbose", none), rest => readWords { draft with verbose := true } rest
        | ("verbose", some value), _ => .error (.unexpectedValue "--verbose" value)
        | ("help", _), _ => .ok .help
        | (name, value), _ =>
          if value.isNone ∧ (name = "registry" ∨ name = "output-name") then
            .error (.missingValue ("--" ++ name))
          else .error (.invalidOption ("--" ++ name))
      | none =>
        match word.toList with
        | '-' :: c :: letters => do
          match ← readLetters draft none (c :: letters) with
          | some draft => readWords draft rest
          | none => .ok .help
        | _ => do readWords (← draft.addWord word) rest

/-- The command that words ask for. -/
def parse (words : List String) : Except UsageError Command :=
  readWords .start words

/-! ## Runs -/

/-- What a run prints and how it ends. -/
structure Outcome where
  exitCode : UInt32
  output : String
  /-- Lines that tell about the run, beside its output. -/
  notes : List String

namespace Outcome

/-- The end of a run that did what it was asked for. -/
def success (output : String) (notes : List String) : Outcome :=
  { exitCode := 0, output, notes }

/-- The end of a run that failed. -/
def failure (message : String) : Outcome :=
  { exitCode := 1, output := "", notes := ["error: " ++ message] }

end Outcome

/-- How the command is used, where it goes by the given name. -/
def help (program : String) : String :=
  "Verify the shape function library and write it to a directory.\n\n" ++
  "Usage: " ++ program ++ " [OPTIONS] <output_dir>\n\n" ++
  "  --registry <path>     Operator schema table to check signatures against\n" ++
  "  --output-name <name>  Name of the generated file [default: " ++ defaultName ++ "]\n" ++
  "  -v, --verbose         Enable verbose logging\n" ++
  "  -h, --help            Print help\n"

/-- What is told about a library that passed: the number of its functions, and each invocation if
everything is to be told. -/
def report (library : ShapeLibrary) (verbose : Bool) : List String :=
  let invocations := library.functions.flatMap fun function =>
    function.invocations.map fun invocation =>
      function.op.text ++ " agrees on " ++ invocation.text
  (if verbose then invocations else []) ++
    ["verified " ++ Decimal.natText library.size ++ " shape functions"]

/-- A run so far: it goes on with a value, or it has failed with a message. -/
def orFail {ε α : Type} {m : Type → Type} [Monad m] (say : ε → String) (result : Except ε α)
    (next : α → m Outcome) : m Outcome :=
  match result with
  | .ok value => next value
  | .error error => pure (.failure (say error))

/-- Verify the built-in library and write its manifest. -/
def generate {m : Type → Type} [Monad m] (files : FileOps m) (options : Options) : m Outcome :=
  orFail LibraryError.message ShapeLibrary.builtin fun library =>
  orFail RegistryError.message Registry.builtin fun builtin => do
  let chosen ← match options.registry with
    | some path => Registry.load files path
    | none => pure (.ok builtin)
  orFail RegistryError.message chosen fun registry => do
  let written ← generateToDir files library (Oracle.reference builtin) registry
    options.outputDir options.outputName
  orFail GenerateError.message written fun path =>
  pure (.success ("Wrote " ++ path ++ "\n") (report library options.verbose))

/-- Do what the words of a command ask for. -/
def run {m : Type → Type} [Monad m] (files : FileOps m) (program : String) (verbose : Bool)
    (words : List String) : m Outcome :=
  orFail UsageError.message (parse words) fun
  | .help => pure (.success (help program) [])
  | .generate options => generate files { options with verbose := options.verbose || verbose }

end OpShape.CommandLine
