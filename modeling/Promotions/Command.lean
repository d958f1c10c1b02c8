import Promotions.Files

/-! Commands of the program and how they are read from a line of arguments. A line that names no
command, or a file that is not there, is no command at all. -/
namespace Promotions

inductive Command where
  | parse (source : String)
  | tokens (source : String)
  | apply (source : String) (context : Option String) (json : Bool)
  | functions (json : Bool)
  | help
  deriving DecidableEq, Repr

namespace Command

structure Options where
  valued : List String
  flags : List String

structure Arguments where
  positional : List String
  options : List (String × String)
  deriving DecidableEq, Repr

def Arguments.has (arguments : Arguments) (option : String) : Bool :=
  arguments.options.any (·.1 == option)

def Arguments.value? (arguments : Arguments) (option : String) : Option String :=
  arguments.options.reverse.lookup option

def Arguments.addOption (option value : String) (arguments : Arguments) : Arguments :=
  ⟨arguments.positional, (option, value) :: arguments.options⟩

def Arguments.addPositional (argument : String) (arguments : Arguments) : Arguments :=
  ⟨argument :: arguments.positional, arguments.options⟩

def splitOption (argument : String) : String × Option String :=
  let chars := argument.toList
  let name := chars.takeWhile (· ≠ '=')
  let attached := chars.drop name.length
  (String.ofList name, if attached.isEmpty then none else some (String.ofList attached.tail))

def isOption (argument : String) : Bool :=
  argument.toList.head? == some '-' && 1 < argument.length

/-- Reads arguments. Options and positional arguments may be mixed unless the first positional
argument is to end the reading; a double dash ends the options. -/
def read? (options : Options) (mixed : Bool) : List String → Option Arguments
  | [] => some ⟨[], []⟩
  | argument :: rest =>
      if argument = "--" then some ⟨rest, []⟩
      else if !isOption argument then
        if mixed then (read? options mixed rest).map (·.addPositional argument)
        else some ⟨argument :: rest, []⟩
      else
        let (name, attached) := splitOption argument
        if options.valued.contains name then
          match attached with
          | some value => (read? options mixed rest).map (·.addOption name value)
          | none =>
              match rest with
              | value :: later => (read? options mixed later).map (·.addOption name value)
              | [] => none
        else if options.flags.contains name && attached.isNone then
          (read? options mixed rest).map (·.addOption name "")
        else none

inductive Misuse where
  | usage
  | badPath
  deriving DecidableEq, Repr

def existing (files : Files) (path : String) : Except Misuse String :=
  match files path with
  | .ok _ => .ok path
  | .error .nullInPath => .error .badPath
  | .error _ => .error .usage

/-- The one positional argument, a file; it is looked up before others are counted. -/
def source (files : Files) (arguments : Arguments) : Except Misuse String :=
  match arguments.positional with
  | [] => .error .usage
  | path :: more => do
      let found ← existing files path
      if more.isEmpty then return found else .error .usage

/-- The command of a name with its arguments. Help goes before everything, a context before the
source. -/
def ofArguments (files : Files) (name : String) (arguments : List String) :
    Except Misuse Command :=
  let flags := if name = "apply" ∨ name = "functions" then ["--json", "--help"] else ["--help"]
  match read? ⟨if name = "apply" then ["--context"] else [], flags⟩ true arguments with
  | none => .error .usage
  | some found =>
      if found.has "--help" then .ok .help
      else if name = "parse" then (source files found).map .parse
      else if name = "tokens" then (source files found).map .tokens
      else if name = "functions" then
        if found.positional.isEmpty then .ok (.functions (found.has "--json")) else .error .usage
      else if name = "apply" then do
        let context ← (found.value? "--context").mapM (existing files)
        let path ← source files found
        return .apply path context (found.has "--json")
      else .error .usage

def names : List String := ["parse", "tokens", "apply", "functions"]

def ofLine (files : Files) (line : List String) : Except Misuse Command :=
  match read? ⟨["--log-level"], ["--help"]⟩ false line with
  | none => .error .usage
  | some found =>
      if found.has "--help" then .ok .help
      else match found.positional with
        | [] => .error .usage
        | name :: arguments =>
            if names.contains name then ofArguments files name arguments else .error .usage

end Command

end Promotions
