import CommandDocs.Entries
import CommandDocs.Text.Basic
import CommandDocs.Text.DecimalDigit

/-!
# Options

The grammar of a command line: long options with or without a value, at most one
positional argument, and the request for help. Long options may be cut short as
long as they stay unique, and a value follows its option or an equals sign. Two
dashes end the options; behind an equals sign they take the place of a value.

Releases of the option reader differ in two points, two dashes behind an equals sign and
letters behind the short option for help. The rules here are those of the older releases, up
to 3.11.7.
-/

namespace CommandDocs

/-- How often a positional argument is given. -/
inductive Arity where
  /-- The command takes no positional argument. -/
  | none
  /-- It may be left out and is then empty. -/
  | optional
  /-- It has to be there. -/
  | required
  deriving DecidableEq

/-- The arguments of a command. -/
structure Grammar where
  /-- The long options, with their dashes, that take a value. -/
  valued : List Text := []
  /-- The long options, with their dashes, that take none. -/
  flags : List Text := []
  /-- The options that have to be given. -/
  required : List Text := []
  /-- The positional argument. -/
  positional : Arity := .none

/-- Why the command line is not carried out. -/
inductive Usage where
  /-- Help was asked for. -/
  | help
  /-- The arguments do not follow the grammar. -/
  | misuse
  deriving DecidableEq

namespace Usage

/-- The exit code of the program. -/
def exitCode : Usage → Nat
  | help => 0
  | misuse => 2

end Usage

/-- What an option is given. -/
inductive OptionValue where
  /-- A text. -/
  | text (value : Text)
  /-- No value, though the option is there. -/
  | nothing
  deriving DecidableEq

namespace OptionValue

/-- The value behind an equals sign: two dashes are none. In later releases of the option reader
they are a text like any other. -/
def ofAttached (attached : Text) : OptionValue :=
  if attached = ("--" : Text) then .nothing else .text attached

/-- The value as a part of a text: nothing is shown as an empty list. -/
def shown : OptionValue → Text
  | text value => value
  | nothing => "[]"

end OptionValue

/-- What one argument is, seen on its own. -/
inductive Word where
  /-- A value or a positional argument. -/
  | plain (text : Text)
  /-- The end of the options. -/
  | divider
  /-- A request for help. -/
  | help
  /-- An option without a value. -/
  | flag (name : Text)
  /-- An option with a value, which may be part of the argument. -/
  | valued (name : Text) (value : Option Text)
  /-- An option that takes no value but was given one. -/
  | overloaded
  /-- An option that the command does not have. -/
  | unknown
  deriving DecidableEq

namespace Grammar

/-- The long option that asks for help. -/
def helpOption : Text := "--help"

/-- All long options. -/
def options (g : Grammar) : List Text := helpOption :: g.valued ++ g.flags

/-- The short option that asks for help. -/
def shortHelp : Text := "-h"

/-- The word for an option and the value given with it. -/
def wordFor (g : Grammar) (option : Text) (value : Option Text) : Word :=
  if g.valued.contains option then .valued option value
  else if value.isSome then .overloaded
  else if option = helpOption then .help
  else .flag option

/-- The word for short options in one argument behind the first, which is help.
Each letter is an option of its own; there is none but help, and it takes no
value. In later releases of the option reader help is given whatever the letters behind it are. -/
def helpCluster (letters : Text) : Word :=
  if letters.all (· == CodePoint.scalar 'h') then .help else .overloaded

/-- Take away a newline at the end. -/
def dropNewline (t : Text) : Text :=
  if t.getLast? = some (.scalar '\n') then t.dropLast else t

/-- A minus sign before decimal digits of any script with at most one point among
them, which is not the last of them. A newline behind them does not count. -/
def isNegativeNumber (argument : Text) : Bool :=
  match dropNewline argument with
  | .scalar '-' :: rest =>
    let whole := rest.takeWhile CodePoint.isDecimalDigit
    match rest.drop whole.length with
    | [] => !whole.isEmpty
    | .scalar '.' :: fraction => !fraction.isEmpty && fraction.all CodePoint.isDecimalDigit
    | _ => false
  | _ => false

/-- Split an argument at its first equals sign. -/
def splitValue (argument : Text) : Text × Option Text :=
  let name := argument.takeWhile (· != CodePoint.scalar '=')
  match argument.drop name.length with
  | [] => (name, none)
  | _ :: value => (name, some value)

/-- A word that begins with a dash but is no option: it stands for itself when it
is a number or holds a space. -/
def undashed (argument : Text) : Word :=
  if isNegativeNumber argument || argument.contains (CodePoint.scalar ' ') then .plain argument
  else .unknown

/-- The word for an argument that begins with the short option for help. Behind an
equals sign there has to be a further option, and all that follows are options in
the same way as without the sign. -/
def shortWord (argument : Text) : Word :=
  match argument.drop shortHelp.length with
  | [.scalar '='] => .overloaded
  | .scalar '=' :: letters => helpCluster letters
  | letters => helpCluster letters

/-- What an argument is; nothing when it could be several options. -/
def classify? (g : Grammar) (argument : Text) : Option Word :=
  let (name, value) := splitValue argument
  if !argument.startsWith "-" || argument.length = 1 then some (.plain argument)
  else if g.options.contains name then some (g.wordFor name value)
  else if argument.startsWith "--" then
    match g.options.filter (Text.startsWith · name) with
    | [] => some (undashed argument)
    | [option] => some (g.wordFor option value)
    | _ => none
  else if argument.startsWith shortHelp then some (shortWord argument)
  else some (undashed argument)

/-- The words of a command line. Behind the divider every argument is plain. -/
def words? (g : Grammar) : List Text → Option (List Word)
  | [] => some []
  | argument :: rest =>
    if argument = ("--" : Text) then some (.divider :: rest.map Word.plain)
    else do
      let word ← g.classify? argument
      let words ← g.words? rest
      some (word :: words)

end Grammar

/-- The arguments read so far. -/
structure Given where
  /-- The options with their values, the later of two values for one option. -/
  values : Entries Text OptionValue := []
  /-- The options without values. -/
  flags : List Text := []
  /-- The positional argument. -/
  positional : Option Text := none
  /-- Were there arguments that the grammar has no place for? -/
  hasExtra : Bool := false

namespace Given

/-- The value of an option. -/
def value? (given : Given) (option : Text) : Option OptionValue := given.values.find? option

/-- Was the option given? -/
def hasFlag (given : Given) (option : Text) : Bool := given.flags.contains option

/-- Can a positional argument still be taken? -/
def hasRoom (given : Given) (g : Grammar) : Bool :=
  g.positional != .none && given.positional.isNone

/-- Take what follows the divider: one argument as the positional one if there is
room, and no more. -/
def takeRest (given : Given) (g : Grammar) (rest : List Word) : Given :=
  match given.hasRoom g, rest with
  | true, [] => given
  | true, .plain text :: more =>
    { given with positional := some text, hasExtra := given.hasExtra || !more.isEmpty }
  | _, _ => { given with hasExtra := true }

/-- Take words in order. The first request for help, and the first option with a
wrong value, end the reading. -/
def take (g : Grammar) (given : Given) : List Word → Except Usage Given
  | [] => .ok given
  | .help :: _ => .error .help
  | .overloaded :: _ => .error .misuse
  | .unknown :: rest => take g { given with hasExtra := true } rest
  | .flag name :: rest => take g { given with flags := name :: given.flags } rest
  | .valued name (some attached) :: rest =>
    take g { given with values := given.values.put name (.ofAttached attached) } rest
  | .valued name none :: .plain value :: rest =>
    take g { given with values := given.values.put name (.text value) } rest
  | .valued _ none :: _ => .error .misuse
  | .divider :: rest => .ok (given.takeRest g rest)
  | .plain text :: .divider :: rest =>
    if given.hasRoom g then
      .ok { given with positional := some text, hasExtra := given.hasExtra || !rest.isEmpty }
    else .ok { given with hasExtra := true }
  | .plain text :: rest =>
    if given.hasRoom g then take g { given with positional := some text } rest
    else take g { given with hasExtra := true } rest

/-- Nothing is missing that the grammar requires. -/
def isComplete (given : Given) (g : Grammar) : Bool :=
  g.required.all (fun option => (given.value? option).isSome) &&
    (g.positional != .required || given.positional.isSome)

end Given

/-- Read the arguments of a command. Arguments without a place are noted and judged
by the caller. -/
def Grammar.read (g : Grammar) (arguments : List Text) : Except Usage Given :=
  match g.words? arguments with
  | none => .error .misuse
  | some words => do
    let given ← Given.take g {} words
    if given.isComplete g then .ok given else .error .misuse

end CommandDocs
