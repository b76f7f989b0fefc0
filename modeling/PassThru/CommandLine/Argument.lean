/-!
# Command line arguments

A command line is read level by level. A level takes options with a value, flags and operands in
any order, until the arguments end or a command starts the next level. An option's value is
attached to it by an equals sign or is the next argument, which must not look like an option; after
`--` every argument is an operand.

`Level.read` collects a value of any type: each entry of the level says how it changes that value,
or refuses to.
-/

namespace PassThru.CommandLine

/-- Why a command line is not run. -/
inductive Stop where
  /-- It is not understood. -/
  | usage
  /-- It asks for the version of the tool. -/
  | version
  deriving DecidableEq, Repr

/-- The form of an argument. -/
inductive Argument where
  /-- Two dashes alone. -/
  | terminator
  /-- A name behind two dashes, and the value attached to it. -/
  | long (name : String) (attached : Option String)
  /-- Letters behind one dash, at least one. -/
  | short (letter : Char) (more : List Char)
  /-- Anything else, a single dash too. -/
  | plain (text : String)
  deriving DecidableEq, Repr

def Argument.ofText (text : String) : Argument :=
  match text.toList with
  | ['-', '-'] => terminator
  | '-' :: '-' :: rest =>
    let (name, attached) := rest.span (· != '=')
    long (String.ofList name)
      (if attached.isEmpty then none else some (String.ofList attached.tail))
  | '-' :: letter :: more => short letter more
  | _ => plain text

/-- Whether an argument can be the value of the option before it. -/
def Argument.isValue (text : String) : Bool := ofText text == plain text

/-- What a level accepts, while it collects an `α`. -/
structure Level (α : Type) where
  /-- Options with a value, by name. -/
  options : List (String × (String → α → Option α))
  /-- Options without a value, by name. -/
  flags : List (String × (α → Option α)) := []
  /-- What an operand does. -/
  operand : String → α → Option α := fun _ _ => none
  /-- The commands that end the level. -/
  commands : List String := []
  /-- Whether the version can be asked for. -/
  hasVersion : Bool := false

/-- A command with the arguments that follow it. -/
structure Rest where
  command : String
  arguments : List String
  deriving DecidableEq, Repr

namespace Level

variable {α : Type}

/-- A change that is a usage error where it is refused. -/
def change : Option α → Except Stop α
  | some a => .ok a
  | none => .error .usage

/-- Read arguments all of which are operands. -/
def readOperands (level : Level α) (arguments : List String) (a : α) : Except Stop α :=
  arguments.foldlM (fun a text => change (level.operand text a)) a

/-- An option without an attached value that is not one with a value. -/
def readFlag (level : Level α) (name : String) (a : α) : Except Stop α :=
  match level.flags.lookup name with
  | some set => change (set a)
  | none => .error (if level.hasVersion && name = "version" then .version else .usage)

/-- Read the arguments of a level. -/
def read (level : Level α) : List String → α → Except Stop (α × Option Rest)
  | [], a => .ok (a, none)
  | argument :: rest, a =>
    match Argument.ofText argument with
    | .terminator => (level.readOperands rest a).map (·, none)
    | .long name (some value) =>
      match level.options.lookup name with
      | some set => change (set value a) >>= level.read rest
      | none => .error .usage
    | .long name none =>
      match level.options.lookup name, rest with
      | some set, value :: rest =>
        if Argument.isValue value then change (set value a) >>= level.read rest
        else .error .usage
      | some _, [] => .error .usage
      | none, rest => level.readFlag name a >>= level.read rest
    | .short letter _ =>
      .error (if level.hasVersion && letter = 'V' then .version else .usage)
    | .plain text =>
      if level.commands.contains text then .ok (a, some ⟨text, rest⟩)
      else change (level.operand text a) >>= level.read rest

end Level

end PassThru.CommandLine
