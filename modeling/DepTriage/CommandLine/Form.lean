/-! # Forms of command lines

A form says which options and which values a command takes. Its arguments are read one by one: an
option stands behind two dashes with its name or behind one dash with its letter, letters may share
a dash, and after two dashes alone there are only values. An option's value is the rest of its
argument, with or without an equals sign, or the next argument. -/

namespace DepTriage.CommandLine

/-- What an option does. -/
inductive OptionKind where
  | flag
  | value (accepts : String → Bool)
  /-- Ends the reading, and asks for help. -/
  | help
  /-- Ends the reading, and asks for the version of the program. -/
  | version

structure OptionForm where
  name : String
  letter : Option Char := none
  kind : OptionKind

structure Form where
  options : List OptionForm
  /-- What each value in turn may be. -/
  values : List (String → Bool) := []
  /-- Whether more values may follow, each like the last one. -/
  repeats : Bool := false

/-- How the reading of a command line can end early. -/
inductive Stop where
  | help
  | version
  | misuse
deriving DecidableEq, Repr, Inhabited

/-- The arguments of a command as far as they are read. -/
structure Reading where
  /-- The options, each with its value; a flag has none. -/
  options : List (String × String) := []
  /-- An option whose value is due. -/
  awaiting : Option OptionForm := none
  /-- An option whose value, an argument of its own, has not been checked yet. That is done when the
  next option is read, or at the end. -/
  unchecked : Option (OptionForm × String) := none
  values : List String := []
  /-- Whether only values follow. -/
  escaped : Bool := false
deriving Inhabited

namespace Form

def named? (f : Form) (name : List Char) : Option OptionForm :=
  f.options.find? (·.name.toList == name)

def lettered? (f : Form) (letter : Char) : Option OptionForm :=
  f.options.find? (·.letter == some letter)

/-- What a value of a command may be, by the number of values before it. -/
def value? (f : Form) (index : Nat) : Option (String → Bool) :=
  f.values[index]?.or (if f.repeats then f.values.getLast? else none)

end Form

namespace Reading

/-- The value of an option, or nothing for a flag. -/
def value? (r : Reading) (name : String) : Option String :=
  (r.options.find? (·.1 == name)).map (·.2)

def hasFlag (r : Reading) (name : String) : Bool :=
  (r.value? name).isSome

/-- Adds an option, which must be the only one of its name and have a value that it accepts. -/
def add (r : Reading) (o : OptionForm) (value : String) : Except Stop Reading :=
  let accepted := match o.kind with
    | .value accepts => accepts value
    | _ => true
  if accepted && !r.hasFlag o.name then .ok { r with options := r.options ++ [(o.name, value)] }
  else .error .misuse

/-- Checks the value that has not been checked. -/
def settle (r : Reading) : Except Stop Reading :=
  if r.awaiting.isSome then .error .misuse
  else
    match r.unchecked with
    | none => .ok r
    | some (o, value) => { r with unchecked := none }.add o value

/-- Reads an option with what is attached to it. -/
def readOption (r : Reading) (o : OptionForm) (attached : Option (List Char)) :
    Except Stop Reading := do
  let r ← r.settle
  match o.kind, attached with
  | .value _, some value => r.add o (String.ofList value)
  | .value _, none => return { r with awaiting := some o }
  | _, some _ => throw .misuse
  | .flag, none => r.add o ""
  | .help, none => throw .help
  | .version, none => throw .version

/-- Reads the name of an option, and what follows it after an equals sign. -/
def readName (r : Reading) (f : Form) (cs : List Char) : Except Stop Reading :=
  match f.named? (cs.takeWhile (· != '=')) with
  | none => .error .misuse
  | some o =>
    r.readOption o (match cs.dropWhile (· != '=') with
      | _ :: value => some value
      | [] => none)

/-- Reads the letters of options. What follows the letter of one that has a value is its value. -/
def readLetters (r : Reading) (f : Form) : List Char → Except Stop Reading
  | [] => .ok r
  | letter :: letters =>
    match f.lettered? letter with
    | none => .error .misuse
    | some o =>
      match o.kind, letters with
      | .value _, '=' :: value => r.readOption o (some value)
      | .value _, [] => r.readOption o none
      | .value _, value => r.readOption o (some value)
      | _, letters => do (← r.readOption o none).readLetters f letters

/-- Reads a value of the command. -/
def readValue (r : Reading) (f : Form) (text : String) : Except Stop Reading := do
  let r ← r.settle
  match f.value? r.values.length with
  | none => throw .misuse
  | some accepts =>
    if accepts text then return { r with values := r.values ++ [text] } else throw .misuse

/-- Reads an argument. -/
def read (r : Reading) (f : Form) (argument : String) : Except Stop Reading :=
  if r.escaped then r.readValue f argument
  else
    match r.awaiting, argument.toList with
    | _, ['-', '-'] => .ok { r with escaped := true }
    | none, '-' :: '-' :: cs => r.readName f cs
    | none, '-' :: c :: cs => r.readLetters f (c :: cs)
    | none, _ => r.readValue f argument
    | some _, '-' :: _ :: _ => .error .misuse
    | some o, _ => .ok { r with awaiting := none, unchecked := some (o, argument) }

/-- Ends the reading, after which there must be a value for each that the form asks for. -/
def finish (r : Reading) (f : Form) : Except Stop Reading := do
  let r ← r.settle
  if r.values.length < f.values.length then throw .misuse else return r

end Reading

namespace Form

/-- Reads all the arguments of a command. -/
def read (f : Form) (arguments : List String) : Except Stop Reading := do
  let r : Reading ← arguments.foldlM (fun r argument => Reading.read r f argument) {}
  r.finish f

/-- Reads the arguments up to the name of a command, which is given with what follows it. -/
def readToCommand (f : Form) (isCommand : String → Bool) :
    List String → Reading → Except Stop (Reading × List String)
  | [], r => .ok (r, [])
  | argument :: arguments, r => do
    if r.awaiting.isNone && !r.escaped && isCommand argument then
      return (r, argument :: arguments)
    else f.readToCommand isCommand arguments (← r.read f argument)

end Form

end DepTriage.CommandLine
