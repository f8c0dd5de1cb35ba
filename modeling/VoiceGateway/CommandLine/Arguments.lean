/-!
# Command line arguments

The words of a command line are operands and options. An option is named by a
word with two dashes and either takes a value, after an equals sign or in the next
word, or is a bare switch. Options and operands may be mixed, no option is given
twice, and after a word of two dashes alone all words are operands.
-/

namespace VoiceGateway

/-- What one word of a command line is. -/
inductive Word where
  | operand (s : String)
  | option (name : String) (value : Option String)
  /-- A word with one dash; no command has options of this form. -/
  | short
  /-- Two dashes alone. -/
  | dashes
deriving DecidableEq, Repr

namespace Word

/-- The name of an option and the value behind an equals sign. -/
def ofOption (cs : List Char) : Word :=
  let name := String.ofList (cs.takeWhile (· != '='))
  match cs.dropWhile (· != '=') with
  | [] => .option name none
  | _ :: value => .option name (some (String.ofList value))

def ofText (s : String) : Word :=
  match s.toList with
  | ['-', '-'] => .dashes
  | '-' :: '-' :: cs => ofOption cs
  | '-' :: _ :: _ => .short
  | _ => .operand s

end Word

/-- What an option takes. -/
inductive OptionKind where
  | switch
  | value
deriving DecidableEq, Repr

/-- The options and operands of a command. -/
structure Layout where
  options : List (String × OptionKind) := []
  operands : Nat := 0
deriving DecidableEq, Repr

/-- The words of a command line, sorted out; a switch has an empty value. -/
structure Arguments where
  options : List (String × String) := []
  operands : List String := []
deriving DecidableEq, Repr

namespace Arguments

/-- The value of an option, if it is given. -/
def value? (a : Arguments) (name : String) : Option String := a.options.lookup name

/-- Whether an option is given. -/
def has (a : Arguments) (name : String) : Bool := (a.value? name).isSome

/-- Adds an option, which must not be there yet. -/
def add (a : Arguments) (name value : String) : Option Arguments :=
  if a.has name then none else some { a with options := a.options ++ [(name, value)] }

end Arguments

namespace Layout

/-- Sorts out words after those in `a`. -/
def gatherOnto (l : Layout) (a : Arguments) : List String → Option Arguments
  | [] => some a
  | w :: ws =>
    match Word.ofText w with
    | .operand s => gatherOnto l { a with operands := a.operands ++ [s] } ws
    | .dashes => some { a with operands := a.operands ++ ws }
    | .short => none
    | .option name value =>
      match l.options.lookup name, value with
      | none, _ => none
      | some .switch, some _ => none
      | some .switch, none => (a.add name "").bind fun a => gatherOnto l a ws
      | some .value, some v => (a.add name v).bind fun a => gatherOnto l a ws
      | some .value, none =>
        match ws with
        | [] => none
        | v :: ws =>
          -- What looks like an option is never the value of another one.
          match Word.ofText v with
          | .operand v => (a.add name v).bind fun a => gatherOnto l a ws
          | _ => none

/-- Sorts out the words of a command; there have to be as many operands as the
command takes. -/
def gather (l : Layout) (words : List String) : Option Arguments :=
  (l.gatherOnto {} words).filter fun a => a.operands.length == l.operands

end Layout

end VoiceGateway
