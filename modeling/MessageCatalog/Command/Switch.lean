/-!
# Switches of a command line

A command line is a list of words. A word that starts with a hyphen is one or more switches; some
switches take a value, which stands in the same word or is the next one. The other words are
operands, and so is every word behind two hyphens that stand alone. Words are taken from the left,
and the first that is wrong, or that asks for help, decides.
-/

namespace MessageCatalog.Command

/-- A switch that a command knows. -/
structure Switch where
  long : String
  short : Option Char := none
  takesValue : Bool := true
  /-- It may be given more than once. -/
  repeatable : Bool := false
  /-- The values that can be given. -/
  accepts : String → Bool := fun _ => true

/-- Why the words of a command line are not taken to their end. -/
inductive Stop where
  /-- The words make no sense. -/
  | usage
  | help
  | version
  deriving DecidableEq, Repr

/-- The switches and operands of a command. -/
structure Grammar where
  switches : List Switch
  /-- How many operands there may be, if that is limited. -/
  operandLimit : Option Nat := none
  acceptsOperand : String → Bool := fun _ => true
  /-- The words that begin another command. -/
  commands : List String := []
  /-- The command can be asked for its version. -/
  hasVersion : Bool := false

/-- What is given on a command line. -/
structure Given where
  /-- The switches by their long names, with their values. -/
  switches : List (String × String) := []
  operands : List String := []
  deriving Repr

namespace Given

/-- The values of a switch. -/
def values (g : Given) (long : String) : List String :=
  (g.switches.filter (·.1 == long)).map (·.2)

/-- The value of a switch that is given at most once. -/
def value? (g : Given) (long : String) : Option String :=
  (g.values long).head?

/-- The switch is given. -/
def has (g : Given) (long : String) : Bool :=
  g.switches.any (·.1 == long)

end Given

namespace Grammar

/-- Give a switch a value. -/
def give (s : Switch) (value : String) (given : Given) : Except Stop Given :=
  if (given.has s.long && !s.repeatable) || !s.accepts value then .error .usage
  else .ok { given with switches := given.switches ++ [(s.long, value)] }

/-- Give an operand. -/
def giveOperand (g : Grammar) (word : String) (given : Given) : Except Stop Given :=
  if (g.operandLimit.any (· ≤ given.operands.length)) || !g.acceptsOperand word then .error .usage
  else .ok { given with operands := given.operands ++ [word] }

/-- What a word starts with: two hyphens, or one and something behind it. -/
inductive Shape where
  /-- Two hyphens alone. -/
  | separator
  /-- The name of a switch behind two hyphens, and a value behind an equals sign. -/
  | long (name : String) (value? : Option String)
  /-- The letters of switches behind one hyphen. -/
  | short (letters : List Char)
  | operand

/-- The parts of a text in front of an equals sign and behind it, if there is one. -/
def splitValue (s : List Char) : String × Option String :=
  let name := s.takeWhile (· != '=')
  (String.ofList name,
    if name.length < s.length then some (String.ofList (s.drop (name.length + 1))) else none)

def shape (word : String) : Shape :=
  match word.toList with
  | ['-', '-'] => .separator
  | '-' :: '-' :: s =>
    let (name, value?) := splitValue s
    .long name value?
  | '-' :: c :: s => .short (c :: s)
  | _ => .operand

/-- The word cannot be the value of the switch in front of it. -/
def startsSwitch (word : String) : Bool :=
  match shape word with
  | .operand => false
  | _ => true

/-- Take the letters behind a hyphen. The last switch may still need its value. -/
def takeLetters (g : Grammar) (given : Given) : List Char → Except Stop (Given × Option Switch)
  | [] => .ok (given, none)
  | c :: rest =>
    match g.switches.find? (·.short == some c) with
    | some s =>
      if s.takesValue then
        match rest with
        | [] => .ok (given, some s)
        | '=' :: value => do return (← give s (String.ofList value) given, none)
        | value => do return (← give s (String.ofList value) given, none)
      else do takeLetters g (← give s "" given) rest
    | none =>
      if c = 'h' then .error .help
      else if c = 'V' ∧ g.hasVersion then .error .version
      else .error .usage

/-- Take a switch by its long name. It may still need its value. -/
def takeLong (g : Grammar) (name : String) (value? : Option String) (given : Given) :
    Except Stop (Given × Option Switch) :=
  match g.switches.find? (·.long == name) with
  | some s =>
    match s.takesValue, value? with
    | true, some value => do return (← give s value given, none)
    | true, none => .ok (given, some s)
    | false, none => do return (← give s "" given, none)
    | false, some _ => .error .usage
  | none =>
    if value?.isSome then .error .usage
    else if name = "help" then .error .help
    else if name = "version" ∧ g.hasVersion then .error .version
    else .error .usage

/-- Take the words of a command, up to the word that begins another command. -/
def take (g : Grammar) (given : Given) : List String → Except Stop (Given × List String)
  | [] => .ok (given, [])
  | word :: rest =>
    match shape word with
    | .separator => do return (← rest.foldlM (fun given word => g.giveOperand word given) given, [])
    | .operand =>
      if g.commands.contains word then .ok (given, word :: rest)
      else do take g (← g.giveOperand word given) rest
    | .long name value? => do
      match ← g.takeLong name value? given, rest with
      | (given, none), rest => take g given rest
      | (given, some s), value :: rest =>
        if startsSwitch value then .error .usage else take g (← give s value given) rest
      | (_, some _), [] => .error .usage
    | .short letters => do
      match ← g.takeLetters given letters, rest with
      | (given, none), rest => take g given rest
      | (given, some s), value :: rest =>
        if startsSwitch value then .error .usage else take g (← give s value given) rest
      | (_, some _), [] => .error .usage

end Grammar

end MessageCatalog.Command
