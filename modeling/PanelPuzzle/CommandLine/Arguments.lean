import PanelPuzzle.CommandLine.Options
import PanelPuzzle.Text.Pieces
/-!
# Command-line arguments

Arguments are read one after the other.  An option is given by its name after two dashes, or by its
letter after one; letters can be put together.  A value follows as the next argument, after an
equals sign, or right after a letter.  The first argument that cannot be understood ends the
reading, and so does a question about the program, even if what follows could not be understood.

* `Refusal`, `Stop` — why the reading ends without options.
* `Progress` — how far the arguments have been read, and the step over one of them.
* `Options.ofArguments` — the options that arguments ask for.
-/

namespace PanelPuzzle.CommandLine

/-! ## Refusals -/

/-- Why arguments are refused. -/
inductive Refusal where
  /-- No option is meant by this argument. -/
  | unexpected (argument : String)
  /-- The option has no value where it needs one. -/
  | missingValue (name : OptionName)
  /-- The option has a value where it takes none, or one that it does not take. -/
  | invalidValue (name : OptionName) (value : String)
  /-- The option was given before. -/
  | repeated (name : OptionName)
  /-- The two options exclude each other. -/
  | conflict (name other : OptionName)

/-- The wording of a refusal. -/
def Refusal.message : Refusal → String
  | unexpected argument => s!"unexpected argument '{argument}' found"
  | missingValue name => s!"a value is required for '--{name.long}' but none was supplied"
  | invalidValue name value => s!"invalid value '{value}' for '--{name.long}'"
  | repeated name => s!"the argument '--{name.long}' cannot be used multiple times"
  | conflict name other =>
    s!"the argument '--{name.long}' cannot be used with '--{other.long}'"

/-- Why reading ends without options. -/
inductive Stop where
  /-- There was a question for help. -/
  | help
  /-- There was a question for the version, in full or in short. -/
  | version (full : Bool)
  /-- The arguments are refused. -/
  | refused (why : Refusal)

/-! ## Reading -/

/-- How far the arguments have been read. -/
structure Progress where
  options : Options := {}
  /-- The options that were given. -/
  given : List OptionName := []
  /-- The option that waits for its value. -/
  pending : Option OptionName := none
  /-- Whether no option may follow any more. -/
  isClosed : Bool := false

namespace Progress

/-- Sets an option, which must not have been given before. -/
def set (p : Progress) (name : OptionName) (value : String) : Except Stop Progress :=
  if p.given.contains name then .error (.refused (.repeated name))
  else match p.options.set? name value with
    | none => .error (.refused (.invalidValue name value))
    | some options => .ok { p with options, given := name :: p.given, pending := none }

/-- Meets the name of an option, and its value if that came together with it. -/
def meet (p : Progress) (name : OptionName) (value : Option String) (isLong : Bool) :
    Except Stop Progress :=
  match p.pending, name.takesValue, value with
  | some waiting, _, _ => .error (.refused (.missingValue waiting))
  | none, true, some value => p.set name value
  | none, true, none => .ok { p with pending := some name }
  | none, false, some value => .error (.refused (.invalidValue name value))
  | none, false, none =>
    match name with
    | .help => .error .help
    | .version => .error (.version isLong)
    | _ => p.set name ""

/-- Meets letters that were put together.  What follows the letter of an option with a value is
that value. -/
def letters (p : Progress) : List Char → Except Stop Progress
  | [] => .ok p
  | c :: rest =>
    match OptionName.ofLetter? c with
    | none => .error (.refused (.unexpected (String.ofList ['-', c])))
    | some name =>
      if name.takesValue then
        let value := match rest with
          | [] => none
          | '=' :: rest => some (String.ofList rest)
          | rest => some (String.ofList rest)
        p.meet name value false
      else
        match p.meet name none false with
        | .error stop => .error stop
        | .ok p => letters p rest

/-- Meets the name of an option, with a value after the first equals sign if there is one. -/
def longName (p : Progress) (name : List Char) : Except Stop Progress :=
  let (before, value) := match Text.cut? '=' name with
    | some (before, after) => (before, some (String.ofList after))
    | none => (name, none)
  match OptionName.ofLong? (String.ofList before) with
  | none => .error (.refused (.unexpected ("--" ++ String.ofList name)))
  | some name => p.meet name value true

/-- Meets an argument that is neither a name nor letters. -/
def plain (p : Progress) (argument : String) : Except Stop Progress :=
  match p.pending with
  | some name => p.set name argument
  | none => .error (.refused (.unexpected argument))

/-- Reads one argument. -/
def step (p : Progress) (argument : String) : Except Stop Progress :=
  if p.isClosed then .error (.refused (.unexpected argument))
  else match argument.toList with
    | ['-', '-'] =>
      match p.pending with
      | some waiting => .error (.refused (.missingValue waiting))
      | none => .ok { p with isClosed := true }
    | '-' :: '-' :: name => p.longName name
    | '-' :: c :: rest => p.letters (c :: rest)
    | _ => p.plain argument

/-- Reads arguments one after the other. -/
def steps : List String → Progress → Except Stop Progress
  | [], p => .ok p
  | argument :: rest, p =>
    match p.step argument with
    | .error stop => .error stop
    | .ok p => steps rest p

/-- The pairs of options that exclude each other. -/
def conflicts : List (OptionName × OptionName) :=
  [(.check, .count), (.batch, .count), (.batch, .check)]

/-- The options at the end of the arguments. -/
def finish (p : Progress) : Except Stop Options :=
  match p.pending with
  | some waiting => .error (.refused (.missingValue waiting))
  | none =>
    match conflicts.find? fun (a, b) => p.given.contains a && p.given.contains b with
    | some (a, b) => .error (.refused (.conflict a b))
    | none => .ok p.options

end Progress

/-- **The options that arguments ask for.** -/
def Options.ofArguments (arguments : List String) : Except Stop Options :=
  match Progress.steps arguments {} with
  | .error stop => .error stop
  | .ok p => p.finish

end PanelPuzzle.CommandLine
