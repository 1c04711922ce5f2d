/-
  ReviewRota — command line arguments.

  Arguments are options and words.  An option has a long name after two dashes or
  a name of one letter after one; its value is the next argument, or stands in
  the same one: behind an equals sign after a long name, directly behind a
  letter.  Letters without values may stand together behind one dash.  After `--`
  all arguments are words, and so is a single dash or an empty argument.

  * `Switch` describes an option;
  * `Given` is what was read: the options with their values in order, and the
    words; `Given.last?` is the value of an option that counts;
  * `readArguments` reads arguments; it fails on an unknown option, a missing
    value, or a value for an option that has none.
-/
namespace ReviewRota.Command

/-- An option; `valued` ones have a value. -/
structure Switch where
  long : String
  letter : Option Char := none
  valued : Bool := false
  deriving DecidableEq, Repr

/-- Options, by their long names, with their values, and words. -/
structure Given where
  options : List (String × String) := []
  words : List String := []
  deriving DecidableEq, Repr

namespace Given

/-- What is given with more options before it. -/
def after (options : List (String × String)) (g : Given) : Given :=
  { g with options := options ++ g.options }

/-- What is given with a word before it. -/
def afterWord (word : String) (g : Given) : Given := { g with words := word :: g.words }

/-- The last value of an option. -/
def last? (g : Given) (long : String) : Option String := g.options.reverse.lookup long

/-- The option is given. -/
def has (g : Given) (long : String) : Bool := (g.last? long).isSome

end Given

/-- The value of an option: the one in the same argument, or the next
    argument. -/
def valueOf (attached : Option String) (rest : List String) : Option (String × List String) :=
  match attached, rest with
  | some v, rest => some (v, rest)
  | none, v :: rest => some (v, rest)
  | none, [] => none

/-- An option with its value, if it has one. -/
def takeSwitch (s : Switch) (attached : Option String) (rest : List String) :
    Option ((String × String) × List String) :=
  if s.valued then (valueOf attached rest).map fun v => ((s.long, v.1), v.2)
  else if attached.isSome then none
  else some ((s.long, ""), rest)

/-- The option of a long name. -/
def takeLong (switches : List Switch) (arg : String) (rest : List String) :
    Option (List (String × String) × List String) := do
  let cs := arg.toList
  let name := String.ofList (cs.takeWhile (· != '='))
  let attached := (cs.dropWhile (· != '=')).tail?.map String.ofList
  let s ← switches.find? (·.long = name)
  let (o, rest) ← takeSwitch s attached rest
  return ([o], rest)

/-- The options of letters that stand together. -/
def takeLetters (switches : List Switch) : List Char → List String →
    Option (List (String × String) × List String)
  | [], rest => some ([], rest)
  | c :: cs, rest =>
    match switches.find? (·.letter = some c) with
    | none => none
    | some s =>
      if s.valued then
        (takeSwitch s (if cs.isEmpty then none else some (String.ofList cs)) rest).map fun t =>
          ([t.1], t.2)
      else (takeLetters switches cs rest).map fun t => ((s.long, "") :: t.1, t.2)

/-- The options that an argument begins, and the arguments behind them. -/
def takeOption (switches : List Switch) (arg : String) (rest : List String) :
    Option (List (String × String) × List String) :=
  match arg.toList with
  | '-' :: '-' :: _ => takeLong switches arg rest
  | _ :: letters => takeLetters switches letters rest
  | [] => none

/-- The argument is an option. -/
def isOption (arg : String) : Bool :=
  match arg.toList with
  | '-' :: _ :: _ => true
  | _ => false

/-- The arguments read; unless options may be `mixed` with words, the first word
    ends them.  The second argument bounds the number of arguments. -/
def readWithin (switches : List Switch) (mixed : Bool) : Nat → List String → Option Given
  | 0, _ => none
  | _ + 1, [] => some {}
  | n + 1, arg :: rest =>
    if arg = "--" then some { words := rest }
    else if isOption arg then
      match takeOption switches arg rest with
      | some (options, rest) => (readWithin switches mixed n rest).map (Given.after options)
      | none => none
    else if mixed then (readWithin switches mixed n rest).map (Given.afterWord arg)
    else some { words := arg :: rest }

/-- The arguments read. -/
def readArguments (switches : List Switch) (mixed : Bool) (args : List String) : Option Given :=
  readWithin switches mixed (args.length + 1) args

example : readArguments [⟨"--port", some 'p', true⟩, ⟨"--verbose", some 'v', false⟩] true
      ["a", "-vp1", "--port=2", "--", "-v"] =
    some ⟨[("--verbose", ""), ("--port", "1"), ("--port", "2")], ["a", "-v"]⟩ := by decide +kernel

end ReviewRota.Command
