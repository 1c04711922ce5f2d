/-
  ReviewRota — handlers.

  A tag may name an event, and behind an equals sign what handles it: a name,
  arguments in parentheses, or both, or else one value.  Arguments and values are
  written out.

  * `handlerArguments` is the part of a handler that has to be a value;
  * `handlerObjection?` is the complaint about a handler.
-/
import ReviewRota.Console.Handler.Value

namespace ReviewRota.Console

/-- The arguments of a handler: those in parentheses, none behind a bare name, and
    otherwise the whole text, which is a value. -/
def handlerArguments (cs : List Char) : List Char :=
  let behind := cs.dropWhile fun c => Text.isNameChar c || c == '.'
  match behind with
  | [] => "()".toList
  | '(' :: r => if r.getLast? == some ')' && !r.contains '\n' then behind else cs
  | _ => cs

/-- The complaint about a handler. -/
def handlerObjection? (handler : List Char) : Option String :=
  let shown (cs : List Char) : String := Text.quoted (String.ofList cs)
  let arguments := handlerArguments (Text.trimEnds Text.isBlank handler)
  (valueObjection? arguments).map fun
    | .unreadable complaint =>
      "error parsing " ++ shown arguments ++ " in " ++ shown handler ++ "; " ++ complaint
    | .worthless t => "error parsing " ++ shown handler ++ "; " ++ t.text

example : handlerObjection? "a b".toList = some "error parsing 'a b' in 'a b'; invalid syntax" ∧
    handlerObjection? "app.f('x', 1)".toList = none := by decide +kernel
example : handlerObjection? "f(-1+2j, (1,))".toList = none ∧ handlerObjection? "f({set()})".toList =
    some "error parsing 'f(\x7bset()\x7d)'; unhashable type: 'set'" := by decide +kernel

end ReviewRota.Console
