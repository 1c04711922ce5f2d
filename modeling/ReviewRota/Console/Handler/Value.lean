/-
  ReviewRota — written values.

  A value is written out: numbers, texts, the words `None`, `True` and `False`, and
  tuples, sets and tables of them; the empty set is `set()`.  A number may have a sign,
  and a complex one is the sum or the difference of a real and an imaginary one.
  Members of sets and keys of tables are neither sets nor tables, nor hold any.  All
  other expressions can be read, but are no values.

  * `Worth` is what an expression amounts to, and `Trouble` why it is no value;
  * `Expression` is an expression that has been read, and `expression` reads one;
    where that is not possible the complaint says why;
  * `valueObjection?` is the objection to a text that should be a value.
-/
import ReviewRota.Console.Handler.Token

namespace ReviewRota.Console

/-! ## Values -/

/-- What a value is to an expression around it: a number, perhaps with a sign; or
    another value, with its kind if it cannot be a member of a set. -/
inductive Worth where
  | number (n : Number)
  | signed (n : Number)
  | other (loose : Option String)
  deriving DecidableEq, Repr

/-- Why an expression is no value: it is not written out, entries are spread over a
    table, a set has a member of the given kind, or a number is too large to be part
    of a complex one. -/
inductive Trouble where
  | unwritten
  | spread
  | unhashable (kind : String)
  | overflow
  deriving DecidableEq, Repr

/-- What is told of an expression that is no value. -/
def Trouble.text : Trouble → String
  | unwritten => "malformed node or string on line 1"
  | spread => "malformed node or string: None"
  | unhashable kind => "unhashable type: '" ++ kind ++ "'"
  | overflow => "int too large to convert to float"

namespace Worth

/-- The kind of the value if it cannot be a member of a set. -/
def loose? : Worth → Option String
  | other loose => loose
  | _ => none

/-- The number, perhaps with a sign. -/
def number? : Worth → Option Number
  | number n | signed n => some n
  | other _ => none

/-- The value with a sign in front of it. -/
def withSign : Except Trouble Worth → Except Trouble Worth
  | .ok (number n) => .ok (signed n)
  | _ => .error .unwritten

/-- The least number that is too large for a fraction. -/
def tooLarge : Nat := Nat.pow 2 1024 - Nat.pow 2 970

/-- The sum or the difference of a real and an imaginary number. -/
def complex (a b : Except Trouble Worth) : Except Trouble Worth :=
  match a.toOption.bind number?, b with
  | some (.whole n), .ok (number .imaginary) =>
    if tooLarge ≤ n then .error .overflow else .ok (other none)
  | some .real, .ok (number .imaginary) => .ok (other none)
  | _, _ => .error .unwritten

/-- The value, which is to be a member of a set. -/
def asMember (w : Worth) : Except Trouble Unit :=
  match w.loose? with
  | some kind => .error (.unhashable kind)
  | none => .ok ()

/-- A tuple of values; it holds what cannot be a member of a set if one of them does. -/
def tuple (ws : List (Except Trouble Worth)) : Except Trouble Worth := do
  return other ((← ws.mapM id).findSome? loose?)

/-- A set of values. -/
def set (ws : List (Except Trouble Worth)) : Except Trouble Worth := do
  ws.forM fun w => do asMember (← w)
  return other (some "set")

/-- A table of keys and values. -/
def table (entries : List (Except Trouble Worth × Except Trouble Worth)) :
    Except Trouble Worth := do
  entries.forM fun e => do
    let key ← e.1
    let _ ← e.2
    asMember key
  return other (some "dict")

end Worth

/-! ## Expressions -/

/-- An expression that has been read: the name of its kind, what it amounts to, the
    name, if it is one, and whether it stands in brackets. -/
structure Expression where
  kind : String
  worth : Except Trouble Worth := .error .unwritten
  name : Option String := none
  isGrouped : Bool := false

/-- The word that an expression is. -/
def Expression.word? (e : Expression) : Option String := if e.isGrouped then none else e.name

/-- An operation that is not carried out. -/
def Expression.computed (kind : String) : Expression := { kind }

/-- Why an expression ends early: the text is over although brackets are open, a token
    does not fit, or a token cannot be read. -/
inductive Halt where
  | over
  | misfit (complaint : String)
  | flawed (complaint : String)

/-- A reader of something at the front of some tokens. -/
abbrev TokenReader (α : Type) := List Token → Except Halt (α × List Token)

/-- A token that does not fit, and nothing more is known. -/
def misfit : Except Halt α := .error (.misfit "invalid syntax")

/-- The token at the front; within brackets there must be one. -/
def peek (within : Bool) : List Token → Except Halt (Option Token)
  | .slash :: _ => .error (.flawed "unexpected character after line continuation character")
  | .indent :: _ => .error (.flawed "unexpected indent")
  | t :: _ => .ok (some t)
  | [] => if within then .error .over else .ok none

/-- The sign. -/
def Token.ofSign (s : String) : Token := .sign s.toList

/-- The word. -/
def Token.ofWord (w : String) : Token := .word w.toList

/-- Words that are values. -/
def valueWords : List String := ["True", "False", "None"]

/-- Words that are neither names nor values. -/
def keywords : List String :=
  ["and", "as", "assert", "async", "await", "break", "class", "continue", "def", "del", "elif",
    "else", "except", "finally", "for", "from", "global", "if", "import", "in", "is", "lambda",
    "nonlocal", "not", "or", "pass", "raise", "return", "try", "while", "with", "yield"]

/-- Words that are names in some places only. -/
def softKeywords : List String := ["match", "case", "_", "type"]

/-- The operator at the front of the tokens: the kind of expression that it makes, whether
    it adds or subtracts, whether a `not` may follow, and what is behind it. -/
def takeOperator? (ts : List Token) : Option (String × Bool × Bool × List Token) :=
  let compares : List (List Token) :=
    ["<", ">", "<=", ">=", "==", "!="].map (fun s => [Token.ofSign s]) ++
      [["in"], ["not", "in"], ["is", "not"], ["is"]].map fun ws => ws.map Token.ofWord
  match ts with
  | .sign ['+'] :: rest | .sign ['-'] :: rest => some ("expression", true, false, rest)
  | _ =>
    if ["*", "/", "//", "%", "@", "**", "<<", ">>", "&", "|", "^"].any fun s =>
        ts.head? = some (.ofSign s) then
      some ("expression", false, false, ts.drop 1)
    else if ["and", "or"].any fun w => ts.head? = some (.ofWord w) then
      some ("expression", false, true, ts.drop 1)
    else
      (compares.find? fun op => op.isPrefixOf ts).map fun op =>
        ("comparison", false, false, ts.drop op.length)

/-- A complaint about two expressions side by side. -/
def sideBySide (within : Bool) (start : List Token) (e : Expression) : String :=
  let isCommand := match start with
    | .word w :: .text .. :: _ => !(keywords ++ valueWords).contains (String.ofList w)
    | .word w :: _ => softKeywords.contains (String.ofList w)
    | _ => false
  let usual := if within && !isCommand then "invalid syntax. Perhaps you forgot a comma?"
    else "invalid syntax"
  match e.word? with
  | some w =>
    if w = "print" ∨ w = "exec" then
      "Missing parentheses in call to '" ++ w ++ "'. Did you mean " ++ w ++ "(...)?"
    else usual
  | none => usual

/-- A complaint about an equals sign behind an expression in brackets. -/
def assigned (e : Expression) : String :=
  match e.word? with
  | some w =>
    if valueWords.contains w then "invalid syntax"
    else "invalid syntax. Maybe you meant '==' or ':=' instead of '='?"
  | none =>
    if e.kind = "tuple" then "invalid syntax"
    else "cannot assign to " ++ e.kind ++ " here. Maybe you meant '==' instead of '='?"

/-- The texts at the front, which are one, and what is behind them. -/
def takeTexts (kind : TextKind) : List Token → Except Halt (TextKind × List Token)
  | .text next flaw :: ts =>
    match flaw with
    | some complaint => .error (.flawed complaint)
    | none =>
      if (kind == .bytes) != (next == .bytes) then
        .error (.flawed "cannot mix bytes and nonbytes literals")
      else takeTexts (if next = .pattern then .pattern else kind) ts
  | ts => .ok (kind, ts)

/-- A word as an expression: a value, or a name. -/
def ofWord (w : String) : Expression :=
  if valueWords.contains w then { kind := w, worth := .ok (.other none), name := some w }
  else { kind := "name", name := some w }

/-- A number as an expression. -/
def ofNumber : Number → Except Halt Expression
  | .overlong digits => .error (.flawed ("Exceeds the limit (4300 digits) for integer string " ++
      "conversion: value has " ++ toString digits ++ " digits; use sys.set_int_max_str_digits() " ++
      "to increase the limit - Consider hexadecimal for huge integer literals to avoid decimal " ++
      "conversion limits."))
  | n => .ok { kind := "literal", worth := .ok (.number n) }

/-- Texts as an expression; one that is filled in is not written out. -/
def ofTexts : TextKind → Expression
  | .pattern => .computed "f-string expression"
  | _ => { kind := "literal", worth := .ok (.other none) }

/-- What stands in round brackets: nothing or more than one is a tuple. -/
def ofMembers (es : List Expression) (isTuple : Bool) : Expression :=
  match es, isTuple with
  | [e], false => { e with isGrouped := true }
  | es, _ => { kind := "tuple", worth := Worth.tuple (es.map Expression.worth) }

/-- An entry between braces: a member of a set, or a key with its value. -/
inductive Entry where
  | member (e : Expression)
  | pair (key value : Except Trouble Worth)

/-- The entry is a member of a set. -/
def Entry.isMember : Entry → Bool
  | member _ => true
  | pair .. => false

/-- What stands in braces. -/
def ofEntries (entries : List Entry) : Expression :=
  match entries with
  | .member _ :: _ =>
    { kind := "set display", worth := Worth.set (entries.filterMap fun
        | .member e => some e.worth
        | .pair .. => none) }
  | _ =>
    { kind := "dict literal", worth := Worth.table (entries.filterMap fun
        | .member _ => none
        | .pair key value => some (key, value)) }

mutual

/-- An operand: signs in front, and accesses and calls behind.  The first argument
    bounds the depth; `mayNegate` tells whether a `not` may stand in front. -/
def operand : Nat → Bool → Bool → TokenReader Expression
  | 0, _, _, _ => misfit
  | n + 1, within, mayNegate, ts => do
    match ← peek within ts with
    | some (.sign ['+']) | some (.sign ['-']) =>
      let (e, rest) ← operand n within false (ts.drop 1)
      return ({ kind := "expression", worth := Worth.withSign e.worth }, rest)
    | some (.sign ['~']) =>
      let (_, rest) ← operand n within false (ts.drop 1)
      return (.computed "expression", rest)
    | some (.word ['n', 'o', 't']) =>
      if mayNegate then
        let (_, rest) ← operand n within true (ts.drop 1)
        return (.computed "expression", rest)
      else misfit
    | some (.word ['a', 'w', 'a', 'i', 't']) =>
      let (e, rest) ← atom n within (ts.drop 1)
      let (_, rest) ← behindAtom n within e rest
      return (.computed "await expression", rest)
    | _ =>
      let (e, rest) ← atom n within ts
      behindAtom n within e rest

/-- An operand without what stands before and behind it. -/
def atom : Nat → Bool → TokenReader Expression
  | 0, _, _ => misfit
  | n + 1, within, ts => do
    match ← peek within ts with
    | some (.word w) =>
      let w := String.ofList w
      if keywords.contains w then misfit else return (ofWord w, ts.drop 1)
    | some (.number k) => return (← ofNumber k, ts.drop 1)
    | some (.text kind _) =>
      let (kind, rest) ← takeTexts kind ts
      let _ ← peek within rest
      return (ofTexts kind, rest)
    | some (.sign s) =>
      if s = "...".toList then
        return ({ kind := "ellipsis", worth := .ok (.other none) }, ts.drop 1)
      else if s = ['('] then
        let (es, isTuple, rest) ← members n false (ts.drop 1)
        return (ofMembers es isTuple, rest)
      else if s = ['\x7b'] then
        let (es, rest) ← entries n none (ts.drop 1)
        return (ofEntries es, rest)
      else misfit
    | _ => misfit

/-- An operand with the accesses and calls behind it; only a call for the empty set is
    a value. -/
def behindAtom : Nat → Bool → Expression → TokenReader Expression
  | 0, _, _, _ => misfit
  | n + 1, within, e, ts => do
    match ← peek within ts with
    | some (.sign ['.']) =>
      match ← peek within (ts.drop 1) with
      | some (.word w) =>
        if keywords.contains (String.ofList w) then misfit
        else behindAtom n within (.computed "attribute") (ts.drop 2)
      | _ => misfit
    | some (.sign ['(']) =>
      let rest ← callArguments n (ts.drop 1)
      let isSet := e.name = some "set" && (ts.drop 1).head? = some (.sign [')'])
      let worth := if isSet then .ok (.other (some "set")) else .error .unwritten
      behindAtom n within { kind := "function call", worth } rest
    | _ => return (e, ts)

/-- The operators and operands behind one. -/
def operands : Nat → Bool → Expression → TokenReader Expression
  | 0, _, _, _ => misfit
  | n + 1, within, e, ts => do
    let _ ← peek within ts
    match takeOperator? ts with
    | some (kind, adds, mayNegate, rest) =>
      let (f, rest) ← operand n within mayNegate rest
      let worth := if adds then Worth.complex e.worth f.worth else .error .unwritten
      operands n within { kind, worth } rest
    | none => return (e, ts)

/-- Operands with operators between them. -/
def disjunction : Nat → Bool → TokenReader Expression
  | 0, _, _ => misfit
  | n + 1, within, ts => do
    let (e, rest) ← operand n within true ts
    operands n within e rest

/-- An expression: operands with operators between them, and perhaps a choice; or a
    nameless function. -/
def expression : Nat → Bool → TokenReader Expression
  | 0, _, _ => misfit
  | n + 1, within, ts => do
    if (← peek within ts) = some (.ofWord "lambda") then
      let rest ← parameters n within (ts.drop 1)
      let (_, rest) ← expression n within rest
      return (.computed "lambda", rest)
    let (e, rest) ← disjunction n within ts
    match ← peek within rest with
    | some (.word ['i', 'f']) =>
      let (_, rest) ← disjunction n within (rest.drop 1)
      if (← peek within rest) = some (.ofWord "else") then
        let (_, rest) ← expression n within (rest.drop 1)
        return (.computed "conditional expression", rest)
      else throw (.misfit "expected 'else' after 'if' expression")
    | _ => return (e, rest)

/-- What is behind the parameters of a nameless function and the colon behind them. -/
def parameters : Nat → Bool → List Token → Except Halt (List Token)
  | 0, _, _ => misfit
  | n + 1, within, ts => do
    match ← peek within ts with
    | some (.sign [':']) => return ts.drop 1
    | some (.sign ['*']) | some (.sign ['/']) | some (.sign ['*', '*']) =>
      match ← peek within (ts.drop 1) with
      | some (.word _) => parameters n within (ts.drop 1)
      | _ => moreParameters n within (ts.drop 1)
    | some (.word w) =>
      if keywords.contains (String.ofList w) then misfit
      else
        match ← peek within (ts.drop 1) with
        | some (.sign ['=']) =>
          let (_, rest) ← expression n within (ts.drop 2)
          moreParameters n within rest
        | _ => moreParameters n within (ts.drop 1)
    | _ => misfit

/-- The same behind a parameter. -/
def moreParameters : Nat → Bool → List Token → Except Halt (List Token)
  | 0, _, _ => misfit
  | n + 1, within, ts => do
    match ← peek within ts with
    | some (.sign [':']) => return ts.drop 1
    | some (.sign [',']) => parameters n within (ts.drop 1)
    | _ => misfit

/-- What is behind the clauses that go over all members of something. -/
def clauses : Nat → List Token → Except Halt (List Token)
  | 0, _ => misfit
  | n + 1, ts => do
    match ← peek true ts with
    | some (.word ['f', 'o', 'r']) =>
      let rest ← targets n (ts.drop 1)
      let (_, rest) ← disjunction n true rest
      clauses n rest
    | some (.word ['i', 'f']) =>
      let (_, rest) ← disjunction n true (ts.drop 1)
      clauses n rest
    | _ => return ts

/-- What is behind the names in such a clause and the `in` behind them. -/
def targets : Nat → List Token → Except Halt (List Token)
  | 0, _ => misfit
  | n + 1, ts => do
    let (e, rest) ← operand n true false ts
    unless ["name", "attribute", "tuple"].contains e.kind do
      throw (.misfit ("cannot assign to " ++ e.kind))
    match ← peek true rest with
    | some (.sign [',']) => targets n (rest.drop 1)
    | some (.word ['i', 'n']) => return rest.drop 1
    | _ => misfit

/-- Complains about what follows an expression that began with the given tokens. -/
def complain : Nat → Bool → List Token → Expression → List Token → Except Halt α
  | 0, _, _, _, _ => misfit
  | n + 1, within, start, e, ts =>
    match expression n within ts with
    | .ok _ => .error (.misfit (sideBySide within start e))
    | .error (.misfit _) =>
      match operand n within true ts with
      | .ok _ => .error (.misfit (sideBySide within start e))
      | .error (.misfit _) =>
        match ts with
        | .sign ['='] :: rest =>
          match expression n within rest with
          | .ok _ => .error (.misfit (if within then assigned e else "invalid syntax"))
          | .error (.misfit _) => misfit
          | .error halt => .error halt
        | _ => misfit
      | .error halt => .error halt
    | .error halt => .error halt

/-- An expression in brackets, which may be given a name. -/
def named : Nat → TokenReader Expression
  | 0, _ => misfit
  | n + 1, ts => do
    let (e, rest) ← expression n true ts
    match ← peek true rest with
    | some (.sign [':', '=']) =>
      let (_, rest) ← expression n true (rest.drop 1)
      if e.kind = "name" ∧ !e.isGrouped then return (.computed "named expression", rest)
      else throw (.misfit ("cannot use assignment expressions with " ++ e.kind))
    | _ => return (e, rest)

/-- The members in round brackets up to the closing one; whether they are a tuple.
    `isLater` tells whether a member and a comma stand before them. -/
def members : Nat → Bool → List Token → Except Halt (List Expression × Bool × List Token)
  | 0, _, _ => misfit
  | n + 1, isLater, ts => do
    match ← peek true ts with
    | some (.sign [')']) => return ([], true, ts.drop 1)
    | some (.sign ['*']) => spread n isLater "starred" (ts.drop 1)
    | some (.sign ['*', '*']) =>
      if isLater then misfit else spread n false "double starred" (ts.drop 1)
    | _ =>
      let (e, rest) ← named n ts
      match ← peek true rest with
      | some (.sign [')']) => return ([e], isLater, rest.drop 1)
      | some (.sign [',']) =>
        let (es, _, rest) ← members n true (rest.drop 1)
        return (e :: es, true, rest)
      | some (.word ['f', 'o', 'r']) =>
        let rest ← clauses n rest
        match ← peek true rest with
        | some (.sign [')']) =>
          if isLater then misfit else return ([.computed "generator expression"], false, rest.drop 1)
        | _ => misfit
      | _ => complain n true ts e rest

/-- A member that is spread over the others, and those behind it. -/
def spread : Nat → Bool → String → List Token →
    Except Halt (List Expression × Bool × List Token)
  | 0, _, _, _ => misfit
  | n + 1, isLater, form, ts => do
    if (← peek true ts) = some (.ofSign ")") ∧ form = "starred" ∧ !isLater then
      throw (.misfit "Invalid star expression")
    let (_, rest) ← disjunction n true ts
    match ← peek true rest with
    | some (.sign [')']) =>
      if isLater then return ([.computed "starred"], true, rest.drop 1)
      else throw (.misfit ("cannot use " ++ form ++ " expression here"))
    | some (.sign [',']) =>
      if form = "starred" then
        let (es, _, rest) ← members n true (rest.drop 1)
        return (.computed "starred" :: es, true, rest)
      else misfit
    | _ => misfit

/-- The arguments of a call up to the closing bracket. -/
def callArguments : Nat → List Token → Except Halt (List Token)
  | 0, _ => misfit
  | n + 1, ts => do
    match ← peek true ts with
    | some (.sign [')']) => return ts.drop 1
    | _ =>
      let value := match ts with
        | .word _ :: .sign ['='] :: rest | .sign ['*'] :: rest | .sign ['*', '*'] :: rest => rest
        | ts => ts
      let (e, rest) ← named n value
      let rest ← clauses n rest
      match ← peek true rest with
      | some (.sign [')']) => return rest.drop 1
      | some (.sign [',']) => callArguments n (rest.drop 1)
      | _ => complain n true value e rest

/-- The entry of a table behind its key and a colon. -/
def entryValue : Nat → TokenReader Expression
  | 0, _ => misfit
  | n + 1, ts => do
    match ← peek true ts with
    | some (.sign ['\x7d']) | some (.sign [',']) =>
      throw (.misfit "expression expected after dictionary key and ':'")
    | _ => expression n true ts

/-- An entry of a table, or a member of a set; `isTable` tells which one it has to be, if
    another one stands before it. -/
def entry : Nat → Option Bool → TokenReader (Entry × Expression)
  | 0, _, _ => misfit
  | n + 1, isTable, ts => do
    match ← peek true ts with
    | some (.sign ['*', '*']) =>
      if isTable = some false then misfit
      else
        let (e, rest) ← disjunction n true (ts.drop 1)
        return ((.pair (.error .spread) (.error .spread), e), rest)
    | some (.sign ['*']) =>
      if isTable = some true then misfit
      else
        let (e, rest) ← disjunction n true (ts.drop 1)
        return ((.member (.computed "starred"), e), rest)
    | _ =>
      let (e, rest) ← named n ts
      match ← peek true rest with
      | some (.sign [':']) =>
        if isTable = some false ∨ e.kind = "named expression" then misfit
        else
          let (f, rest) ← entryValue n (rest.drop 1)
          return ((.pair e.worth f.worth, e), rest)
      | _ =>
        if isTable = some true then throw (.misfit "':' expected after dictionary key")
        else return ((.member e, e), rest)

/-- The entries of a table, or the members of a set. -/
def entries : Nat → Option Bool → TokenReader (List Entry)
  | 0, _, _ => misfit
  | n + 1, isTable, ts => do
    match ← peek true ts with
    | some (.sign ['\x7d']) => return ([], ts.drop 1)
    | _ =>
      let ((entry, e), rest) ← entry n isTable ts
      match ← peek true rest with
      | some (.sign ['\x7d']) => return ([entry], rest.drop 1)
      | some (.sign [',']) =>
        let (more, rest) ← entries n (some !entry.isMember) (rest.drop 1)
        return (entry :: more, rest)
      | some (.word ['f', 'o', 'r']) =>
        let rest ← clauses n rest
        match ← peek true rest with
        | some (.sign ['\x7d']) =>
          if isTable.isSome then misfit
          else return ([.pair (.error .unwritten) (.error .unwritten)], rest.drop 1)
        | _ => misfit
      | _ => complain n true ts e rest

end

/-! ## Texts -/

/-- The expressions of a whole text, with commas between them. -/
def wholeText : Nat → Nat → List Token → Except Halt (List (Except Trouble Worth))
  | 0, _, _ => misfit
  | n + 1, depth, ts => do
    let (e, rest) ← expression depth false ts
    match rest with
    | [] | [.sign [',']] => return [e.worth]
    | .sign [','] :: rest => return e.worth :: (← wholeText n depth rest)
    | .line :: rest => do
      let _ ← peek false rest
      misfit
    | rest => complain depth false ts e rest

/-- Why a text is no value: what is wrong with the way it is written, or with what it
    amounts to. -/
inductive Objection where
  | unreadable (complaint : String)
  | worthless (t : Trouble)

/-- The objection to a text that should be a value. -/
def valueObjection? (cs : List Char) : Option Objection :=
  match tokens cs with
  | .error complaint => some (.unreadable complaint)
  | .ok (ts, place) =>
    match wholeText (ts.length + 1) (8 * ts.length + 8) ts with
    | .ok ws =>
      match Worth.tuple ws with
      | .ok _ => none
      | .error t => some (.worthless t)
    | .error (.misfit complaint) | .error (.flawed complaint) => some (.unreadable complaint)
    | .error .over =>
      let bracket := (place.brackets.head?.map Prod.fst).getD '('
      some (.unreadable ("'" ++ bracket.toString ++ "' was never closed"))

end ReviewRota.Console
