import Airspace.Store.Syntax
import Airspace.Store.Inline
import Airspace.Store.NamedWindow
import Airspace.Store.Token
import Airspace.Store.Numeric

/-!
# Reading statements

Statements are read from tokens by the engine's grammar. The operators bind,
from loosest to tightest: `OR`; `AND`; prefix `NOT`; the equality tests
(`=`, `==`, `!=`, `<>`, `IS`, `IS NOT`, `IS [NOT] DISTINCT FROM`, `IN`,
`BETWEEN`, `LIKE`, `GLOB`, `REGEXP`, `MATCH`, `ISNULL`, `NOTNULL`,
`NOT NULL`); the order tests `< <= > >=`; the bit operators `& | << >>`;
`+ -`; `* / %`; `||`; `COLLATE`; and prefix `- + ~`. Binary operators
associate to the left.

A statement is read token by token, and the first token that cannot continue
it is where reading fails: `near "TOKEN": syntax error`, or
`incomplete input` when the text ends first. A token that is no token fails
with `unrecognized token` when reading reaches it. Leading semicolons are
skipped; after a statement comes a semicolon or the end of the text.

Reading nests through `fuel`, which the number of tokens bounds.
-/

namespace Airspace.Store

/-- Why a statement could not be read. -/
inductive SyntaxFault where
  /-- A token that cannot continue the statement. -/
  | near (token : String)
  /-- The text ended inside a statement. -/
  | incomplete
  /-- Text that is no token. -/
  | unrecognized (token : String)
  /-- A statement of the right shape that is still refused. -/
  | other (message : String)
  deriving Repr

/-- The engine's text for a fault. -/
def SyntaxFault.message : SyntaxFault → String
  | .near t => "near \"" ++ t ++ "\": syntax error"
  | .incomplete => "incomplete input"
  | .unrecognized t => "unrecognized token: \"" ++ t ++ "\""
  | .other m => m

/-- Reading from the remaining tokens. -/
abbrev Parser := StateT (List Token) (Except SyntaxFault)

/-- The next token, if any; text that is no token stops the reading here. -/
def peekToken : Parser (Option Token) := do
  match (← get) with
  | [] => return none
  | t :: _ => if t.kind == .illegal then throw (.unrecognized t.text) else return some t

/-- The token after the next one. -/
def peekSecond : Parser (Option Token) := do
  match (← get) with
  | _ :: t :: _ => if t.kind == .illegal then throw (.unrecognized t.text) else return some t
  | _ => return none

/-- Drops the next token. -/
def skipToken : Parser Unit := modify List.tail

/-- Fails at the next token. -/
def refuse {α : Type} : Parser α := do
  match ← peekToken with
  | some t => throw (.near t.text)
  | none => throw .incomplete

/-- Whether the next token is the keyword `k`. -/
def atWord (k : String) : Parser Bool := do
  return (← peekToken).any (·.is k)

/-- Whether the next token is the symbol `s`. -/
def atSymbol (s : String) : Parser Bool := do
  return (← peekToken).any (·.isSymbol s)

/-- Takes the keyword `k` if it is next. -/
def acceptWord (k : String) : Parser Bool := do
  if ← atWord k then skipToken; return true else return false

/-- Takes the symbol `s` if it is next. -/
def acceptSymbol (s : String) : Parser Bool := do
  if ← atSymbol s then skipToken; return true else return false

/-- Takes the keyword `k`, which must be next. -/
def expectWord (k : String) : Parser Unit := do
  unless ← acceptWord k do refuse

/-- Takes the symbol `s`, which must be next. -/
def expectSymbol (s : String) : Parser Unit := do
  unless ← acceptSymbol s do refuse

/-- Whether a bare word may be a name: it is no keyword, or a keyword that may serve as one. -/
def Token.nameable (t : Token) : Bool :=
  t.kind == .word && (!t.isKeyword || nameKeywords.contains (upperAscii t.text))

/-- The name a token gives, and how it was quoted; a text in single quotes
counts where `strings`. -/
def Token.asName (t : Token) (strings : Bool) : Option (String × NameQuote) :=
  match t.kind with
  | .word => if t.nameable then some (t.text, .bare) else none
  | .quoted body double => some (body, if double then .double else .other)
  | .string body => if strings then some (body, .other) else none
  | _ => none

/-- Takes a name if one is next. -/
def acceptName (strings : Bool) : Parser (Option String) := do
  match ← peekToken with
  | some t => match t.asName strings with
    | some (n, _) => skipToken; return some n
    | none => return none
  | none => return none

/-- Takes a name, which must be next. -/
def expectName : Parser String := do
  match ← acceptName true with
  | some n => return n
  | none => refuse

/-- Names separated by commas. -/
def nameList : Nat → Parser (List String)
  | 0 => refuse
  | fuel + 1 => do
    let n ← expectName
    if ← acceptSymbol "," then return n :: (← nameList fuel) else return [n]

/-- The level of a binary operator and the operator: `OR` 1, `AND` 2, equality 4,
order 5, bit operators 7, `+ -` 8, `* / %` 9, `||` 10. -/
def binaryLevel (t : Token) : Option (Nat × BinaryOp) :=
  if t.is "OR" then some (1, .or)
  else if t.is "AND" then some (2, .and)
  else if t.kind != .symbol then none
  else match t.text with
    | "=" | "==" => some (4, .eq)
    | "!=" | "<>" => some (4, .ne)
    | "<" => some (5, .lt)
    | "<=" => some (5, .le)
    | ">" => some (5, .gt)
    | ">=" => some (5, .ge)
    | "&" => some (7, .bitAnd)
    | "|" => some (7, .bitOr)
    | "<<" => some (7, .shiftLeft)
    | ">>" => some (7, .shiftRight)
    | "+" => some (8, .add)
    | "-" => some (8, .subtract)
    | "*" => some (9, .multiply)
    | "/" => some (9, .divide)
    | "%" => some (9, .remainder)
    | "||" => some (10, .concat)
    | _ => none

/-- The level of an infix operator and how it joins its operands: the binary
operators, and the JSON arrows `->` and `->>` at the level of `||`, which call
the functions of those names. -/
def operatorOf (t : Token) : Option (Nat × (Expr → Expr → Expr)) :=
  match binaryLevel t with
  | some (level, op) => some (level, .binary op)
  | none =>
    if t.kind == .symbol && (t.text == "->" || t.text == "->>") then
      some (10, fun l r => .call t.text [l, r] .plain)
    else none

/-- Whether a token is a pattern-matching operator. -/
def Token.isMatcher (t : Token) : Bool := t.is "LIKE" || t.is "GLOB" || t.is "REGEXP" || t.is "MATCH"

/-- A signed number of a type or a default: the text with its sign. -/
def signedNumber : Parser String := do
  let sign ← if ← acceptSymbol "-" then pure "-" else do let _ ← acceptSymbol "+"; pure ""
  match ← peekToken with
  | some t =>
    if t.kind == .integer || t.kind == .real then skipToken; return sign ++ t.text else refuse
  | none => refuse

/-- A type name: words, and maybe one or two numbers in parentheses. Empty when there is none. -/
def typeName : Nat → Parser String
  | 0 => return ""
  | fuel + 1 => do
    match ← peekToken with
    | some t =>
      match t.asName true with
      | some (n, _) =>
        if t.is "GENERATED" && ((← peekSecond).any (·.is "ALWAYS")) then return ""
        skipToken
        let rest ← typeName fuel
        return if rest.isEmpty then n else n ++ " " ++ rest
      | none =>
        if t.isSymbol "(" then
          skipToken
          let a ← signedNumber
          let b ← if ← acceptSymbol "," then do pure ("," ++ (← signedNumber)) else pure ""
          expectSymbol ")"
          return "(" ++ a ++ b ++ ")"
        else return ""
    | none => return ""

/-- Pairs of consecutive elements. -/
def pairUp : List Expr → List (Expr × Expr)
  | a :: b :: rest => (a, b) :: pairUp rest
  | _ => []

/-- A table: its name, maybe after its schema. -/
def fullName : Parser Target := do
  let first ← expectName
  if ← acceptSymbol "." then
    let second ← expectName
    return { schema := some first, name := second }
  return { name := first }

/-- `INDEXED BY name` or `NOT INDEXED`, which change nothing here. -/
def indexedBy : Parser Unit := do
  if ← acceptWord "INDEXED" then
    expectWord "BY"
    let _ ← expectName
  else if (← atWord "NOT") && ((← peekSecond).any (·.is "INDEXED")) then
    skipToken
    skipToken

/-- The words that begin a join, which are never an alias. -/
def joinWords : List String := ["CROSS", "FULL", "INNER", "LEFT", "NATURAL", "OUTER", "RIGHT", "INDEXED"]

/-- Whether a `WINDOW` clause starts here: the word `WINDOW`, a name and `AS`;
elsewhere `WINDOW` is a name. -/
def atWindowClause : Parser Bool := do
  match (← get) with
  | w :: n :: a :: _ => return w.is "WINDOW" && (n.asName true).isSome && a.is "AS"
  | _ => return false

/-- An alias without `AS`: a name that is no reserved keyword and begins no join, or a text. -/
def bareAlias : Parser (Option String) := do
  match ← peekToken with
  | some t =>
    if joinWords.any t.is then return none
    if ← atWindowClause then return none
    match t.asName true with
    | some (n, _) => skipToken; return some n
    | none => return none
  | none => return none

/-- A table a query reads, with its alias. -/
def tableTarget : Parser Target := do
  let t ← fullName
  let asName ← if ← acceptWord "AS" then some <$> expectName else bareAlias
  indexedBy
  return { t with asName }

/-- The operator that joins the next table, if one follows: its kind and
whether the join is natural. A right or full join is read as an inner one. -/
def joinOperator : Parser (Option (JoinKind × Bool)) := do
  if ← acceptSymbol "," then return some (.inner, false)
  let natural ← acceptWord "NATURAL"
  let kind ← if ← acceptWord "LEFT" then do
      let _ ← acceptWord "OUTER"
      pure (some JoinKind.left)
    else if (← acceptWord "RIGHT") || (← acceptWord "FULL") then do
      let _ ← acceptWord "OUTER"
      pure (some JoinKind.inner)
    else if (← acceptWord "INNER") || (← acceptWord "CROSS") then pure (some JoinKind.inner)
    else pure none
  if kind.isSome || natural then
    expectWord "JOIN"
    return some (kind.getD .inner, natural)
  if ← acceptWord "JOIN" then return some (.inner, false)
  return none

/-- Whether a query begins next. -/
def atQuery : Parser Bool := do return (← atWord "SELECT") || (← atWord "VALUES") || (← atWord "WITH")

/-- `GROUP BY` terms with numbers replaced by the output columns they name,
keeping a `COLLATE` written after the number. -/
def groupTerms (items : List Item) (terms : List Expr) : Except SyntaxFault (List Expr) :=
  (terms.zip (List.range terms.length)).mapM fun (e, i) =>
    match e.skipCollate.ordinal? with
    | some k =>
      if k < 1 || k > items.length then
        .error (.other (ordinalText (i + 1) ++ " GROUP BY term out of range - should be between 1 and " ++
          toString items.length))
      else match items[k.toNat - 1]? with
        | some (.value v _) => .ok (match e with
          | .collate _ c => .collate v c
          | _ => v)
        | _ => .ok e
    | none => .ok e

mutual

/-- An expression whose binary operators all have at least level `least`. -/
def parseLevel : Nat → Nat → Parser Expr
  | 0, _ => refuse
  | fuel + 1, least => do
    let lhs ← parseOperand fuel
    climb fuel least lhs

/-- Extends an operand by the operators of at least level `least` that follow it. -/
def climb : Nat → Nat → Expr → Parser Expr
  | 0, _, lhs => return lhs
  | fuel + 1, least, lhs => do
    match ← peekToken with
    | none => return lhs
    | some t =>
      if t.is "COLLATE" then
        skipToken
        let n ← expectName
        climb fuel least (.collate lhs n)
      else if least > 4 then
        match operatorOf t with
        | some (level, build) =>
          if level < least then return lhs
          else
            skipToken
            let rhs ← parseLevel fuel (level + 1)
            climb fuel least (build lhs rhs)
        | none => return lhs
      else if t.is "IS" then
        skipToken
        let negated ← acceptWord "NOT"
        let distinct ← acceptWord "DISTINCT"
        if distinct then expectWord "FROM"
        let rhs ← parseLevel fuel 5
        climb fuel least (.binary (if negated != distinct then .isNot else .is) lhs rhs)
      else if t.is "ISNULL" then skipToken; climb fuel least (.isNull lhs false)
      else if t.is "NOTNULL" then skipToken; climb fuel least (.isNull lhs true)
      else if t.is "NOT" then
        match ← peekSecond with
        | some u =>
          if u.is "NULL" then skipToken; skipToken; climb fuel least (.isNull lhs true)
          else if u.is "BETWEEN" || u.is "IN" || u.isMatcher then
            skipToken
            let e ← special fuel lhs true
            climb fuel least e
          else return lhs
        | none => return lhs
      else if t.is "BETWEEN" || t.is "IN" || t.isMatcher then
        let e ← special fuel lhs false
        climb fuel least e
      else match operatorOf t with
        | some (level, build) =>
          if level < least then return lhs
          else
            skipToken
            let rhs ← parseLevel fuel (level + 1)
            climb fuel least (build lhs rhs)
        | none => return lhs

/-- `BETWEEN`, `IN` and the pattern matches after their left operand. -/
def special : Nat → Expr → Bool → Parser Expr
  | 0, _, _ => refuse
  | fuel + 1, lhs, negated => do
    match ← peekToken with
    | none => refuse
    | some t =>
      skipToken
      if t.is "BETWEEN" then
        let low ← parseLevel fuel 5
        expectWord "AND"
        let high ← parseLevel fuel 5
        return .between lhs low high negated
      else if t.is "IN" && !(← atSymbol "(") then
        let target ← fullName
        return .withinQuery lhs { items := [.all], sources := [{ target }] } negated
      else if t.is "IN" then
        expectSymbol "("
        if ← acceptSymbol ")" then return .within lhs [] negated
        if ← atQuery then
          let q ← query fuel
          expectSymbol ")"
          return .withinQuery lhs q negated
        let items ← parseList fuel
        expectSymbol ")"
        return .within lhs items negated
      else
        let pattern ← parseLevel fuel 5
        let args ← if ← acceptWord "ESCAPE" then do pure [pattern, lhs, ← parseLevel fuel 7] else pure [pattern, lhs]
        let e := Expr.call t.text args .plain
        return if negated then .unary .not e else e

/-- An operand: a primary expression under prefix operators. -/
def parseOperand : Nat → Parser Expr
  | 0 => refuse
  | fuel + 1 => do
    match ← peekToken with
    | none => refuse
    | some t =>
      if t.isSymbol "-" then skipToken; return .unary .negate (← parseOperand fuel)
      else if t.isSymbol "+" then skipToken; return .unary .plus (← parseOperand fuel)
      else if t.isSymbol "~" then skipToken; return .unary .complement (← parseOperand fuel)
      else if t.is "NOT" then skipToken; return .unary .not (← parseLevel fuel 4)
      else parsePrimary fuel

/-- A primary expression. -/
def parsePrimary : Nat → Parser Expr
  | 0 => refuse
  | fuel + 1 => do
    match ← peekToken with
    | none => refuse
    | some t =>
      match t.kind with
      | .integer => skipToken; return .integer t.text
      | .real => skipToken; return .real t.text
      | .blob bs => skipToken; return .constant (.blob bs)
      | .parameter => skipToken; return .parameter
      | .string body =>
        if (← peekSecond).any (·.isSymbol ".") then columnRef fuel
        else skipToken; return .constant (.text (bytesOf body))
      | .quoted body _ =>
        if (← peekSecond).any (·.isSymbol "(") then skipToken; callOf fuel body
        else columnRef fuel
      | .word =>
        if t.is "NULL" then skipToken; return Expr.null
        else if t.is "CASE" then skipToken; caseOf fuel
        else if t.is "EXISTS" && ((← peekSecond).any (·.isSymbol "(")) then
          skipToken
          skipToken
          let q ← query fuel
          expectSymbol ")"
          return .someRow q
        else if (t.is "CAST" || t.is "RAISE") && ((← peekSecond).any (·.isSymbol "(")) then
          skipToken
          skipToken
          if t.is "CAST" then
            let e ← parseLevel fuel 1
            expectWord "AS"
            let type ← typeName 16
            expectSymbol ")"
            return .cast e type
          else if ← acceptWord "IGNORE" then
            expectSymbol ")"
            return .raise .ignore ""
          else
            let kind ← if ← acceptWord "ROLLBACK" then pure RaiseKind.rollback
              else if ← acceptWord "ABORT" then pure RaiseKind.abort
              else if ← acceptWord "FAIL" then pure RaiseKind.fail
              else refuse
            expectSymbol ","
            let message ← expectName
            expectSymbol ")"
            return .raise kind message
        else if t.is "CURRENT_TIME" || t.is "CURRENT_DATE" || t.is "CURRENT_TIMESTAMP" then
          skipToken; return .call (Text.lowerAscii t.text) [] .plain
        else if t.nameable then
          if (← peekSecond).any (·.isSymbol "(") then skipToken; callOf fuel t.text
          else columnRef fuel
        else refuse
      | .symbol =>
        if t.isSymbol "(" then
          skipToken
          if ← atQuery then
            let q ← query fuel
            expectSymbol ")"
            return .subquery q
          let e ← parseLevel fuel 1
          if ← acceptSymbol "," then
            let rest ← parseList fuel
            expectSymbol ")"
            return .vector (e :: rest)
          expectSymbol ")"
          return e
        else refuse
      | _ => refuse

/-- A column: a name, or a table and a name, or a schema, a table and a name. -/
def columnRef : Nat → Parser Expr
  | 0 => refuse
  | _ + 1 => do
    match ← peekToken with
    | some t =>
      match t.asName true with
      | some (first, quote) =>
        skipToken
        if ← acceptSymbol "." then
          let second ← expectName
          if ← acceptSymbol "." then
            let third ← expectName
            return .column (some second) third .bare
          return .column (some first) second .bare
        return .column none first quote
      | none => refuse
    | none => refuse

/-- A call of the function `name`, after its name. `FILTER` right after the
arguments and a parenthesis keeps only the rows where its condition holds;
`OVER` after them, with a parenthesis or a name next, makes the call a window
function's, told apart from the others by the tokens left after it. -/
def callOf : Nat → String → Parser Expr
  | 0, _ => refuse
  | fuel + 1, name => do
    let place := (← get).length
    expectSymbol "("
    let star ← acceptSymbol "*"
    let empty ← if star then pure false else acceptSymbol ")"
    let (args, form) ← if star then do
        expectSymbol ")"
        pure ([], CallForm.star)
      else if empty then pure ([], CallForm.plain)
      else do
        let form ← if ← acceptWord "DISTINCT" then pure CallForm.distinct else do
          let _ ← acceptWord "ALL"
          pure CallForm.plain
        let args ← parseList fuel
        expectSymbol ")"
        pure (args, form)
    let filter ← if (← atWord "FILTER") && ((← peekSecond).any (·.isSymbol "(")) then do
        skipToken
        skipToken
        expectWord "WHERE"
        let c ← parseLevel fuel 1
        expectSymbol ")"
        pure (some c)
      else pure none
    let windowed ← match (← get) with
      | o :: t :: _ => pure (o.is "OVER" && (t.isSymbol "(" || (t.asName true).isSome))
      | _ => pure false
    if windowed then
      skipToken
      let w ← if ← atSymbol "(" then windowOf fuel else do
          let n ← expectName
          pure { Window.plain [] [] with named := some (.whole n) }
      if form == .distinct then throw (.other "DISTINCT is not supported for window functions")
      return .over place name args form { w with filter }
    match filter with
    | some c => return .filtered name args form c
    | none => return .call name args form

/-- A window in parentheses after `OVER` or `AS`: the name of a window it
draws on, its partition, its order and its frame. -/
def windowOf : Nat → Parser Window
  | 0 => refuse
  | fuel + 1 => do
    expectSymbol "("
    let base ← match ← peekToken with
      | some t =>
        if ["PARTITION", "ORDER", "ROWS", "RANGE", "GROUPS"].any t.is then pure none
        else match t.asName true with
          | some (n, _) => do skipToken; pure (some n)
          | none => pure none
      | none => pure none
    let partition ← if ← acceptWord "PARTITION" then do
        expectWord "BY"
        parseList fuel
      else pure []
    let order ← if ← acceptWord "ORDER" then do
        expectWord "BY"
        sortTerms fuel
      else pure []
    let unit ← if ← acceptWord "ROWS" then pure (some FrameUnit.rows)
      else if ← acceptWord "RANGE" then pure (some FrameUnit.range)
      else if ← acceptWord "GROUPS" then pure (some FrameUnit.groups)
      else pure none
    let w ← match unit with
      | none => pure (Window.plain partition order)
      | some unit => do
        let (start, finish) ← if ← acceptWord "BETWEEN" then do
            let a ← frameBound fuel true
            expectWord "AND"
            let b ← frameBound fuel false
            pure (a, b)
          else do
            let a ← frameBound fuel true
            pure (a, Bound.currentRow)
        let exclude ← if ← acceptWord "EXCLUDE" then do
            if ← acceptWord "NO" then
              expectWord "OTHERS"
              pure Exclusion.none
            else if ← acceptWord "CURRENT" then
              expectWord "ROW"
              pure Exclusion.current
            else if ← acceptWord "GROUP" then pure Exclusion.group
            else do
              expectWord "TIES"
              pure Exclusion.ties
          else pure Exclusion.none
        let rank := fun (b : Bound) => match b with
          | .unboundedPreceding => 0
          | .preceding _ => 1
          | .currentRow => 2
          | .following _ => 3
          | .unboundedFollowing => 4
        if (rank start == 2 && rank finish == 1) || (rank start == 3 && (rank finish == 1 || rank finish == 2)) then
          throw (.other "unsupported frame specification")
        pure ⟨partition, order, unit, start, finish, exclude, true, none, none⟩
    expectSymbol ")"
    return { w with named := base.map WindowName.base }

/-- An end of a window frame: `UNBOUNDED PRECEDING` only as its start,
`UNBOUNDED FOLLOWING` only as its end. An offset not known before the rows
are read is null. -/
def frameBound : Nat → Bool → Parser Bound
  | 0, _ => refuse
  | fuel + 1, starting => do
    if ← acceptWord "UNBOUNDED" then
      if starting then
        expectWord "PRECEDING"
        return .unboundedPreceding
      expectWord "FOLLOWING"
      return .unboundedFollowing
    if ← acceptWord "CURRENT" then
      expectWord "ROW"
      return .currentRow
    let e ← parseLevel fuel 1
    let e := if e.isConstant false then e else Expr.null
    if ← acceptWord "PRECEDING" then return .preceding e
    expectWord "FOLLOWING"
    return .following e

/-- The windows of a `WINDOW` clause after those already read (`before`,
latest first), each drawing on those before it as it is read. -/
def windowDefinitions : Nat → List (String × Window) → Parser (List (String × Window))
  | 0, _ => refuse
  | fuel + 1, before => do
    let name ← expectName
    expectWord "AS"
    let w ← windowOf fuel
    let defs ← match defineWindow before name w with
      | .ok d => pure d
      | .error m => throw (.other m)
    if ← acceptSymbol "," then windowDefinitions fuel defs else return defs

/-- A `CASE` after its keyword. -/
def caseOf : Nat → Parser Expr
  | 0 => refuse
  | fuel + 1 => do
    let operand ← if ← atWord "WHEN" then pure none else some <$> parseLevel fuel 1
    unless ← atWord "WHEN" do refuse
    let branches ← caseBranches fuel
    let branches := match operand with
      | some x => pairUp branches |>.flatMap fun (w, r) => [Expr.binary .eq x w, r]
      | none => branches
    let otherwise ← if ← acceptWord "ELSE" then parseLevel fuel 1 else pure Expr.null
    expectWord "END"
    return .search branches otherwise

/-- `WHEN` and `THEN` branches: conditions and results alternating. -/
def caseBranches : Nat → Parser (List Expr)
  | 0 => refuse
  | fuel + 1 => do
    if ← acceptWord "WHEN" then
      let w ← parseLevel fuel 1
      expectWord "THEN"
      let r ← parseLevel fuel 1
      return w :: r :: (← caseBranches fuel)
    else return []

/-- Expressions separated by commas. -/
def parseList : Nat → Parser (List Expr)
  | 0 => refuse
  | fuel + 1 => do
    let e ← parseLevel fuel 1
    if ← acceptSymbol "," then return e :: (← parseList fuel) else return [e]


/-- The output columns of a query. -/
def selectItems : Nat → Parser (List Item)
  | 0 => refuse
  | fuel + 1 => do
    let item ← if ← acceptSymbol "*" then pure Item.all
      else do
        let qualified ← match ← peekToken, ← peekSecond with
          | some t, some u => pure ((t.asName true).isSome && u.isSymbol ".")
          | _, _ => pure false
        let star ← if qualified then do
            match (← get) with
            | _ :: _ :: s :: _ => pure (s.isSymbol "*")
            | _ => pure false
          else pure false
        if star then
          let table ← expectName
          skipToken
          skipToken
          pure (Item.allOf table)
        else
          let e ← parseLevel fuel 1
          let asName ← if ← acceptWord "AS" then some <$> expectName else bareAlias
          pure (Item.value e asName)
    if ← acceptSymbol "," then return item :: (← selectItems fuel) else return [item]

/-- The rows of `VALUES`, all of one length. -/
def valueRows : Nat → Parser (List (List Expr))
  | 0 => refuse
  | fuel + 1 => do
    expectSymbol "("
    let row ← parseList fuel
    expectSymbol ")"
    if ← acceptSymbol "," then
      let rest ← valueRows fuel
      if rest.any (·.length != row.length) then
        throw (.other "all VALUES must have the same number of terms")
      return row :: rest
    return [row]

/-- The terms of `ORDER BY`, each with whether it descends. -/
def sortTerms : Nat → Parser (List (Expr × Bool))
  | 0 => refuse
  | fuel + 1 => do
    let e ← parseLevel fuel 1
    let descending ← if ← acceptWord "ASC" then pure false else acceptWord "DESC"
    if ← acceptWord "NULLS" then
      if !(← acceptWord "FIRST") then expectWord "LAST"
    if ← acceptSymbol "," then return (e, descending) :: (← sortTerms fuel) else return [(e, descending)]

/-- A table a query reads, or a query in parentheses, with its alias. -/
def sourceItem : Nat → Parser Joined
  | 0 => refuse
  | fuel + 1 => do
    if ← acceptSymbol "(" then
      let q ← query fuel
      expectSymbol ")"
      let asName ← if ← acceptWord "AS" then some <$> expectName else bareAlias
      return { target := { name := "", asName }, derived := some q }
    let atCall ← match (← get) with
      | n :: d :: m :: p :: _ =>
        pure ((n.asName true).isSome && (d.isSymbol "(" || (d.isSymbol "." && (m.asName true).isSome && p.isSymbol "(")))
      | n :: p :: _ => pure ((n.asName true).isSome && p.isSymbol "(")
      | _ => pure false
    if atCall then
      let t ← fullName
      expectSymbol "("
      let args ← if ← atSymbol ")" then pure [] else parseList fuel
      expectSymbol ")"
      let asName ← if ← acceptWord "AS" then some <$> expectName else bareAlias
      return { target := { t with asName }, arguments := some args }
    return { target := ← tableTarget }

/-- The tables after a query's first one, each with its join. -/
def joins : Nat → Parser (List Joined)
  | 0 => refuse
  | fuel + 1 => do
    match ← joinOperator with
    | none => return []
    | some (kind, natural) =>
      let source ← sourceItem fuel
      let j : Joined ← if ← acceptWord "ON" then do
          pure { source with kind, natural, on := some (← parseLevel fuel 1) }
        else if ← acceptWord "USING" then do
          expectSymbol "("
          let ns ← nameList (fuel + 1)
          expectSymbol ")"
          pure { source with kind, natural, shared := ns }
        else pure { source with kind, natural }
      return j :: (← joins fuel)

/-- One `SELECT` or `VALUES` of a query, without order and limit, with the
windows its `WINDOW` clause names (latest first) in place; the rows of
`VALUES` after its first are queries combined with it, and its columns are
named `column1`, `column2`, …. -/
def queryCore : Nat → Parser (Query × List (String × Window))
  | 0 => refuse
  | fuel + 1 => do
    if ← acceptWord "VALUES" then
      let rows ← valueRows fuel
      let single := fun (row : List Expr) =>
        ({ items := row.mapIdx fun i e => Item.value e (some ("column" ++ toString (i + 1))) } : Query)
      return ({ single (rows.headD []) with compound := (rows.drop 1).map fun r => (Combine.unionAll, single r) }, [])
    expectWord "SELECT"
    let distinct ← if ← acceptWord "DISTINCT" then pure true else do
      let _ ← acceptWord "ALL"
      pure false
    let items ← selectItems fuel
    let sources ← if ← acceptWord "FROM" then do
        let first ← sourceItem fuel
        let more ← joins fuel
        pure (first :: more)
      else pure []
    let condition ← if ← acceptWord "WHERE" then some <$> parseLevel fuel 1 else pure none
    let (groups, having) ← if ← acceptWord "GROUP" then do
        expectWord "BY"
        let terms ← parseList fuel
        let groups ← match groupTerms items terms with
          | .ok g => pure g
          | .error f => throw f
        let having ← if ← acceptWord "HAVING" then some <$> parseLevel fuel 1 else pure none
        pure (groups, having)
      else if ← acceptWord "HAVING" then do
        pure ([], some (← parseLevel fuel 1))
      else pure ([], none)
    let defs ← if ← atWindowClause then do
        skipToken
        windowDefinitions fuel []
      else pure []
    let items := Item.nameWindows defs items
    let having := having.map (·.nameWindows defs)
    return ({ items, distinct, sources, condition, groups, having }, defs)

/-- The queries combined with a first one: each after `UNION`, `UNION ALL`,
`INTERSECT` or `EXCEPT`. -/
def compoundParts : Nat → Parser (List (Combine × Query))
  | 0 => refuse
  | fuel + 1 => do
    let op ← if ← acceptWord "UNION" then do
        if ← acceptWord "ALL" then pure (some Combine.unionAll) else pure (some Combine.union)
      else if ← acceptWord "INTERSECT" then pure (some Combine.intersect)
      else if ← acceptWord "EXCEPT" then pure (some Combine.except)
      else pure none
    match op with
    | none => return []
    | some op =>
      let (q, _) ← queryCore fuel
      let more ← compoundParts fuel
      return (op, { q with compound := [] }) :: q.compound ++ more

/-- The common tables of `WITH` after those already read (`before`), each
with those before it in place. -/
def commonTables : Nat → List NamedQuery → Parser (List NamedQuery)
  | 0, _ => refuse
  | fuel + 1, before => do
    let name ← expectName
    let columns ← if ← acceptSymbol "(" then do
        let ns ← nameList (fuel + 1)
        expectSymbol ")"
        pure ns
      else pure []
    expectWord "AS"
    if ← acceptWord "NOT" then expectWord "MATERIALIZED" else let _ ← acceptWord "MATERIALIZED"
    expectSymbol "("
    let q ← query fuel
    expectSymbol ")"
    if before.any (sameName ·.name name) then throw (.other ("duplicate WITH table name: " ++ name))
    let defs := before ++ [NamedQuery.common before name columns q]
    if ← acceptSymbol "," then commonTables fuel defs else return defs

/-- A query: maybe common tables first, then its first part, the parts
combined with it, then the order and limit of them all. -/
def query : Nat → Parser Query
  | 0 => refuse
  | fuel + 1 => do
    if ← acceptWord "WITH" then
      let _ ← acceptWord "RECURSIVE"
      let defs ← commonTables fuel []
      let q ← query fuel
      return q.inline defs
    let (q, defs) ← queryCore fuel
    let more ← compoundParts fuel
    let order ← if ← acceptWord "ORDER" then do
        expectWord "BY"
        sortTerms fuel
      else pure []
    let order := order.map fun (e, d) => (e.nameWindows defs, d)
    let (limit, offset) ← if ← acceptWord "LIMIT" then do
        let first ← parseLevel fuel 1
        if ← acceptWord "OFFSET" then pure (some first, some (← parseLevel fuel 1))
        else if ← acceptSymbol "," then pure (some (← parseLevel fuel 1), some first)
        else pure (some first, none)
      else pure (none, none)
    return { q with compound := q.compound ++ more, order, limit, offset }
end

/-- Enough fuel to read an expression from some tokens. -/
def fuelFor (ts : List Token) : Nat := 8 * ts.length + 16

/-- An expression. -/
def expr : Parser Expr := do parseLevel (fuelFor (← get)) 1

/-- Expressions separated by commas. -/
def exprList : Parser (List Expr) := do parseList (fuelFor (← get))

/-- Names separated by commas. -/
def names : Parser (List String) := do nameList ((← get).length + 1)

/-- A table with an alias after `AS`. -/
def aliasedName : Parser Target := do
  let t ← fullName
  if ← acceptWord "AS" then return { t with asName := some (← expectName) }
  return t

/-- The table of a change in a trigger's body, which may not name a schema. -/
def triggerTarget : Parser Target := do
  let first ← expectName
  if ← atSymbol "." then
    throw (.other "qualified table names are not allowed on INSERT, UPDATE, and DELETE statements within triggers")
  return { name := first }

/-- A resolution keyword. -/
def resolutionWord : Parser Resolution := do
  if ← acceptWord "ROLLBACK" then return .rollback
  else if ← acceptWord "ABORT" then return .abort
  else if ← acceptWord "FAIL" then return .fail
  else if ← acceptWord "IGNORE" then return .ignore
  else if ← acceptWord "REPLACE" then return .replace
  else refuse

/-- `OR` and a resolution after `INSERT` or `UPDATE`; aborting when absent. -/
def resolution : Parser Resolution := do
  if ← acceptWord "OR" then resolutionWord else return .abort

/-- `ON CONFLICT` and a resolution in a constraint. -/
def conflictClause : Parser Unit := do
  if (← atWord "ON") && ((← peekSecond).any (·.is "CONFLICT")) then
    skipToken
    skipToken
    let _ ← resolutionWord

/-- The assignments of `SET`; a list of columns takes a row value of as many. -/
def settings : Nat → Parser (List (String × Expr))
  | 0 => refuse
  | fuel + 1 => do
    let items ← if ← acceptSymbol "(" then do
        let ns ← names
        expectSymbol ")"
        expectSymbol "="
        let e ← expr
        match e with
        | .subquery q => pure (ns.zipIdx.map fun (n, j) => (n, Expr.pick q j ns.length))
        | _ =>
          let values := match e with
            | .vector vs => vs
            | v => [v]
          if values.length != ns.length then
            throw (.other (toString ns.length ++ " columns assigned " ++ toString values.length ++ " values"))
          pure (ns.zip values)
      else do
        let n ← expectName
        expectSymbol "="
        pure [(n, ← expr)]
    if ← acceptSymbol "," then return items ++ (← settings fuel) else return items

/-- Terms of `ORDER BY` and of index columns: each with an optional collation, direction and null order. -/
def sortList : Nat → Parser (List Expr)
  | 0 => refuse
  | fuel + 1 => do
    let e ← expr
    if !(← acceptWord "ASC") then let _ ← acceptWord "DESC"
    if ← acceptWord "NULLS" then
      if !(← acceptWord "FIRST") then expectWord "LAST"
    if ← acceptSymbol "," then return e :: (← sortList fuel) else return [e]

/-- A query. -/
def fullQuery : Parser Query := do query (fuelFor (← get))

/-- The rows of `VALUES`, all of one length. -/
def valueList : Parser (List (List Expr)) := do valueRows (fuelFor (← get))

/-- `RETURNING` and its columns, which are read and not used. -/
def returning : Parser Unit := do
  if ← acceptWord "RETURNING" then let _ ← selectItems (fuelFor (← get))

/-- The `ON CONFLICT` clauses after the rows of an `INSERT`; only the last
may leave out the terms of the constraint it handles. -/
def upsert : Nat → Parser (List Upsert)
  | 0 => return []
  | fuel + 1 => do
    if (← atWord "ON") && ((← peekSecond).any (·.is "CONFLICT")) then
      skipToken
      skipToken
      let (target, targetCondition) ← if ← acceptSymbol "(" then do
          let terms ← sortList ((← get).length + 1)
          expectSymbol ")"
          let c ← if ← acceptWord "WHERE" then some <$> expr else pure none
          pure (some terms, c)
        else pure (none, none)
      expectWord "DO"
      let action ← if ← acceptWord "NOTHING" then pure UpsertAction.nothing else do
        expectWord "UPDATE"
        expectWord "SET"
        let sets ← settings ((← get).length + 1)
        let c ← if ← acceptWord "WHERE" then some <$> expr else pure none
        pure (UpsertAction.update sets c)
      let clause : Upsert := { target, targetCondition, action }
      if target.isNone then return [clause]
      return clause :: (← upsert fuel)
    return []

/-- An `INSERT` or `REPLACE`; `inTrigger` for one in a trigger's body. -/
def insertChange (inTrigger : Bool) : Parser Change := do
  let res ← if ← acceptWord "REPLACE" then pure Resolution.replace else do
    expectWord "INSERT"
    resolution
  expectWord "INTO"
  let target ← if inTrigger then triggerTarget else aliasedName
  let columns ← if ← acceptSymbol "(" then do
      let ns ← names
      expectSymbol ")"
      pure (some ns)
    else pure none
  let source ← if ← acceptWord "DEFAULT" then do
      expectWord "VALUES"
      pure Source.defaults
    else if ← atWord "VALUES" then do
      skipToken
      let rows ← valueList
      pure (Source.values rows)
    else if (← atWord "SELECT") || (← atWord "WITH") then Source.query <$> fullQuery
    else refuse
  let upserts ← upsert ((← get).length + 1)
  unless inTrigger do returning
  return .insert res target columns source upserts

/-- An `UPDATE`. -/
def updateChange (inTrigger : Bool) : Parser Change := do
  expectWord "UPDATE"
  let res ← resolution
  let target ← if inTrigger then triggerTarget else aliasedName
  indexedBy
  expectWord "SET"
  let sets ← settings ((← get).length + 1)
  let sources ← if ← acceptWord "FROM" then do
      let fuel := fuelFor (← get)
      let first ← sourceItem fuel
      let more ← joins fuel
      pure (first :: more)
    else pure []
  let condition ← if ← acceptWord "WHERE" then some <$> expr else pure none
  unless inTrigger do returning
  return .update res target sets sources condition

/-- A `DELETE`. -/
def deleteChange (inTrigger : Bool) : Parser Change := do
  expectWord "DELETE"
  expectWord "FROM"
  let target ← if inTrigger then triggerTarget else aliasedName
  indexedBy
  let condition ← if ← acceptWord "WHERE" then some <$> expr else pure none
  unless inTrigger do returning
  return .delete target condition

/-- A query or a change. -/
def change (inTrigger : Bool) : Parser Change := do
  match ← peekToken with
  | some t =>
    if t.is "SELECT" || t.is "VALUES" then Change.select <$> fullQuery
    else if t.is "INSERT" || t.is "REPLACE" then insertChange inTrigger
    else if t.is "UPDATE" then updateChange inTrigger
    else if t.is "DELETE" then deleteChange inTrigger
    else refuse
  | none => refuse

/-- The statements of a trigger's body, each ending with a semicolon, up to `END`. -/
def triggerBody : Nat → Parser (List Change)
  | 0 => refuse
  | fuel + 1 => do
    let c ← change true
    expectSymbol ";"
    if ← acceptWord "END" then return [c] else return c :: (← triggerBody fuel)

/-- `IF NOT EXISTS`. -/
def ifNotExists : Parser Bool := do
  if ← acceptWord "IF" then
    expectWord "NOT"
    expectWord "EXISTS"
    return true
  return false

/-- `IF EXISTS`. -/
def ifExists : Parser Bool := do
  if ← acceptWord "IF" then
    expectWord "EXISTS"
    return true
  return false

/-- A trigger after `CREATE [TEMP] TRIGGER`. -/
def triggerDefinition (temporary : Bool) : Parser Statement := do
  let ine ← ifNotExists
  let target ← fullName
  let timing ← if ← acceptWord "BEFORE" then pure Timing.before
    else if ← acceptWord "AFTER" then pure Timing.after
    else if ← acceptWord "INSTEAD" then do expectWord "OF"; pure Timing.instead
    else pure Timing.before
  let event ← if ← acceptWord "DELETE" then pure Event.delete
    else if ← acceptWord "INSERT" then pure Event.insert
    else if ← acceptWord "UPDATE" then do
      if ← acceptWord "OF" then pure (Event.update (← names)) else pure (Event.update [])
    else refuse
  expectWord "ON"
  let table ← fullName
  if ← acceptWord "FOR" then
    expectWord "EACH"
    expectWord "ROW"
  let condition ← if ← acceptWord "WHEN" then some <$> expr else pure none
  expectWord "BEGIN"
  let body ← triggerBody ((← get).length + 1)
  return .createTrigger temporary ine target ⟨target.name, table.name, timing, event, condition, body⟩

/-- What a foreign key does. -/
def keyAction : Parser KeyAction := do
  if ← acceptWord "SET" then
    if ← acceptWord "NULL" then return .setNull
    expectWord "DEFAULT"
    return .setDefault
  else if ← acceptWord "CASCADE" then return .cascade
  else if ← acceptWord "RESTRICT" then return .restrict
  else if ← acceptWord "NO" then
    expectWord "ACTION"
    return .none
  else refuse

/-- The clauses after a reference: its actions, `MATCH` and deferral. -/
def referenceClauses : Nat → Reference → Parser Reference
  | 0, r => return r
  | fuel + 1, r => do
    if (← atWord "ON") && ((← peekSecond).any fun u => u.is "DELETE" || u.is "UPDATE") then
      skipToken
      let onDelete ← acceptWord "DELETE"
      unless onDelete do expectWord "UPDATE"
      let a ← keyAction
      referenceClauses fuel (if onDelete then { r with onDelete := a } else { r with onUpdate := a })
    else if ← acceptWord "MATCH" then
      let _ ← expectName
      referenceClauses fuel r
    else if (← atWord "DEFERRABLE") || ((← atWord "NOT") && ((← peekSecond).any (·.is "DEFERRABLE"))) then
      let _ ← acceptWord "NOT"
      expectWord "DEFERRABLE"
      if ← acceptWord "INITIALLY" then
        if !(← acceptWord "DEFERRED") then expectWord "IMMEDIATE"
      referenceClauses fuel r
    else return r

/-- A reference after `REFERENCES`. -/
def reference : Parser Reference := do
  let table ← expectName
  let columns ← if ← acceptSymbol "(" then do
      let ns ← names
      expectSymbol ")"
      pure ns
    else pure []
  referenceClauses 16 { table, columns }

/-- A column's default after `DEFAULT`. -/
def defaultValue : Parser Expr := do
  if ← acceptSymbol "(" then
    let e ← expr
    expectSymbol ")"
    return e
  let negative ← acceptSymbol "-"
  let signed ← if negative then pure true else acceptSymbol "+"
  match ← peekToken with
  | some t =>
    match t.kind with
    | .integer => skipToken; return (if negative then .unary .negate (.integer t.text) else .integer t.text)
    | .real => skipToken; return (if negative then .unary .negate (.real t.text) else .real t.text)
    | .string body => if signed then refuse else do skipToken; return .constant (.text (bytesOf body))
    | .blob bs => if signed then refuse else do skipToken; return .constant (.blob bs)
    | .word =>
      if signed then refuse
      else if t.is "NULL" then skipToken; return Expr.null
      else if t.is "CURRENT_TIME" || t.is "CURRENT_DATE" || t.is "CURRENT_TIMESTAMP" then
        skipToken; return .call (Text.lowerAscii t.text) [] .plain
      else if t.nameable then
        skipToken
        let lower := Text.lowerAscii t.text
        return if lower == "true" then .integer "1" else if lower == "false" then .integer "0"
          else .constant (.text (bytesOf t.text))
      else refuse
    | _ => refuse
  | none => refuse

/-- Text as written from tokens: each with what is written before it (but the
first), then what is written before the token after them, without the spaces
at the end. -/
def writtenText (ts : List Token) (after : String) : String :=
  let body := match ts with
    | [] => after
    | t :: rest => t.text ++ String.join (rest.map fun (u : Token) => u.gap ++ u.text) ++ after
  String.ofList (body.toList.reverse.dropWhile isSqlSpace).reverse

/-- The condition of a `CHECK` in its parentheses, and its text as written. -/
def checkCondition : Parser (Expr × String) := do
  expectSymbol "("
  let before ← get
  let e ← expr
  let after ← get
  let closing := (after.head?.map (·.gap)).getD ""
  expectSymbol ")"
  return (e, writtenText (before.take (before.length - after.length)) closing)

/-- The constraints of a column definition. -/
def columnConstraints : Nat → Option String → ColumnSpec → Parser ColumnSpec
  | 0, _, c => return c
  | fuel + 1, named, c => do
    if ← acceptWord "CONSTRAINT" then
      let n ← expectName
      columnConstraints fuel (some n) c
    else if ← acceptWord "PRIMARY" then
      expectWord "KEY"
      let descending ← if ← acceptWord "DESC" then pure true else do let _ ← acceptWord "ASC"; pure false
      conflictClause
      let auto ← acceptWord "AUTOINCREMENT"
      columnConstraints fuel named { c with primaryKey := true, descending, autoincrement := auto }
    else if (← atWord "NOT") && ((← peekSecond).any (·.is "NULL")) then
      skipToken
      skipToken
      conflictClause
      columnConstraints fuel named { c with notNull := true }
    else if ← acceptWord "NULL" then
      conflictClause
      columnConstraints fuel named c
    else if ← acceptWord "UNIQUE" then
      conflictClause
      columnConstraints fuel named { c with unique := true }
    else if ← acceptWord "CHECK" then
      let (condition, text) ← checkCondition
      columnConstraints fuel named { c with checks := c.checks ++ [⟨named.getD text, condition⟩] }
    else if ← acceptWord "DEFAULT" then
      let d ← defaultValue
      columnConstraints fuel named { c with default := some d }
    else if ← acceptWord "COLLATE" then
      let n ← expectName
      columnConstraints fuel named { c with collation := some n }
    else if ← acceptWord "REFERENCES" then
      let r ← reference
      columnConstraints fuel named { c with reference := some r }
    else if (← atWord "GENERATED") || (← atWord "AS") then
      if ← acceptWord "GENERATED" then expectWord "ALWAYS"
      expectWord "AS"
      expectSymbol "("
      let e ← expr
      expectSymbol ")"
      let (stored, known) ← match ← acceptName false with
        | some n => pure (sameName n "STORED", sameName n "STORED" || sameName n "VIRTUAL")
        | none => pure (false, true)
      columnConstraints fuel named { c with generated := some ⟨e, stored, known && c.default.isNone⟩ }
    else if (← atWord "DEFERRABLE") || ((← atWord "NOT") && ((← peekSecond).any (·.is "DEFERRABLE"))) then
      let _ ← acceptWord "NOT"
      expectWord "DEFERRABLE"
      if ← acceptWord "INITIALLY" then
        if !(← acceptWord "DEFERRED") then expectWord "IMMEDIATE"
      columnConstraints fuel named c
    else return c

/-- A column definition: its name, its type and its constraints. -/
def columnDefinition : Parser ColumnSpec := do
  let name ← expectName
  let type ← typeName 16
  columnConstraints ((← get).length + 1) none { name, type }

/-- Index columns: names with optional collations and directions. -/
def indexColumns : Parser (List String) := do
  let es ← sortList ((← get).length + 1)
  return es.filterMap fun
    | .column _ n _ => some n
    | .collate (.column _ n _) _ => some n
    | .constant (.text bs) => some (Text.toText bs)
    | _ => none

/-- Table constraints, with optional commas between them; a comma ends the
name a `CONSTRAINT` clause gives. -/
def tableConstraints : Nat → Option String → TableSpec → Parser TableSpec
  | 0, _, spec => return spec
  | fuel + 1, named, spec => do
    if ← acceptWord "CONSTRAINT" then
      let n ← expectName
      tableConstraints fuel (some n) spec
    else if ← acceptWord "PRIMARY" then
      expectWord "KEY"
      expectSymbol "("
      let cols ← indexColumns
      let _ ← acceptWord "AUTOINCREMENT"
      expectSymbol ")"
      conflictClause
      let comma ← acceptSymbol ","
      tableConstraints fuel (if comma then none else named) { spec with primaryKey := cols }
    else if ← acceptWord "UNIQUE" then
      expectSymbol "("
      let cols ← indexColumns
      expectSymbol ")"
      conflictClause
      let comma ← acceptSymbol ","
      tableConstraints fuel (if comma then none else named) { spec with uniques := spec.uniques ++ [cols] }
    else if ← acceptWord "CHECK" then
      let (condition, text) ← checkCondition
      conflictClause
      let spec := { spec with checks := spec.checks ++ [⟨named.getD text, condition⟩] }
      if ← acceptSymbol "," then tableConstraints fuel none spec else tableConstraints fuel named spec
    else if ← acceptWord "FOREIGN" then
      expectWord "KEY"
      expectSymbol "("
      let cols ← names
      expectSymbol ")"
      expectWord "REFERENCES"
      let r ← reference
      let comma ← acceptSymbol ","
      tableConstraints fuel (if comma then none else named) { spec with foreignKeys := spec.foreignKeys ++ [(cols, r)] }
    else return spec

/-- Column definitions separated by commas, then the table constraints. -/
def tableBody : Nat → List ColumnSpec → Parser TableSpec
  | 0, cols => return { columns := cols }
  | fuel + 1, cols => do
    let c ← columnDefinition
    let cols := cols ++ [c]
    if ← acceptSymbol "," then
      match ← peekToken with
      | some t =>
        if t.is "CONSTRAINT" || t.is "PRIMARY" || t.is "UNIQUE" || t.is "CHECK" || t.is "FOREIGN" then
          tableConstraints ((← get).length + 1) none { columns := cols }
        else tableBody fuel cols
      | none => refuse
    else return { columns := cols }

/-- Table options after a table's definition, `WITHOUT ROWID` and `STRICT`,
read into its definition. -/
def tableOptions : Nat → TableSpec → Parser TableSpec
  | 0, spec => return spec
  | fuel + 1, spec => do
    let spec ← if ← acceptWord "WITHOUT" then do
        let _ ← expectName
        pure { spec with withoutRowId := true }
      else match ← acceptName false with
        | some n => pure (if sameName n "STRICT" then { spec with strict := true } else spec)
        | none => return spec
    if ← acceptSymbol "," then tableOptions fuel spec else return spec

/-- A table after `CREATE [TEMP] TABLE`. -/
def tableDefinition : Parser Statement := do
  let ine ← ifNotExists
  let target ← fullName
  if ← acceptWord "AS" then return .createTableAs ine target (← fullQuery)
  expectSymbol "("
  let spec ← tableBody ((← get).length + 1) []
  expectSymbol ")"
  let spec ← tableOptions 4 spec
  return .createTable ine target spec

/-- An index after `CREATE [UNIQUE] INDEX`. -/
def indexDefinition (unique : Bool) : Parser Statement := do
  let ine ← ifNotExists
  let target ← fullName
  expectWord "ON"
  let table ← expectName
  expectSymbol "("
  let es ← sortList ((← get).length + 1)
  expectSymbol ")"
  let condition ← if ← acceptWord "WHERE" then some <$> expr else pure none
  let terms := es.map fun e =>
    let (e, collation) := match e with
      | .collate e c => (e, some c)
      | e => (e, none)
    let term := match e with
      | .column _ n _ => IndexTerm.column n
      | .constant (.text bs) => .column (Text.toText bs)
      | e => .expression e
    (term, collation)
  return .createIndex unique ine target table terms condition

/-- A `CREATE` statement after its keyword. -/
def createStatement : Parser Statement := do
  let temporary ← if (← acceptWord "TEMP") then pure true else acceptWord "TEMPORARY"
  if ← acceptWord "TABLE" then tableDefinition
  else if ← acceptWord "TRIGGER" then triggerDefinition temporary
  else if ← acceptWord "VIEW" then
    let ine ← ifNotExists
    let target ← fullName
    let columns ← if ← acceptSymbol "(" then do
        let ns ← names
        expectSymbol ")"
        pure ns
      else pure []
    expectWord "AS"
    return .createView ine target columns (← fullQuery)
  else if temporary then refuse
  else
    let unique ← acceptWord "UNIQUE"
    expectWord "INDEX"
    indexDefinition unique

/-- A `DROP` statement after its keyword. -/
def dropStatement : Parser Statement := do
  if ← acceptWord "TABLE" then return .dropTable (← ifExists) (← fullName)
  else if ← acceptWord "INDEX" then return .dropIndex (← ifExists) (← fullName)
  else if ← acceptWord "TRIGGER" then return .dropTrigger (← ifExists) (← fullName)
  else if ← acceptWord "VIEW" then return .dropView (← ifExists) (← fullName)
  else refuse

/-- An `ALTER TABLE` statement after its keywords. -/
def alterStatement : Parser Statement := do
  let target ← fullName
  if ← acceptWord "ADD" then
    let _ ← acceptWord "COLUMN"
    return .addColumn target (← columnDefinition)
  else if ← acceptWord "RENAME" then
    if ← acceptWord "TO" then return .renameTable target (← expectName)
    let _ ← acceptWord "COLUMN"
    let old ← expectName
    expectWord "TO"
    return .renameColumn target old (← expectName)
  else if ← acceptWord "DROP" then
    let _ ← acceptWord "COLUMN"
    return .dropColumn target (← expectName)
  else refuse

/-- The value of a `PRAGMA`: a name, a keyword or a signed number. -/
def pragmaValue : Parser String := do
  if (← atSymbol "-") || (← atSymbol "+") then signedNumber
  else match ← peekToken with
    | some t =>
      if t.kind == .integer || t.kind == .real then skipToken; return t.text
      else if t.is "ON" || t.is "DELETE" || t.is "DEFAULT" then skipToken; return t.text
      else expectName
    | none => refuse

/-- A `PRAGMA` after its keyword. -/
def pragmaStatement : Parser Statement := do
  let target ← fullName
  if ← acceptSymbol "=" then return .pragma target.name (some (← pragmaValue))
  else if ← acceptSymbol "(" then
    let v ← pragmaValue
    expectSymbol ")"
    return .pragma target.name (some v)
  return .pragma target.name none

/-- `TRANSACTION` and an optional name after `BEGIN`, `COMMIT` or `ROLLBACK`. -/
def transactionWord : Parser Unit := do
  if ← acceptWord "TRANSACTION" then let _ ← acceptName false

mutual

/-- One statement. -/
def statement : Nat → Parser Statement
  | 0 => refuse
  | fuel + 1 => do
    match ← peekToken with
    | none => refuse
    | some t =>
      if t.is "SELECT" || t.is "VALUES" || t.is "INSERT" || t.is "REPLACE" || t.is "UPDATE" || t.is "DELETE" then
        Statement.change <$> change false
      else if t.is "WITH" then
        skipToken
        let _ ← acceptWord "RECURSIVE"
        let defs ← commonTables (fuelFor (← get)) []
        let c ← change false
        return .change (c.inline defs)
      else if t.is "EXPLAIN" then
        skipToken
        if ← acceptWord "QUERY" then expectWord "PLAN"
        let _ ← statement fuel
        return .inert
      else
        skipToken
        if t.is "CREATE" then createStatement
        else if t.is "DROP" then dropStatement
        else if t.is "ALTER" then
          expectWord "TABLE"
          alterStatement
        else if t.is "PRAGMA" then pragmaStatement
        else if t.is "BEGIN" then
          if !(← acceptWord "DEFERRED") then
            if !(← acceptWord "IMMEDIATE") then let _ ← acceptWord "EXCLUSIVE"
          transactionWord
          return .begin
        else if t.is "COMMIT" || t.is "END" then
          transactionWord
          return .commit
        else if t.is "ROLLBACK" then
          transactionWord
          if ← acceptWord "TO" then
            let _ ← acceptWord "SAVEPOINT"
            return .rollback (some (← expectName))
          return .rollback none
        else if t.is "SAVEPOINT" then return .savepoint (← expectName)
        else if t.is "RELEASE" then
          let _ ← acceptWord "SAVEPOINT"
          return .release (← expectName)
        else if t.is "VACUUM" || t.is "ANALYZE" || t.is "REINDEX" || t.is "DETACH" || t.is "ATTACH" then
          skipRest fuel
          return .inert
        else throw (.near t.text)

/-- Drops the tokens up to the end of the statement. -/
def skipRest : Nat → Parser Unit
  | 0 => return
  | fuel + 1 => do
    match ← peekToken with
    | none => return
    | some t => if t.isSymbol ";" then return else do skipToken; skipRest fuel

end

/-- Drops leading semicolons. -/
def skipSemicolons : Nat → Parser Unit
  | 0 => return
  | fuel + 1 => do if ← acceptSymbol ";" then skipSemicolons fuel

/-- The next statement, `none` when only semicolons remain; a statement ends at
a semicolon or at the end of the text. -/
def nextStatement : Parser (Option Statement) := do
  skipSemicolons ((← get).length + 1)
  match ← peekToken with
  | none => return none
  | some _ =>
    let s ← statement ((← get).length + 2)
    match ← peekToken with
    | none => return some s
    | some t => if t.isSymbol ";" then skipToken; return some s else refuse

end Airspace.Store
