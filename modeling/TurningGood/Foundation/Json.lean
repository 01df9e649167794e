import TurningGood.Foundation.Utf8

/-!
# JSON texts

`json.dumps` with `ensure_ascii=False` and `json.loads`.  A number is kept as
the text that it is written with, and the members of an object keep the order
of a dictionary.

The reader goes through a text once, one code point after the other, with a
stack of the arrays and objects that are open.  Reading a written text gives
the value back, and a text that has been cut off, or that is followed by
another one, is refused.
-/

namespace TurningGood.Foundation

/-! ## Values -/

namespace JsonNumber

/-- A decimal digit. -/
def isDigit (char : Char) : Bool := '0' ≤ char && char ≤ '9'

/-- A character that occurs in numbers. -/
def isNumberChar (char : Char) : Bool :=
  isDigit char || char = '-' || char = '+' || char = '.' || char = 'e' || char = 'E'

/-- A number begins with this character. -/
def isNumberStart (char : Char) : Bool := isDigit char || char = '-'

/-- At least one digit, and nothing else. -/
def isDigits (chars : List Char) : Bool := !chars.isEmpty && chars.all isDigit

/-- The exponent of a number, which may be missing. -/
def isExponent : List Char → Bool
  | [] => true
  | mark :: rest =>
    (mark = 'e' || mark = 'E') &&
      match rest with
      | '+' :: digits | '-' :: digits => isDigits digits
      | digits => isDigits digits

/-- The fraction of a number, which may be missing, and its exponent. -/
def isFraction : List Char → Bool
  | '.' :: rest =>
    (rest.takeWhile isDigit ≠ []) && isExponent (rest.dropWhile isDigit)
  | rest => isExponent rest

/-- A number without its sign. -/
def isUnsigned : List Char → Bool
  | [] => false
  | '0' :: rest => isFraction rest
  | digit :: rest => isDigit digit && isFraction (rest.dropWhile isDigit)

/-- A number with its sign, which may be missing. -/
def isSigned : List Char → Bool
  | '-' :: rest => isUnsigned rest
  | rest => isUnsigned rest

/-- The grammar of numbers. -/
def isNumber (lexeme : List Char) : Bool := lexeme.all isNumberChar && isSigned lexeme

end JsonNumber

/-- A number, written as `json.dumps` writes it. -/
inductive JsonNumber where
  | finite (lexeme : List Char) (valid : JsonNumber.isNumber lexeme = true)
  | nan
  | infinity
  | negativeInfinity
  deriving DecidableEq

/-- A value that JSON texts stand for. -/
inductive Json where
  | null
  | bool (value : Bool)
  | number (value : JsonNumber)
  | string (text : CodePoints)
  | array (items : List Json)
  | object (members : List (CodePoints × Json))

namespace Json

mutual

/-- The keys of every object are different. -/
def Proper : Json → Prop
  | array items => ProperItems items
  | object members => (members.map (·.1)).Nodup ∧ ProperMembers members
  | null | bool _ | number _ | string _ => True

/-- The keys of every object in a list are different. -/
def ProperItems : List Json → Prop
  | [] => True
  | item :: rest => item.Proper ∧ ProperItems rest

/-- The keys of every object among the members are different. -/
def ProperMembers : List (CodePoints × Json) → Prop
  | [] => True
  | (_, value) :: rest => value.Proper ∧ ProperMembers rest

end

/-- `value.get(key)` of an object. -/
def get? (key : CodePoints) : Json → Option Json
  | object members => (members.find? (·.1 = key)).map (·.2)
  | _ => none

/-! ## Writing -/

/-- A hexadecimal digit. -/
def hexDigit (value : Nat) : Char :=
  if value < 10 then Char.ofNat (48 + value) else Char.ofNat (87 + value)

/-- A scalar value in a string. -/
def escapeChar (char : Char) : List Char :=
  if char = '"' then ['\\', '"']
  else if char = '\\' then ['\\', '\\']
  else if char = '\n' then ['\\', 'n']
  else if char = '\r' then ['\\', 'r']
  else if char = '\t' then ['\\', 't']
  else if char.toNat = 0xC then ['\\', 'f']
  else if char.toNat = 0x8 then ['\\', 'b']
  else if char.toNat < 0x20 then
    ['\\', 'u', '0', '0', hexDigit (char.toNat / 16), hexDigit (char.toNat % 16)]
  else [char]

/-- A code point in a string. -/
def escape : CodePoint → CodePoints
  | .scalar char => textOf (escapeChar char)
  | .surrogate offset => [.surrogate offset]

/-- A string. -/
def dumpsString (text : CodePoints) : CodePoints :=
  .scalar '"' :: (text.flatMap escape ++ [.scalar '"'])

/-- A number. -/
def dumpsNumber : JsonNumber → CodePoints
  | .finite lexeme _ => textOf lexeme
  | .nan => textOf ['N', 'a', 'N']
  | .infinity => textOf ['I', 'n', 'f', 'i', 'n', 'i', 't', 'y']
  | .negativeInfinity =>
    textOf ['-', 'I', 'n', 'f', 'i', 'n', 'i', 't', 'y']

mutual

/-- `json.dumps(value, ensure_ascii=False)`. -/
def dumps : Json → CodePoints
  | null => textOf ['n', 'u', 'l', 'l']
  | bool true => textOf ['t', 'r', 'u', 'e']
  | bool false => textOf ['f', 'a', 'l', 's', 'e']
  | number value => dumpsNumber value
  | string text => dumpsString text
  | array [] => textOf ['[', ']']
  | array (item :: rest) =>
    .scalar '[' :: (dumps item ++ dumpsItems rest)
  | object [] => textOf ['{', '}']
  | object ((key, value) :: rest) =>
    .scalar '{' :: (dumpsString key ++ (textOf [':', ' '] ++ (dumps value ++ dumpsMembers rest)))

/-- The items behind the first one, and the end of the array. -/
def dumpsItems : List Json → CodePoints
  | [] => [.scalar ']']
  | item :: rest => textOf [',', ' '] ++ (dumps item ++ dumpsItems rest)

/-- The members behind the first one, and the end of the object. -/
def dumpsMembers : List (CodePoints × Json) → CodePoints
  | [] => [.scalar '}']
  | (key, value) :: rest =>
    textOf [',', ' '] ++ (dumpsString key ++
      (textOf [':', ' '] ++ (dumps value ++ dumpsMembers rest)))

end

/-! ## Reading -/

/-- An array or an object that is open. -/
inductive Frame where
  | array (items : List Json)
  | object (members : List (CodePoints × Json)) (key : Option CodePoints)

/--
Where the reader is in a string.  It remembers whether the last code point
is a high surrogate that was written as an escape sequence.
-/
inductive Escape where
  | plain (high : Bool)
  | backslash (high : Bool)
  | unicode (high : Bool) (digits value : Nat)
  deriving DecidableEq

/-- What the reader expects. -/
inductive Mode where
  | value
  | firstItem
  | firstKey
  | key
  | colon
  | string (text : CodePoints) (escape : Escape)
  | number (lexeme : List Char)
  | literal (rest : List Char) (value : Json)
  | done (value : Json)

/-- The reader between two code points. -/
structure Reader where
  mode : Mode
  stack : List Frame

/-- White space between the tokens. -/
def isBlank (char : Char) : Bool := char = ' ' || char = '\t' || char = '\n' || char = '\r'

/-- The value of a hexadecimal digit. -/
def hexValue? (char : Char) : Option Nat :=
  if '0' ≤ char ∧ char ≤ '9' then some (char.toNat - 48)
  else if 'a' ≤ char ∧ char ≤ 'f' then some (char.toNat - 87)
  else if 'A' ≤ char ∧ char ≤ 'F' then some (char.toNat - 55)
  else none

/-- Put a member into an object, in the place of an earlier one. -/
def putMember (members : List (CodePoints × Json)) (key : CodePoints)
    (value : Json) : List (CodePoints × Json) :=
  if members.any (·.1 = key) then
    members.map fun member => if member.1 = key then (key, value) else member
  else
    members ++ [(key, value)]

namespace Reader

/-- A complete value, with what is open around it. -/
def complete (value : Json) : List Frame → Reader
  | stack => { mode := .done value, stack }

/-- The end of a string, which is a key or a value. -/
def endString (text : CodePoints) : List Frame → Reader
  | .object members none :: stack =>
    { mode := .colon, stack := .object members (some text) :: stack }
  | stack => complete (.string text) stack

/-- The beginning of a value. -/
def beginValue (stack : List Frame) (char : Char) : Option Reader :=
  if JsonNumber.isNumberStart char then
    some { mode := .number [char], stack }
  else if char = '"' then
    some { mode := .string [] (.plain false), stack }
  else if char = '[' then
    some { mode := .firstItem, stack := .array [] :: stack }
  else if char = '{' then
    some { mode := .firstKey, stack := .object [] none :: stack }
  else if char = 'n' then
    some { mode := .literal ['u', 'l', 'l'] .null, stack }
  else if char = 't' then
    some { mode := .literal ['r', 'u', 'e'] (.bool true), stack }
  else if char = 'f' then
    some { mode := .literal ['a', 'l', 's', 'e'] (.bool false), stack }
  else if char = 'N' then
    some { mode := .literal ['a', 'N'] (.number .nan), stack }
  else if char = 'I' then
    some {
      mode := .literal ['n', 'f', 'i', 'n', 'i', 't', 'y'] (.number .infinity)
      stack }
  else
    none

/-- What follows a complete value. -/
def afterValue (value : Json) (stack : List Frame) (char : Char) :
    Option Reader :=
  if isBlank char then
    some (complete value stack)
  else
    match stack with
    | [] => none
    | .array items :: rest =>
      if char = ',' then
        some { mode := .value, stack := .array (items ++ [value]) :: rest }
      else if char = ']' then
        some (complete (.array (items ++ [value])) rest)
      else
        none
    | .object members (some key) :: rest =>
      if char = ',' then
        some {
          mode := .key
          stack := .object (putMember members key value) none :: rest }
      else if char = '}' then
        some (complete (.object (putMember members key value)) rest)
      else
        none
    | .object _ none :: _ => none

/-- Two escaped surrogates that make one scalar value. -/
def joinSurrogates (text : CodePoints) (low : Nat) : CodePoints :=
  match text.getLast? with
  | some (.surrogate offset) =>
    text.dropLast ++ [.ofNat (0x10000 + offset.val * 0x400 + (low - 0xDC00))]
  | _ => text

/-- A code point that was written as an escape sequence. -/
def endUnicode (text : CodePoints) (high : Bool) (value : Nat) (stack : List Frame) : Reader :=
  if high ∧ 0xDC00 ≤ value ∧ value < 0xE000 then
    { mode := .string (joinSurrogates text value) (.plain false), stack }
  else
    { mode := .string (text ++ [.ofNat value])
        (.plain (0xD800 ≤ value ∧ value < 0xDC00))
      stack }

/-- What an escape sequence of one letter stands for. -/
def unescape? (char : Char) : Option Char :=
  if char = '"' then some '"'
  else if char = '\\' then some '\\'
  else if char = '/' then some '/'
  else if char = 'b' then some (Char.ofNat 0x8)
  else if char = 'f' then some (Char.ofNat 0xC)
  else if char = 'n' then some '\n'
  else if char = 'r' then some '\r'
  else if char = 't' then some '\t'
  else none

/-- A code point within a string. -/
def inString (text : CodePoints) (stack : List Frame) : Escape → CodePoint → Option Reader
  | .plain _, .surrogate offset =>
    some {
      mode := .string (text ++ [.surrogate offset]) (.plain false)
      stack }
  | .plain high, .scalar char =>
    if char = '"' then
      some (endString text stack)
    else if char = '\\' then
      some { mode := .string text (.backslash high), stack }
    else if char.toNat < 0x20 then
      none
    else
      some {
        mode := .string (text ++ [.scalar char]) (.plain false)
        stack }
  | .backslash high, .scalar char =>
    if char = 'u' then
      some { mode := .string text (.unicode high 0 0), stack }
    else
      (unescape? char).map fun meant =>
        { mode := .string (text ++ [.scalar meant]) (.plain false), stack }
  | .unicode high digits value, .scalar char =>
    (hexValue? char).map fun digit =>
      if digits = 3 then
        endUnicode text high (value * 16 + digit) stack
      else
        { mode := .string text
            (.unicode high (digits + 1) (value * 16 + digit))
          stack }
  | .backslash _, .surrogate _ | .unicode _ _ _, .surrogate _ => none

/-- A code point behind a part of a number. -/
def inNumber (lexeme : List Char) (stack : List Frame) (char : Char) :
    Option Reader :=
  if JsonNumber.isNumberChar char then
    some { mode := .number (lexeme ++ [char]), stack }
  else if lexeme = ['-'] ∧ char = 'I' then
    some {
      mode := .literal ['n', 'f', 'i', 'n', 'i', 't', 'y'] (.number .negativeInfinity)
      stack }
  else if valid : JsonNumber.isNumber lexeme = true then
    afterValue (.number (.finite lexeme valid)) stack char
  else
    none

/-- A code point within a literal. -/
def inLiteral (value : Json) (stack : List Frame) (char : Char) : List Char → Option Reader
  | [] => none
  | [last] => if char = last then some (complete value stack) else none
  | next :: rest =>
    if char = next then
      some { mode := .literal rest value, stack }
    else
      none

/-- The reader takes a scalar value outside of strings. -/
def token (stack : List Frame) (char : Char) : Mode → Option Reader
  | .value =>
    if isBlank char then some { mode := .value, stack }
    else beginValue stack char
  | .firstItem =>
    if isBlank char then some { mode := .firstItem, stack }
    else if char = ']' then some (complete (.array []) stack.tail)
    else beginValue stack char
  | .firstKey =>
    if isBlank char then some { mode := .firstKey, stack }
    else if char = '}' then some (complete (.object []) stack.tail)
    else if char = '"' then
      some { mode := .string [] (.plain false), stack }
    else none
  | .key =>
    if isBlank char then some { mode := .key, stack }
    else if char = '"' then
      some { mode := .string [] (.plain false), stack }
    else none
  | .colon =>
    if isBlank char then some { mode := .colon, stack }
    else if char = ':' then some { mode := .value, stack }
    else none
  | .number lexeme => inNumber lexeme stack char
  | .literal rest value => inLiteral value stack char rest
  | .done value => afterValue value stack char
  | .string text escape => inString text stack escape (.scalar char)

/-- The reader takes a code point. -/
def step (reader : Reader) (point : CodePoint) : Option Reader :=
  match reader.mode, point with
  | .string text escape, point => inString text reader.stack escape point
  | mode, .scalar char => token reader.stack char mode
  | _, .surrogate _ => none

/-- The reader takes a text. -/
def run (reader : Reader) (text : CodePoints) : Option Reader := text.foldlM step reader

/-- The value at the end of a text. -/
def result? (reader : Reader) : Option Json :=
  match reader.mode, reader.stack with
  | .done value, [] => some value
  | .number lexeme, [] =>
    if valid : JsonNumber.isNumber lexeme = true then
      some (.number (.finite lexeme valid))
    else
      none
  | _, _ => none

end Reader

/-- `json.loads`. -/
def loads (text : CodePoints) : Option Json :=
  (Reader.run { mode := .value, stack := [] } text).bind Reader.result?

end Json

end TurningGood.Foundation
