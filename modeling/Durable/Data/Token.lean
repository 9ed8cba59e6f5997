import Durable.Data.Value

/-! The tokens waits are registered under, and what an event wait keeps in its token. -/

namespace Durable

/-- The four digits of a control character's escape. -/
def hexDigits (code : Nat) : List Char :=
  let digit := fun n : Nat => if n < 10 then Char.ofNat (48 + n) else Char.ofNat (87 + n)
  [digit (code / 4096 % 16), digit (code / 256 % 16), digit (code / 16 % 16), digit (code % 16)]

/-- A character inside a serialized text. -/
def escaped (char : Char) : List Char :=
  match char.toNat with
  | 8 => ['\\', 'b']
  | 9 => ['\\', 't']
  | 10 => ['\\', 'n']
  | 12 => ['\\', 'f']
  | 13 => ['\\', 'r']
  | 34 => ['\\', char]
  | 92 => ['\\', char]
  | code => if code < 32 then ['\\', 'u'] ++ hexDigits code else [char]

/-- A serialized text. -/
def quoted (text : String) : String :=
  String.ofList ('"' :: text.toList.flatMap escaped ++ ['"'])

mutual

/-- The serialization of a value. -/
def Value.stringify : Value → String
  | .null => "null"
  | .bool flag => if flag then "true" else "false"
  | .num number => toString number
  | .str text => quoted text
  | .arr items => "[" ++ stringifyItems items ++ "]"
  | .obj fields => String.singleton (Char.ofNat 123) ++ stringifyFields fields ++
      String.singleton (Char.ofNat 125)

/-- The serializations of an array's items. -/
def stringifyItems : List Value → String
  | [] => ""
  | [item] => item.stringify
  | item :: rest => item.stringify ++ "," ++ stringifyItems rest

/-- The serializations of an object's fields. -/
def stringifyFields : List (String × Value) → String
  | [] => ""
  | [(key, value)] => quoted key ++ ":" ++ value.stringify
  | (key, value) :: rest => quoted key ++ ":" ++ value.stringify ++ "," ++ stringifyFields rest

end

/-- The digit of six bits. -/
def base64Digit (bits : Nat) : Char :=
  "ABCDEFGHIJKLMNOPQRSTUVWXYZabcdefghijklmnopqrstuvwxyz0123456789+/".toList.getD bits '='

/-- The digits of a list of bytes, padded to a multiple of four. -/
def base64Digits : List Nat → List Char
  | [] => []
  | [a] => [base64Digit (a / 4), base64Digit (a % 4 * 16), '=', '=']
  | [a, b] =>
    [base64Digit (a / 4), base64Digit (a % 4 * 16 + b / 16), base64Digit (b % 16 * 4), '=']
  | a :: b :: c :: rest =>
    [base64Digit (a / 4), base64Digit (a % 4 * 16 + b / 16),
      base64Digit (b % 16 * 4 + c / 64), base64Digit (c % 64)] ++ base64Digits rest

/-- A text in base64, which holds no colon. -/
def enc (text : String) : String :=
  String.ofList (base64Digits (text.toUTF8.toList.map UInt8.toNat))

/-- What an event has to carry to resume a wait. -/
abbrev EventMatch := List (String × Value)

/-- The token a wait is registered under. -/
inductive Token where
  | named (text : String)
  /-- The token of one `ctx.waitForEvent` call: its event, its match, and its own position. -/
  | event (name : String) (criteria : EventMatch) (runId : String) (seq : Nat)
deriving Repr, DecidableEq, Inhabited

/-- The prefix of every token that waits for an event. -/
def eventPrefix (name : String) : String := "event:" ++ enc name ++ ":"

/-- The token as it is stored. -/
def Token.text : Token → String
  | named text => text
  | event name criteria runId seq =>
    eventPrefix name ++ enc (Value.obj criteria).stringify ++ ":" ++ runId ++ "#" ++ toString seq

/-- The unique token of one `ctx.waitForEvent` call. -/
def eventToken (name : String) (criteria : Option EventMatch) (runId : String) (seq : Nat) :
    Token :=
  .event name (criteria.getD []) runId seq

/-- The match a token carries. -/
def eventMatchOf : Token → EventMatch
  | .event _ criteria _ _ => criteria
  | .named _ => []

/-- Whether a token waits for an event of this name. -/
def Token.awaits (name : String) : Token → Bool
  | .event other _ _ _ => other == name
  | .named _ => false

/-- A property of a JSON object or array as JavaScript reads it. -/
def Value.property : Value → String → Option Value
  | .obj fields, key => fields.lookup key
  | .arr items, key =>
    if key = "length" then some (.num items.length)
    else (items.zipIdx.find? fun item => toString item.2 == key).map Prod.fst
  | _, _ => none

/-- Whether a payload has every property a wait's match asks for. -/
def eventMatches (payload : Option Value) (criteria : EventMatch) : Bool :=
  if criteria.isEmpty then true
  else
    match payload with
    | some (.obj fields) =>
      criteria.all fun entry => (Value.obj fields).property entry.1 == some entry.2
    | some (.arr items) =>
      criteria.all fun entry => (Value.arr items).property entry.1 == some entry.2
    | _ => false

/-- The token of one `ctx.waitForRun` call. -/
def runWaitToken (target runId : String) (seq : Nat) : Token :=
  .named s!"runwait:{target}#{runId}#{seq}"

/-- The token of a breakpoint. -/
def breakpointToken (runId : String) (seq : Nat) : Token :=
  .named s!"bp:{runId}:{seq}"

/-- The token a compensating cancel is marked under. -/
def cancelToken (runId : String) : Token := .named ("cancel:" ++ runId)

/-- The token a child's completion is signalled on. -/
def childToken (childId : String) : Token := .named ("child:" ++ childId)

end Durable
