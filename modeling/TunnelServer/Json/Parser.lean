import TunnelServer.Json.Token

/-!
# Reading and writing JSON values

A value is read by a machine that takes one token at a time and keeps the brackets that are open on
a stack, so that the depth of a value costs nothing but stack entries.  It is written token by
token, without blanks.
-/

namespace TunnelServer.Json

/-- An open bracket and what stands inside it so far, the latest first. -/
inductive Frame where
  | array (done : List Value)
  /-- An object in which the value of a key is being read. -/
  | object (done : List (List Nat × Value)) (key : List Nat)

/-- What may come next, or has just been completed. -/
inductive Point where
  | value
  /-- A value or the end of an empty array must follow. -/
  | firstItem
  /-- A key or the end of an empty object must follow. -/
  | firstKey
  | key (done : List (List Nat × Value))
  | colon (done : List (List Nat × Value)) (key : List Nat)
  | complete (value : Value)

structure Machine where
  point : Point
  stack : List Frame

namespace Machine

def start : Machine := ⟨.value, []⟩

/-- Takes the first token of a value. -/
def openValue? (stack : List Frame) : Token → Option Machine
  | .null => some ⟨.complete .null, stack⟩
  | .bool value => some ⟨.complete (.bool value), stack⟩
  | .number literal => some ⟨.complete (.number literal), stack⟩
  | .string points => some ⟨.complete (.string points), stack⟩
  | .openArray => some ⟨.firstItem, .array [] :: stack⟩
  | .openObject => some ⟨.firstKey, stack⟩
  | _ => none

/-- Takes the token after a complete value. -/
def close? (value : Value) : List Frame → Token → Option Machine
  | .array done :: stack, .comma => some ⟨.value, .array (value :: done) :: stack⟩
  | .array done :: stack, .closeArray => some ⟨.complete (.array (value :: done).reverse), stack⟩
  | .object done key :: stack, .comma => some ⟨.key ((key, value) :: done), stack⟩
  | .object done key :: stack, .closeObject =>
    some ⟨.complete (.object ((key, value) :: done).reverse), stack⟩
  | _, _ => none

/-- Takes one token, if it may stand here. -/
def step? (machine : Machine) (token : Token) : Option Machine :=
  match machine.point, token with
  | .value, token => openValue? machine.stack token
  | .firstItem, .closeArray =>
    match machine.stack with
    | .array done :: stack => some ⟨.complete (.array done.reverse), stack⟩
    | _ => none
  | .firstItem, token => openValue? machine.stack token
  | .firstKey, .closeObject => some ⟨.complete (.object []), machine.stack⟩
  | .firstKey, .string key => some ⟨.colon [] key, machine.stack⟩
  | .key done, .string key => some ⟨.colon done key, machine.stack⟩
  | .colon done key, .colon => some ⟨.value, .object done key :: machine.stack⟩
  | .complete value, token => close? value machine.stack token
  | _, _ => none

/-- The value that has been read, if the text may end here. -/
def result? (machine : Machine) : Option Value :=
  match machine.point, machine.stack with
  | .complete value, [] => some value
  | _, _ => none

end Machine

namespace Value

/-- The value that tokens spell. -/
def ofTokens? (tokens : List Token) : Option Value :=
  tokens.foldlM Machine.step? Machine.start >>= Machine.result?

/-- The value that a text spells, with blanks around its tokens and nothing after it. -/
def parse? (text : String) : Option Value := tokens? text.toList >>= ofTokens?

mutual

def tokens : Value → List Token
  | null => [.null]
  | bool value => [.bool value]
  | number literal => [.number literal]
  | string points => [.string points]
  | array items => .openArray :: itemTokens items ++ [.closeArray]
  | object members => .openObject :: memberTokens members ++ [.closeObject]

def itemTokens : List Value → List Token
  | [] => []
  | [item] => tokens item
  | item :: next :: rest => tokens item ++ .comma :: itemTokens (next :: rest)

def memberTokens : List (List Nat × Value) → List Token
  | [] => []
  | [(key, value)] => .string key :: .colon :: tokens value
  | (key, value) :: next :: rest =>
    .string key :: .colon :: tokens value ++ .comma :: memberTokens (next :: rest)

end

def write (value : Value) : List Char := value.tokens.flatMap Token.write

def toText (value : Value) : String := String.ofList value.write

end Value

end TunnelServer.Json
