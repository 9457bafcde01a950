import MoveClient.Address.Text
import MoveClient.Text.Blank

/-!
Reading types.

The grammar, with blanks allowed around and between tokens, and tokens as long as they can be:

    Type      ::= Primitive | vector<Type> | &Type | T digits | Struct
    Struct    ::= 0x hex ::Identifier::Identifier Arguments?
    Arguments ::= < Type , ... , Type >

A failure stops the reader with the number of characters that were left; `TypeTag.parse` turns
that into a position in the text. Of two nested calls one consumes a character at least, so twice
as many calls as there are characters are enough.
-/

namespace MoveClient

/-- Whether a character may stand in a token. -/
def isTokenCharacter (c : Char) : Bool :=
  ('a' ≤ c && c ≤ 'z') || ('A' ≤ c && c ≤ 'Z') || ('0' ≤ c && c ≤ '9') || c == '_'

namespace TypeTag

/-- Why reading stopped: a fault with the number of characters left, or a type parameter whose
number has too many digits. -/
inductive Stop where
  | fault (fault : TypeTextFault) (remaining : Nat)
  | numberTooLong
deriving DecidableEq, Repr

/-- Skips blanks. -/
def skipBlanks (text : List Char) : List Char :=
  text.dropWhile isBlank

/-- The longest token at the front, and the rest. -/
def token (text : List Char) : List Char × List Char :=
  (text.takeWhile isTokenCharacter, text.dropWhile isTokenCharacter)

/-- The most digits in the number of a type parameter. -/
def maxGenericDigits : Nat := 4300

/-- The digits of a token `T` digits. -/
def genericDigits? : List Char → Option (List Char)
  | 'T' :: digit :: digits =>
      if (digit :: digits).all Char.isDigit then some (digit :: digits) else none
  | _ => none

/-- Whether the text goes on with the word `mut`. -/
def startsWithMut : List Char → Bool
  | 'm' :: 'u' :: 't' :: rest =>
      match rest with
      | c :: _ => !isTokenCharacter c
      | [] => true
  | _ => false

/-- Skips blanks and the two colons after them. -/
def colons (text : List Char) : Except Stop (List Char) :=
  match skipBlanks text with
  | ':' :: ':' :: rest => .ok rest
  | rest => .error (.fault .expectedColons rest.length)

/-- Skips blanks and reads an identifier, which does not start with a digit. -/
def identifier (text : List Char) : Except Stop (String × List Char) :=
  let start := skipBlanks text
  let (name, rest) := token start
  match name with
  | [] => .error (.fault .expectedIdentifier start.length)
  | first :: _ =>
      if first.isDigit then
        .error (.fault (.identifierStartsWithDigit (String.ofList name)) start.length)
      else .ok (String.ofList name, rest)

/-- Reads the address in front of a structure's colons; `start` is what was left before it. -/
def structAddress (name : List Char) (start : Nat) : Except Stop Address :=
  match name with
  | '0' :: 'x' :: _ =>
      match Address.parseRelaxed (String.ofList name) with
      | .ok address => .ok address
      | .error cause => .error (.fault (.invalidAddress cause) start)
  | _ => .error (.fault .addressWithoutMarker start)

/-- Reads what follows the first token of a type; `start` is what was left before the token, and
`arguments` reads type arguments after the opening bracket. -/
def readNamed
    (genericsAllowed : Bool)
    (arguments : List Char → Except Stop (List TypeTag × List Char))
    (name : List Char)
    (start : Nat) :
    List Char → Except Stop (TypeTag × List Char)
  | ':' :: ':' :: rest => do
      let address ← structAddress name start
      let (module, rest) ← identifier rest
      let rest ← colons rest
      let (structName, rest) ← identifier rest
      match skipBlanks rest with
      | '<' :: rest => do
          let (typeArguments, rest) ← arguments rest
          .ok (.struct address module structName typeArguments, rest)
      | rest => .ok (.struct address module structName [], rest)
  | rest =>
      match PrimitiveType.ofName? (String.ofList name) with
      | some type =>
          match rest with
          | '<' :: _ => .error (.fault (.takesNoParameters (String.ofList name)) rest.length)
          | _ => .ok (.primitive type, rest)
      | none =>
          if String.ofList name = "vector" then
            match rest with
            | '<' :: rest => do
                let (typeArguments, rest) ← arguments rest
                match typeArguments with
                | [element] => .ok (.vector element, rest)
                | _ => .error (.fault (.vectorParameterCount typeArguments.length) rest.length)
            | _ => .error (.fault .vectorWithoutParameter rest.length)
          else
            match genericDigits? name with
            | some digits =>
                if !genericsAllowed then .error (.fault .genericNotAllowed start)
                else if maxGenericDigits < digits.length then .error .numberTooLong
                else .ok (.generic (Nat.ofDigitChars 10 digits 0), rest)
            | none => .error (.fault (.unknownType (String.ofList name)) start)

mutual

/-- Reads one type. -/
def readType (genericsAllowed : Bool) : (fuel : Nat) → List Char → Except Stop (TypeTag × List Char)
  | 0, text => .error (.fault .unexpectedEnd text.length)
  | fuel + 1, text =>
      match skipBlanks text with
      | [] => .error (.fault .unexpectedEnd 0)
      | '&' :: rest =>
          let inner := skipBlanks rest
          if startsWithMut inner then .error (.fault .mutableReference inner.length)
          else
            match readType genericsAllowed fuel inner with
            | .ok (target, rest) => .ok (.reference target, rest)
            | .error stop => .error stop
      | c :: tail =>
          let start := c :: tail
          if c = ',' then .error (.fault .unexpectedComma start.length)
          else if c = '<' ∨ c = '>' then .error (.fault (.unexpectedBracket c) start.length)
          else
            let (name, afterName) := token start
            if name = [] then .error (.fault (.unexpectedCharacter c) start.length)
            else
              readNamed genericsAllowed (fun text => readArguments genericsAllowed fuel text []) name
                start.length (skipBlanks afterName)

/-- Reads type arguments after the opening bracket or a comma; `done` holds those already read,
last first. -/
def readArguments (genericsAllowed : Bool) :
    (fuel : Nat) → List Char → (done : List TypeTag) → Except Stop (List TypeTag × List Char)
  | 0, text, _ => .error (.fault .unmatchedOpen text.length)
  | fuel + 1, text, done =>
      match skipBlanks text with
      | [] => .error (.fault .unmatchedOpen 0)
      | '>' :: rest =>
          let fault := if done = [] then .emptyParameterList else .trailingComma
          .error (.fault fault (rest.length + 1))
      | start => do
          let (argument, rest) ← readType genericsAllowed fuel start
          match skipBlanks rest with
          | [] => .error (.fault .unmatchedOpen 0)
          | '>' :: rest => .ok ((argument :: done).reverse, rest)
          | ',' :: rest =>
              match skipBlanks rest with
              | ',' :: rest => .error (.fault .unexpectedComma (rest.length + 1))
              | rest => readArguments genericsAllowed fuel rest (argument :: done)
          | rest => .error (.fault .expectedSeparator rest.length)

end

/-- Reads a whole text as a type. -/
def parse (text : String) (genericsAllowed : Bool) : Except Error TypeTag :=
  let characters := text.toList
  let failAt (fault : TypeTextFault) (remaining : Nat) : Except Error TypeTag :=
    .error (.typeText ⟨fault, some (characters.length - remaining), text⟩)
  if skipBlanks characters = [] then .error (.typeText ⟨.empty, none, text⟩)
  else
    match readType genericsAllowed (2 * characters.length + 2) characters with
    | .error (.fault fault remaining) => failAt fault remaining
    | .error .numberTooLong => .error .numberTooLong
    | .ok (tag, rest) =>
        match skipBlanks rest with
        | [] => .ok tag
        | '>' :: rest => failAt .unmatchedClose (rest.length + 1)
        | ',' :: rest => failAt .unexpectedComma (rest.length + 1)
        | rest => failAt .trailingCharacters rest.length

end TypeTag

/-- Reads a whole text as a structure type without type parameters. -/
def StructTag.parse (text : String) : Except Error StructTag :=
  match TypeTag.parse text false with
  | .error error => .error error
  | .ok tag =>
      match tag.struct? with
      | some struct => .ok struct
      | none => .error (.typeText ⟨.notStruct, none, text⟩)

end MoveClient
