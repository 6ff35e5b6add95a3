import TokenRotation.Json.Number
import TokenRotation.Json.Text

/-!
# Skipping a value of a JSON text

A value whose content does not matter is read for its form alone. The lists and objects that are
open are kept in a stack, so their nesting has no limit. Every step but the last takes at least one
byte, so as many steps as there are bytes, and one, are enough.
-/

namespace TokenRotation.Json

/-- What is open around the place where a text is read. -/
inductive Bracket
  | list
  | object
deriving DecidableEq, Repr

/-- What is expected next. -/
inductive Expected
  | value
  /-- What may follow a value. -/
  | rest
deriving DecidableEq, Repr

/-- Takes the given bytes off the front. -/
def literal? (word bytes : List UInt8) : Option (List UInt8) :=
  if word.isPrefixOf bytes then some (bytes.drop word.length) else none

/-- The bytes of `null`, `true` and `false`. -/
def wordNull : List UInt8 := [0x6e, 0x75, 0x6c, 0x6c]

@[inherit_doc wordNull] def wordTrue : List UInt8 := [0x74, 0x72, 0x75, 0x65]

@[inherit_doc wordNull] def wordFalse : List UInt8 := [0x66, 0x61, 0x6c, 0x73, 0x65]

/-- Skips a value that is neither a list nor an object. -/
def skipScalar? : List UInt8 → Option (List UInt8)
  | quote :: rest => Text.skip? rest
  | minus :: rest => (Number.read? rest).map (·.2)
  | bytes =>
    match bytes.head? with
    | none => none
    | some b =>
      if Number.isDigit b then (Number.read? bytes).map (·.2)
      else (literal? wordNull bytes <|> literal? wordTrue bytes <|> literal? wordFalse bytes)

/-- Skips the key of a member and its colon. -/
def skipKey? (bytes : List UInt8) : Option (List UInt8) :=
  match skipSpace bytes with
  | quote :: rest =>
    match Text.skip? rest with
    | none => none
    | some rest =>
      match skipSpace rest with
      | colon :: rest => some rest
      | _ => none
  | _ => none

/-- Skips what is expected and everything up to the end of the outermost value, in at most `steps`
    steps. -/
def skipOpen? : (steps : Nat) → Expected → List Bracket → List UInt8 → Option (List UInt8)
  | 0, _, _, _ => none
  | steps + 1, .value, stack, bytes =>
    match skipSpace bytes with
    | openList :: rest =>
      match skipSpace rest with
      | closeList :: rest => skipOpen? steps .rest stack rest
      | _ => skipOpen? steps .value (.list :: stack) rest
    | openObject :: rest =>
      match skipSpace rest with
      | closeObject :: rest => skipOpen? steps .rest stack rest
      | _ =>
        match skipKey? rest with
        | some rest => skipOpen? steps .value (.object :: stack) rest
        | none => none
    | bytes =>
      match skipScalar? bytes with
      | some rest => skipOpen? steps .rest stack rest
      | none => none
  | _ + 1, .rest, [], bytes => some bytes
  | steps + 1, .rest, .list :: stack, bytes =>
    match skipSpace bytes with
    | comma :: rest => skipOpen? steps .value (.list :: stack) rest
    | closeList :: rest => skipOpen? steps .rest stack rest
    | _ => none
  | steps + 1, .rest, .object :: stack, bytes =>
    match skipSpace bytes with
    | comma :: rest =>
      match skipKey? rest with
      | some rest => skipOpen? steps .value (.object :: stack) rest
      | none => none
    | closeObject :: rest => skipOpen? steps .rest stack rest
    | _ => none

/-- Skips one value, and answers with what follows it. -/
def skipValue? (bytes : List UInt8) : Option (List UInt8) :=
  skipOpen? (bytes.length + 1) .value [] bytes

end TokenRotation.Json
