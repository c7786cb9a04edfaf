import ViewportScaling.Text.Quotation

/-!
# Decoding UTF-8

Bytes are decoded strictly: no overlong forms, no surrogates and nothing beyond the last plane. An error
tells the first bytes that cannot be decoded and why. A text file is decoded whole, and every kind of
line end in it is read as a line feed.
-/

namespace ViewportScaling.Text

/-- Why bytes cannot be decoded. -/
inductive EncodingProblem where
  /-- A byte that starts no character. -/
  | invalidStart
  /-- A character is not continued as its first byte demands. -/
  | invalidContinuation
  /-- The bytes end within a character. -/
  | unexpectedEnd
deriving DecidableEq, Repr

/-- Bytes that cannot be decoded. -/
structure EncodingError where
  /-- The reason. -/
  problem : EncodingProblem
  /-- The first of the bytes. -/
  byte : UInt8
  /-- The number of bytes before them. -/
  start : Nat
  /-- How many bytes they are. -/
  count : Nat
deriving DecidableEq, Repr

/-- The words for a problem. -/
def EncodingProblem.text : EncodingProblem → String
  | .invalidStart => "invalid start byte"
  | .invalidContinuation => "invalid continuation byte"
  | .unexpectedEnd => "unexpected end of data"

/-- The message of the error. -/
def EncodingError.message (error : EncodingError) : String :=
  let place :=
    if error.count = 1 then
      "byte 0x" ++ String.ofList (hexadecimal 2 error.byte.toNat) ++ " in position " ++
        toString error.start
    else "bytes in position " ++ toString error.start ++ "-" ++
      toString (error.start + error.count - 1)
  "'utf-8' codec can't decode " ++ place ++ ": " ++ error.problem.text

/-- The number of bytes of a character with the given first byte, and the bounds of its second byte. -/
def leadingByte? (byte : UInt8) : Option (Nat × UInt8 × UInt8) :=
  if byte < 0x80 then some (1, 0x80, 0xBF)
  else if byte < 0xC2 then none
  else if byte < 0xE0 then some (2, 0x80, 0xBF)
  else if byte = 0xE0 then some (3, 0xA0, 0xBF)
  else if byte = 0xED then some (3, 0x80, 0x9F)
  else if byte < 0xF0 then some (3, 0x80, 0xBF)
  else if byte = 0xF0 then some (4, 0x90, 0xBF)
  else if byte < 0xF4 then some (4, 0x80, 0xBF)
  else if byte = 0xF4 then some (4, 0x80, 0x8F)
  else none

/-- The number of bytes at the front that continue a character, up to a number still wanted; the first
of them lies within the given bounds. -/
def continuing : Nat → UInt8 → UInt8 → List UInt8 → Nat
  | 0, _, _, _ => 0
  | _, _, _, [] => 0
  | wanted + 1, low, high, byte :: rest =>
    if low ≤ byte && byte ≤ high then continuing wanted 0x80 0xBF rest + 1 else 0

/-- The code point that a first byte and the bytes after it spell. -/
def codePoint (first : UInt8) (following : List UInt8) : Nat :=
  let lead :=
    if first < 0x80 then first.toNat
    else if first < 0xE0 then first.toNat % 0x20
    else if first < 0xF0 then first.toNat % 0x10
    else first.toNat % 0x08
  following.foldl (fun code byte => code * 0x40 + byte.toNat % 0x40) lead

/-- Decodes bytes that follow `start` others. -/
def decodeFrom (start : Nat) : List UInt8 → Except EncodingError (List Char)
  | [] => .ok []
  | byte :: rest =>
    match leadingByte? byte with
    | none => .error ⟨.invalidStart, byte, start, 1⟩
    | some (size, low, high) =>
      let present := continuing (size - 1) low high rest
      if present + 1 = size then
        (Char.ofNat (codePoint byte (rest.take present)) :: ·) <$>
          decodeFrom (start + size) (rest.drop present)
      else
        let problem := if present < rest.length then .invalidContinuation else .unexpectedEnd
        .error ⟨problem, byte, start, present + 1⟩
termination_by bytes => bytes.length
decreasing_by
  rw [List.length_drop, List.length_cons]
  omega

/-- The text with a line feed for every line end. -/
def unifyLineEnds : List Char → List Char
  | '\r' :: '\n' :: rest => '\n' :: unifyLineEnds rest
  | '\r' :: rest => '\n' :: unifyLineEnds rest
  | c :: rest => c :: unifyLineEnds rest
  | [] => []

/-- The text of a file with the given bytes. -/
def decodeFile (bytes : List UInt8) : Except EncodingError String :=
  (fun text => String.ofList (unifyLineEnds text)) <$> decodeFrom 0 bytes

end ViewportScaling.Text
