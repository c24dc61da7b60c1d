import SshConfig.Text.Basic

namespace SshConfig.Text

/-! Decoding of UTF-8 that accepts any bytes.

What is not the encoding of a character decodes to the replacement character, once for
each longest piece that begins like an encoding.  An encoding under way is an
`Unfinished`; the range of bytes that it can go on with excludes overlong forms,
surrogates and numbers beyond the last code point.
-/

/-- Stands in the text for bytes that encode no character. -/
def replacement : Char := '\uFFFD'

/-- An encoding that has begun: how many bytes are missing, between which bounds the
next one lies, and the number that the payload bits make so far. -/
structure Unfinished where
  missing : Nat
  low : UInt8
  high : UInt8
  value : Nat

/-- What one more byte makes of an encoding. -/
inductive Decoded where
  | finished (c : Char)
  | unfinished (encoding : Unfinished)
  | invalid

/-- What a byte is at the beginning of an encoding. -/
def startEncoding (byte : UInt8) : Decoded :=
  let n := byte.toNat
  if byte < 0x80 then .finished (Char.ofNat n)
  else if byte < 0xC2 then .invalid
  else if byte < 0xE0 then .unfinished ⟨1, 0x80, 0xBF, n % 0x20⟩
  else if byte == 0xE0 then .unfinished ⟨2, 0xA0, 0xBF, n % 0x10⟩
  else if byte == 0xED then .unfinished ⟨2, 0x80, 0x9F, n % 0x10⟩
  else if byte < 0xF0 then .unfinished ⟨2, 0x80, 0xBF, n % 0x10⟩
  else if byte == 0xF0 then .unfinished ⟨3, 0x90, 0xBF, n % 0x08⟩
  else if byte < 0xF4 then .unfinished ⟨3, 0x80, 0xBF, n % 0x08⟩
  else if byte == 0xF4 then .unfinished ⟨3, 0x80, 0x8F, n % 0x08⟩
  else .invalid

/-- What a byte is after an encoding that has begun. -/
def Unfinished.continueWith (encoding : Unfinished) (byte : UInt8) : Decoded :=
  if encoding.low ≤ byte && byte ≤ encoding.high then
    let value := encoding.value * 0x40 + byte.toNat % 0x40
    if encoding.missing ≤ 1 then .finished (Char.ofNat value)
    else .unfinished ⟨encoding.missing - 1, 0x80, 0xBF, value⟩
  else .invalid

mutual

/-- Decodes from a place where an encoding begins. -/
def decode : Bytes → Text
  | [] => []
  | byte :: rest =>
      match startEncoding byte with
      | .finished c => c :: decode rest
      | .unfinished encoding => decodeWithin encoding rest
      | .invalid => replacement :: decode rest

/-- Decodes after the bytes of an encoding that has begun.  A byte that does not
continue it begins afresh. -/
def decodeWithin (encoding : Unfinished) : Bytes → Text
  | [] => [replacement]
  | byte :: rest =>
      match encoding.continueWith byte with
      | .finished c => c :: decode rest
      | .unfinished longer => decodeWithin longer rest
      | .invalid =>
          match startEncoding byte with
          | .finished c => replacement :: c :: decode rest
          | .unfinished other => replacement :: decodeWithin other rest
          | .invalid => replacement :: replacement :: decode rest

end

end SshConfig.Text
