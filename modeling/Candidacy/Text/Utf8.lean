/-!
UTF-8. Bytes are read one character at a time; overlong forms, surrogates and values past the last
code point are refused.
-/

namespace Candidacy.Text.Utf8

def isContinuation (b : UInt8) : Bool :=
  0x80 ≤ b && b < 0xC0

/-- The six bits a continuation byte carries. -/
def sixBits (b : UInt8) : Nat :=
  b.toNat % 64

/-- The scalar value `n`, if it needs no fewer bytes than those it was written with. -/
def scalar? (least n : Nat) : Option Char :=
  if isScalar : least ≤ n ∧ n.isValidChar then some (Char.ofNatAux n isScalar.2) else none

/-- The first character and the bytes after it. -/
def next? : List UInt8 → Option (Char × List UInt8)
  | [] => none
  | a :: rest =>
      if a < 0x80 then (scalar? 0 a.toNat).map (·, rest)
      else if a < 0xC0 then none
      else if a < 0xE0 then
        match rest with
        | b :: rest =>
            if isContinuation b then
              (scalar? 0x80 (a.toNat % 32 * 64 + sixBits b)).map (·, rest)
            else none
        | [] => none
      else if a < 0xF0 then
        match rest with
        | b :: c :: rest =>
            if isContinuation b && isContinuation c then
              (scalar? 0x800 ((a.toNat % 16 * 64 + sixBits b) * 64 + sixBits c)).map (·, rest)
            else none
        | _ => none
      else if a < 0xF8 then
        match rest with
        | b :: c :: d :: rest =>
            if isContinuation b && isContinuation c && isContinuation d then
              (scalar? 0x10000
                (((a.toNat % 8 * 64 + sixBits b) * 64 + sixBits c) * 64 + sixBits d)).map (·, rest)
            else none
        | _ => none
      else none

/-- Each byte is read as part of a character, or stands alone because it is part of none. -/
def pieces : Nat → List UInt8 → List (Char ⊕ UInt8)
  | 0, _ => []
  | _ + 1, [] => []
  | fuel + 1, b :: bytes =>
      match next? (b :: bytes) with
      | some (c, rest) => .inl c :: pieces fuel rest
      | none => .inr b :: pieces fuel bytes

/-- The text of the bytes, or `none` if any byte belongs to no character. -/
def decode? (bytes : List UInt8) : Option String :=
  ((pieces bytes.length bytes).mapM Sum.getLeft?).map String.ofList

end Candidacy.Text.Utf8
