/-!
# Decoding of bytes that may not be UTF-8

Output of other programs is text as far as it is UTF-8. Where it is not, each longest part that
could still have begun a character becomes one U+FFFD.
-/

namespace ApiBalancer.Text

/-- What stands for bytes that are no text. -/
def replacement : Char := '\uFFFD'

/-- Whether a byte may follow the first byte of a longer sequence. -/
def isContinuation (b : UInt8) : Bool := 0x80 ≤ b && b ≤ 0xBF

/-- Whether `second` may follow `first` in a sequence of three bytes: neither an overlong form nor
a surrogate. -/
def fitsThree (first second : UInt8) : Bool :=
  if first == 0xE0 then 0xA0 ≤ second && second ≤ 0xBF
  else if first == 0xED then 0x80 ≤ second && second ≤ 0x9F
  else isContinuation second

/-- Whether `second` may follow `first` in a sequence of four bytes: neither an overlong form nor
a number above U+10FFFF. -/
def fitsFour (first second : UInt8) : Bool :=
  if first == 0xF0 then 0x90 ≤ second && second ≤ 0xBF
  else if first == 0xF4 then 0x80 ≤ second && second ≤ 0x8F
  else isContinuation second

/-- The character that leading bits and continuation bytes name. -/
def fromSequence (lead : Nat) (rest : List UInt8) : Char :=
  Char.ofNat (rest.foldl (fun n b => n * 64 + b.toNat % 64) lead)

/-- The text of a sequence of bytes, with `replacement` for what is no UTF-8. -/
def decodeLossy : List UInt8 → List Char
  | [] => []
  | a :: rest =>
    if a < 0x80 then Char.ofNat a.toNat :: decodeLossy rest
    else if 0xC2 ≤ a && a ≤ 0xDF then
      match rest with
      | b :: rest' =>
        if isContinuation b then fromSequence (a.toNat % 32) [b] :: decodeLossy rest'
        else replacement :: decodeLossy (b :: rest')
      | [] => [replacement]
    else if 0xE0 ≤ a && a ≤ 0xEF then
      match rest with
      | b :: rest' =>
        if fitsThree a b then
          match rest' with
          | c :: rest'' =>
            if isContinuation c then fromSequence (a.toNat % 16) [b, c] :: decodeLossy rest''
            else replacement :: decodeLossy (c :: rest'')
          | [] => [replacement]
        else replacement :: decodeLossy (b :: rest')
      | [] => [replacement]
    else if 0xF0 ≤ a && a ≤ 0xF4 then
      match rest with
      | b :: rest' =>
        if fitsFour a b then
          match rest' with
          | c :: rest'' =>
            if isContinuation c then
              match rest'' with
              | d :: rest''' =>
                if isContinuation d then
                  fromSequence (a.toNat % 8) [b, c, d] :: decodeLossy rest'''
                else replacement :: decodeLossy (d :: rest''')
              | [] => [replacement]
            else replacement :: decodeLossy (c :: rest'')
          | [] => [replacement]
        else replacement :: decodeLossy (b :: rest')
      | [] => [replacement]
    else replacement :: decodeLossy rest

def lossyText (bytes : ByteArray) : String :=
  match String.fromUTF8? bytes with
  | some s => s
  | none => String.ofList (decodeLossy bytes.toList)

end ApiBalancer.Text
