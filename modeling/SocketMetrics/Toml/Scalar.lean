import SocketMetrics.Number.Literal
import SocketMetrics.Toml.Token
/-!
Numbers and dates in TOML. Digits may be parted by single underscores, and a decimal number has no
leading zeros; a point has digits on both of its sides. A whole number fits into 64 bits with sign,
and any other number must be finite unless it is given by name.
-/

set_option autoImplicit false
set_option relaxedAutoImplicit false

namespace SocketMetrics.Toml

open Number

/-- A number, or a date, whose parts are of no interest here. -/
inductive Scalar where
  | integer (value : Int)
  | float (value : Binary64)
  | date
deriving DecidableEq, Repr

/-- Whether a character is a digit of the radix. -/
def isDigitOf (radix : Nat) (c : Char) : Bool :=
  ((Text.hexDigit? c).map fun digit ↦ decide (digit < radix)).getD false

/-- How far a row of digits has been read. -/
inductive Progress where
  | start
  | zero
  | digit (zeroFirst : Bool)
  | underscore (zeroFirst : Bool)
deriving DecidableEq, Repr

/-- Takes a row of digits off the beginning of a text, without its underscores. -/
def digits? (radix : Nat) (leadingZeros : Bool) (progress : Progress) :
    Text → Option (Text × Text)
  | [] => match progress with
    | .start | .underscore _ => none
    | .zero | .digit _ => some ([], [])
  | c :: rest =>
    let zeroFirst := match progress with
      | .start => false
      | .zero => true
      | .digit zeroFirst | .underscore zeroFirst => zeroFirst
    if c = '0' ∧ progress = .start then
      (digits? radix leadingZeros .zero rest).map (consTo c)
    else if isDigitOf radix c then
      if zeroFirst && !leadingZeros then none
      else (digits? radix leadingZeros (.digit zeroFirst) rest).map (consTo c)
    else match progress with
      | .start => none
      | .underscore _ => none
      | .zero | .digit _ =>
        if c = '_' then digits? radix leadingZeros (.underscore zeroFirst) rest
        else some ([], c :: rest)

/-- Takes a signed row of decimal digits off the beginning of a text. -/
def signedDigits? (leadingZeros : Bool) (text : Text) : Option ((Bool × Text) × Text) :=
  let (negative, rest) := splitSign text
  (digits? 10 leadingZeros .start rest).map fun (digits, rest) ↦ ((negative, digits), rest)

/-- A whole number, if 64 bits with sign hold it. -/
def integer? (negative : Bool) (magnitude : Nat) : Option Scalar :=
  let value : Int := if negative then -magnitude else magnitude
  if -0x8000000000000000 ≤ value ∧ value < 0x8000000000000000 then some (.integer value) else none

/-- A whole number in another radix. -/
def radixInteger? (radix : Nat) (text : Text) : Option Scalar :=
  match digits? radix true .start text with
  | some (digits, []) =>
    integer? false (digits.foldl (fun value c ↦ radix * value + (Text.hexDigit? c).getD 0) 0)
  | _ => none

/-- A decimal whole number. -/
def decimalInteger? (text : Text) : Option Scalar :=
  match signedDigits? false text with
  | some ((negative, digits), []) => integer? negative (digitsValue digits)
  | _ => none

/-- Takes the power of ten off what follows the digits of a number: its letter may end a word, and
a plus sign and another word follow then. -/
def exponent? (suffix : Text) (tokens : List Token) : Option (Int × List Token) :=
  let signed (negative : Bool) (digits : Text) : Int :=
    if negative then -(digitsValue digits : Int) else digitsValue digits
  match suffix with
  | [] => some (0, tokens)
  | letter :: rest =>
    if letter ≠ 'e' ∧ letter ≠ 'E' then none
    else if rest.isEmpty then
      let tokens := match tokens with
        | .plus :: tokens => tokens
        | _ => tokens
      match tokens with
      | .bare word :: tokens =>
        match digits? 10 true .start word with
        | some (digits, []) => some (signed false digits, tokens)
        | _ => none
      | _ => none
    else match signedDigits? true rest with
      | some ((negative, digits), []) => some (signed negative digits, tokens)
      | _ => none

/-- A number with a point or a power of ten, from the word in front of the point and the one behind
it. -/
def float? (word : Text) (places : Option Text) (tokens : List Token) :
    Option (Scalar × List Token) := do
  let ((negative, whole), suffix) ← signedDigits? false word
  let (fraction, suffix) ← match places with
    | none => some ([], suffix)
    | some places => if suffix.isEmpty then digits? 10 true .start places else none
  let (exponent, tokens) ← exponent? suffix tokens
  let value :=
    Binary64.ofDecimal negative (digitsValue (whole ++ fraction)) (exponent - fraction.length)
  if value.isFinite then some (.float value, tokens) else none

/-- The number that a word begins. -/
def number? (word : Text) (tokens : List Token) : Option (Scalar × List Token) :=
  match word with
  | '0' :: 'x' :: digits => (radixInteger? 16 digits).map (·, tokens)
  | '0' :: 'o' :: digits => (radixInteger? 8 digits).map (·, tokens)
  | '0' :: 'b' :: digits => (radixInteger? 2 digits).map (·, tokens)
  | _ =>
    if word.contains 'e' || word.contains 'E' then float? word none tokens
    else match tokens with
      | .period :: .bare places :: tokens => float? word (some places) tokens
      | .period :: _ => none
      | _ =>
        if word = "inf".toList then some (.float (.infinity false), tokens)
        else if word = "-inf".toList then some (.float (.infinity true), tokens)
        else if word = "nan".toList then some (.float (.nan false), tokens)
        else if word = "-nan".toList then some (.float (.nan true), tokens)
        else (decimalInteger? word).map (·, tokens)

/-- Drops a mark and the word that must follow it, if the mark is there. -/
def dropMarked? (mark : Token) : List Token → Option (List Token)
  | token :: rest =>
    if token = mark then
      match rest with
      | .bare _ :: rest => some rest
      | _ => none
    else some (token :: rest)
  | [] => some []

/-- Drops what belongs to the date that a word begins. The time may follow behind a space; its
minutes and seconds are given together. -/
def dropDate? (tokens : List Token) : Option (List Token) := do
  let tokens := match tokens with
    | .blank [' '] :: .bare _ :: rest => rest
    | _ => tokens
  match tokens with
  | .colon :: .bare _ :: .colon :: .bare _ :: rest =>
    let rest ← dropMarked? .period rest
    let rest ← dropMarked? .plus rest
    dropMarked? .colon rest
  | .colon :: _ => none
  | _ => some tokens

/-- Whether a word can only be a date: it holds the letter in front of a time, or a minus sign
behind its first character that belongs to no power of ten. -/
def isDate (word : Text) : Bool :=
  let hasMinusPower := (word.zip (word.drop 1)).any fun (letter, c) ↦
    (letter == 'e' || letter == 'E') && c == '-'
  word.contains 'T' || word.contains 't' || ((word.drop 1).contains '-' && !hasMinusPower)

/-- The number or the date that a word begins. -/
def scalar? (word : Text) (tokens : List Token) : Option (Scalar × List Token) :=
  if isDate word then (dropDate? tokens).map (.date, ·)
  else match tokens with
    | .colon :: _ => (dropDate? tokens).map (.date, ·)
    | _ => number? word tokens

/-- Whether a word begins like a number. -/
def beginsNumber (word : Text) : Bool :=
  word = "inf".toList || word = "nan".toList ||
    (word.head?.map fun c ↦ c == '-' || c.isDigit).getD false

end SocketMetrics.Toml
