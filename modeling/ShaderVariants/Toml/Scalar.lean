import ShaderVariants.Text.Basic

/-!
Values of TOML documents, and the unquoted scalars among them: booleans, integers, floats and
date-times.

Each form is recognised on the whole token, a maximal run of the characters that unquoted scalars
are made of.
-/
namespace ShaderVariants.Toml

/-- A value; floats and date-times are kept as written. -/
inductive Value where
  | string (text : String)
  | integer (value : Int)
  | float (literal : String)
  | boolean (value : Bool)
  | dateTime (literal : String)
  | array (items : List Value)
  | table (entries : List (String × Value))
deriving Repr

def isScalarCharacter (c : Char) : Bool :=
  c.isAlphanum || c = '+' || c = '-' || c = '_' || c = '.' || c = ':'

def groupedDigits? (isDigit : Char → Bool) : Text → Option Text
  | [] => none
  | [c] => if isDigit c then some [c] else none
  | c :: '_' :: rest => if isDigit c then (groupedDigits? isDigit rest).map (c :: ·) else none
  | c :: rest => if isDigit c then (groupedDigits? isDigit rest).map (c :: ·) else none

def integerBound : Nat := Nat.pow 2 63

def digitValue (c : Char) : Nat :=
  if c.isDigit then c.toNat - '0'.toNat
  else if 'a' ≤ c ∧ c ≤ 'f' then c.toNat - 'a'.toNat + 10
  else c.toNat - 'A'.toNat + 10

def isDigitOf (base : Nat) (c : Char) : Bool :=
  (c.isDigit || ('a' ≤ c && c ≤ 'f') || ('A' ≤ c && c ≤ 'F')) && digitValue c < base

def valueIn (base : Nat) (digits : Text) : Nat :=
  digits.foldl (fun value c => value * base + digitValue c) 0

/-- A sign in front of a token, as whether it is a minus, and what follows it. -/
def splitSign (token : Text) : Bool × Text :=
  match token with
  | '-' :: rest => (true, rest)
  | '+' :: rest => (false, rest)
  | _ => (false, token)

/-- Decimal digits without a superfluous zero in front. -/
def plainDigits? (token : Text) : Option Text := do
  let digits ← groupedDigits? Char.isDigit token
  match token with
  | '0' :: _ :: _ => none
  | _ => return digits

def integer? (token : Text) : Option Int := do
  let inBase (base : Nat) (rest : Text) : Option Int := do
    let value := valueIn base (← groupedDigits? (isDigitOf base) rest)
    if value < integerBound then return value else none
  match token with
  | '0' :: 'x' :: rest => inBase 16 rest
  | '0' :: 'o' :: rest => inBase 8 rest
  | '0' :: 'b' :: rest => inBase 2 rest
  | _ =>
      let (negative, rest) := splitSign token
      let value := Text.digitsValue (← plainDigits? rest)
      if negative then
        if value ≤ integerBound then return -(value : Int) else none
      else if value < integerBound then return value else none

/-- Whether `digits · 10 ^ exponent` rounds to infinity in double precision. -/
def overflows (digits : Text) (exponent : Int) : Bool :=
  let value := Text.digitsValue digits
  let significant := (Nat.toDigits 10 value).length
  let threshold := Nat.pow 2 1024 - Nat.pow 2 970
  if value = 0 then false
  else if exponent + significant > 310 then true
  else if exponent + significant < 308 then false
  else if exponent ≥ 0 then threshold ≤ value * Nat.pow 10 exponent.toNat
  else threshold * Nat.pow 10 (-exponent).toNat ≤ value

/-- The exponent after an `e`. -/
def exponent? (token : Text) : Option Int := do
  let (negative, rest) := splitSign token
  let value := Text.digitsValue (← groupedDigits? Char.isDigit rest)
  return if negative then -(value : Int) else value

def isFloat (token : Text) : Bool :=
  let (negative, rest) := splitSign token
  if rest = "inf".toList || rest = "nan".toList then true
  else
    let mantissa := rest.takeWhile (fun c => c ≠ 'e' && c ≠ 'E')
    let power := rest.drop mantissa.length
    let whole := mantissa.takeWhile (· ≠ '.')
    let point := mantissa.drop whole.length
    let parsed? : Option (Text × Int) := do
      let front ← plainDigits? whole
      let back ← match point with
        | [] => some []
        | _ :: fraction => groupedDigits? Char.isDigit fraction
      let exponent ← match power with
        | [] => some 0
        | _ :: tail => exponent? tail
      if point.isEmpty && power.isEmpty then none
      else return (front ++ back, exponent - back.length)
    match parsed? with
    | none => false
    | some (digits, exponent) => negative || !overflows digits exponent

/-- A number of exactly `count` digits within bounds, and the rest of the token. -/
def fixedDigits? (count least greatest : Nat) (token : Text) : Option (Nat × Text) :=
  let digits := token.take count
  let value := Text.digitsValue digits
  if digits.length = count && digits.all Char.isDigit && least ≤ value && value ≤ greatest then
    some (value, token.drop count)
  else none

def daysOf (year month : Nat) : Nat :=
  if month = 2 then
    if year % 4 = 0 ∧ (year % 100 ≠ 0 ∨ year % 400 = 0) then 29 else 28
  else if month = 4 ∨ month = 6 ∨ month = 9 ∨ month = 11 then 30
  else 31

def afterDate? (token : Text) : Option Text := do
  let (year, token) ← fixedDigits? 4 0 9999 token
  let (month, token) ← fixedDigits? 2 1 12 (← Text.after? ['-'] token)
  let (_, token) ← fixedDigits? 2 1 (daysOf year month) (← Text.after? ['-'] token)
  return token

def afterTime? (token : Text) : Option Text := do
  let (_, token) ← fixedDigits? 2 0 23 token
  let (_, token) ← fixedDigits? 2 0 59 (← Text.after? [':'] token)
  let (_, token) ← fixedDigits? 2 0 60 (← Text.after? [':'] token)
  match token with
  | '.' :: fraction =>
      let rest := fraction.dropWhile Char.isDigit
      if rest.length < fraction.length then return rest else none
  | _ => return token

def isOffset (token : Text) : Bool :=
  match token with
  | ['Z'] | ['z'] => true
  | c :: rest =>
      (c = '+' || c = '-') &&
        ((do
          let (_, rest) ← fixedDigits? 2 0 23 rest
          let (_, rest) ← fixedDigits? 2 0 59 (← Text.after? [':'] rest)
          return rest) == some [])
  | [] => false

/-- Whether a token is a time of day, with or without an offset. -/
def isTimeWithOffset (token : Text) : Bool :=
  match afterTime? token with
  | none => false
  | some rest => rest.isEmpty || isOffset rest

def isDate (token : Text) : Bool :=
  afterDate? token == some []

def isDateTime (token : Text) : Bool :=
  match afterDate? token with
  | some [] => true
  | some (c :: rest) => (c = 'T' || c = 't') && isTimeWithOffset rest
  | none => afterTime? token == some []

def scalar? (token : Text) : Option Value :=
  if token = "true".toList then some (.boolean true)
  else if token = "false".toList then some (.boolean false)
  else
    match integer? token with
    | some value => some (.integer value)
    | none =>
        if isFloat token then some (.float (String.ofList token))
        else if isDateTime token then some (.dateTime (String.ofList token))
        else none

end ShaderVariants.Toml
