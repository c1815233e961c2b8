import DriftPatch.Text.Numeral
import DriftPatch.Yaml.Cursor

/-!
# The kinds of nodes

A **tag** says what kind of value a node stands for. A node may name its
tag; a plain scalar without one gets it by its form: `12` is a number and
`yes` a truth value. The forms are those of YAML 1.1, which also knows
numbers in base sixty, dates, and a key that merges mappings.
-/

namespace DriftPatch.Yaml

/-- **The kind of a node.** -/
inductive Tag where
  /-- Nothing. -/
  | null
  /-- A truth value. -/
  | bool
  /-- A whole number. -/
  | int
  /-- A floating-point number. -/
  | float
  /-- A date or a moment. -/
  | timestamp
  /-- Raw bytes. -/
  | binary
  /-- A text. -/
  | str
  /-- A list. -/
  | seq
  /-- A mapping. -/
  | map
  /-- A set. -/
  | set
  /-- A list of pairs. -/
  | pairs
  /-- The key that merges mappings into another. -/
  | merge
  /-- The key that holds the value proper of a mapping. -/
  | value
  /-- Any other tag. -/
  | unknown
  deriving DecidableEq, Repr

namespace Tag

/-- What all tags of the language itself start with. -/
def standard : Text := "tag:yaml.org,2002:".toList

/-- The kinds by their names in the language. -/
def names : List (Text × Tag) :=
  [("null", .null), ("bool", .bool), ("int", .int), ("float", .float),
   ("timestamp", .timestamp), ("binary", .binary), ("str", .str), ("seq", .seq),
   ("map", .map), ("set", .set), ("pairs", .pairs), ("omap", .pairs),
   ("merge", .merge), ("value", .value)].map fun (name, tag) => (name.toList, tag)

/-- The kind that a tag means, given in full. -/
def ofText (t : Text) : Tag :=
  match Text.after? standard t with
  | none => .unknown
  | some name => (names.lookup name).getD .unknown

/-- Whether values of a kind have parts. -/
def isCollection : Tag → Bool
  | .seq | .map | .set | .pairs => true
  | _ => false

/-! ## The forms of plain scalars -/

/-- A text without one line feed at its end. A scalar within quotes may
end with one, and has the form of the text before it. -/
def dropLastLineFeed (t : Text) : Text :=
  if t.getLast? = some '\n' then t.dropLast else t

/-- The words for truth values. -/
def truthWords : List (Text × Bool) :=
  [("yes", true), ("no", false), ("true", true), ("false", false), ("on", true),
   ("off", false)].map fun (word, b) => (word.toList, b)

/-- A word in small letters, with a capital first letter, and in
capitals. -/
def spellings (word : Text) : List Text :=
  [word, (word.take 1).map Char.toUpper ++ word.drop 1, word.map Char.toUpper]

/-- Whether a scalar has the form of a truth value. -/
def isTruthWord (t : Text) : Bool :=
  truthWords.any fun (word, _) => (spellings word).contains t

/-- Whether a scalar has the form of nothing. -/
def isNullWord (t : Text) : Bool :=
  t == [] || t == ['~'] || (spellings ['n', 'u', 'l', 'l']).contains t

/-- A scalar without the sign in front. -/
def unsigned : Text → Text
  | '-' :: t => t
  | '+' :: t => t
  | t => t

/-- Whether a character is a digit or an underscore. -/
def isDigitOrLow (c : Char) : Bool :=
  Text.isAsciiDigit c || c == '_'

/-- Whether a text holds at least one character and `p` holds for all. -/
def someAll (p : Char → Bool) (t : Text) : Bool :=
  t != [] && t.all p

/-- Whether a text is a digit of base sixty: up to two decimal digits,
less than sixty. -/
def isSexagesimal : Text → Bool
  | [c] => Text.isAsciiDigit c
  | [c, d] => '0' ≤ c && c ≤ '5' && Text.isAsciiDigit d
  | _ => false

/-- Whether a text starts with a digit other than zero and goes on with
digits and underscores. -/
def isDecimal : Text → Bool
  | c :: rest => '1' ≤ c && c ≤ '9' && rest.all isDigitOrLow
  | [] => false

/-- Whether a scalar has the form of a whole number: in base two, eight,
ten, sixteen or sixty. -/
def isIntForm (t : Text) : Bool :=
  match unsigned t with
  | ['0'] => true
  | '0' :: 'b' :: rest => someAll (fun c => c == '0' || c == '1' || c == '_') rest
  | '0' :: 'x' :: rest =>
    someAll (fun c => Text.isAsciiDigit c || ('a' ≤ c && c ≤ 'f') || ('A' ≤ c && c ≤ 'F')
      || c == '_') rest
  | '0' :: rest => someAll (fun c => ('0' ≤ c && c ≤ '7') || c == '_') rest
  | t =>
    match t.splitOn ':' with
    | first :: rest => isDecimal first && rest.all isSexagesimal
    | [] => false

/-- Whether a text is the power of ten of a number: nothing, or a mark, a
sign and digits. -/
def isPower : Text → Bool
  | [] => true
  | mark :: sign :: digits =>
    (mark == 'e' || mark == 'E') && (sign == '+' || sign == '-')
      && someAll Text.isAsciiDigit digits
  | _ => false

/-- Whether a text starts with a digit and goes on with digits and
underscores. -/
def isWhole : Text → Bool
  | c :: rest => Text.isAsciiDigit c && rest.all isDigitOrLow
  | [] => false

/-- Whether a scalar has the form of a floating-point number. It needs a
point. -/
def isFloatForm (t : Text) : Bool :=
  let number := unsigned t
  let whole := number.takeWhile (· != '.')
  let fraction := (number.dropWhile (· != '.')).drop 1
  let hasPoint := number.contains '.'
  let parts := whole.splitOn ':'
  (hasPoint && isWhole whole && isPower (fraction.dropWhile isDigitOrLow))
    || (hasPoint && t.head? == some '.' && isWhole (fraction.takeWhile isDigitOrLow)
      && isPower (fraction.dropWhile isDigitOrLow))
    || (hasPoint && 2 ≤ parts.length && isWhole (parts.headD [])
      && (parts.drop 1).all isSexagesimal && fraction.all isDigitOrLow)
    || (whole == [] && hasPoint && (spellings ['i', 'n', 'f']).contains fraction)
    || [['.', 'n', 'a', 'n'], ['.', 'N', 'a', 'N'], ['.', 'N', 'A', 'N']].contains t

end Tag

/-! ## Dates -/

/-- **A date or a moment as it is written**, digits and all. -/
structure WrittenMoment where
  /-- The digits of the year. -/
  year : Text
  /-- The digits of the month. -/
  month : Text
  /-- The digits of the day. -/
  day : Text
  /-- The digits of hour, minute and second, and of the fraction of the
  second, where there is a time of day. -/
  time : Option (Text × Text × Text × Text) := none
  /-- The offset from universal time, in minutes, where there is one. -/
  offset : Option Int := none

namespace WrittenMoment

/-- The digits at the front of a text, if there are `least` to `most`,
and what follows the first `most` of them at most. -/
def digits? (least most : Nat) (t : Text) : Option (Text × Text) :=
  let digits := (t.take most).takeWhile Text.isAsciiDigit
  if least ≤ digits.length then some (digits, t.drop digits.length) else none

/-- What follows a character at the front of a text. -/
def char? (c : Char) (t : Text) : Option Text :=
  Text.after? [c] t

/-- Whether a character is a space or a tab. -/
def isGap (c : Char) : Bool :=
  c == ' ' || c == '\t'

/-- What follows the mark between date and time: a `T`, or blanks. -/
def timeMark? : Text → Option Text
  | 'T' :: rest => some rest
  | 't' :: rest => some rest
  | t => if t.head?.any isGap then some (t.dropWhile isGap) else none

/-- The offset that a text is. -/
def offset? (t : Text) : Option Int := do
  match t with
  | ['Z'] => return 0
  | sign :: rest =>
    if sign = '+' ∨ sign = '-' then
      let (hour, rest) ← digits? 1 2 rest
      let minute ←
        if rest = [] then some ['0']
        else do
          let (minute, rest) ← digits? 2 2 (← char? ':' rest)
          if rest = [] then some minute else none
      let minutes : Int := 60 * Numeral.value hour + Numeral.value minute
      return if sign = '-' then -minutes else minutes
    else none
  | [] => none

/-- The time of day at the front of a text, and what follows it. -/
def time? (t : Text) : Option ((Text × Text × Text × Text) × Text) := do
  let (hour, rest) ← digits? 1 2 t
  let (minute, rest) ← digits? 2 2 (← char? ':' rest)
  let (second, rest) ← digits? 2 2 (← char? ':' rest)
  match rest with
  | '.' :: rest =>
    return ((hour, minute, second, rest.takeWhile Text.isAsciiDigit),
      rest.dropWhile Text.isAsciiDigit)
  | _ => return ((hour, minute, second, []), rest)

/-- The date or moment that a text is, digits only. -/
def of? (t : Text) : Option WrittenMoment := do
  let (year, rest) ← digits? 4 4 (Tag.dropLastLineFeed t)
  let (month, rest) ← digits? 1 2 (← char? '-' rest)
  let (day, rest) ← digits? 1 2 (← char? '-' rest)
  if rest = [] then return { year, month, day }
  else
    let (time, rest) ← time? (← timeMark? rest)
    if rest = [] then return { year, month, day, time := some time }
    else
      let offset ← offset? (rest.dropWhile isGap)
      return { year, month, day, time := some time, offset := some offset }

end WrittenMoment

namespace Tag

/-- Whether a scalar has the form of a date or a moment. A date on its
own has two digits for month and day. -/
def isMomentForm (t : Text) : Bool :=
  match WrittenMoment.of? t with
  | none => false
  | some w => w.time.isSome || (w.month.length == 2 && w.day.length == 2)

/-- **The kind of a plain scalar**, by its form. A line feed on its own
is a text. -/
def ofPlain (text : Text) : Tag :=
  let t := dropLastLineFeed text
  if text == ['\n'] then .str
  else if isTruthWord t then .bool
  else if isFloatForm t then .float
  else if isIntForm t then .int
  else if t == ['<', '<'] then .merge
  else if isNullWord t then .null
  else if isMomentForm t then .timestamp
  else if t == ['='] then .value
  else if t == ['!'] || t == ['&'] || t == ['*'] then .unknown
  else .str

end Tag

end DriftPatch.Yaml
