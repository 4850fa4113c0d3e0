import IgnoreRules.Json.Basic
import IgnoreRules.Json.Token

/-!
# Reading JSON

The second stage of reading JSON: tokens are put together with a stack of the arrays and objects that
are open.  Besides the numbers of JSON the words `NaN`, `Infinity` and `-Infinity` are numbers; an
integer may have at most 4300 digits.  Of the values given to one key the last one counts.  Only so
many arrays and objects may be open at once as the reader has room for.

## Main definitions

* `Json.ofWord?` : the value a word stands for.
* `Json.ReadError` : why a text has no value.
* `Json.parse` : the value of a text.
-/

namespace IgnoreRules

namespace Json

/-! ## Words -/

/-- Whether a character is a decimal digit. -/
def isDigit (c : Char) : Bool :=
  decide ('0' ≤ c ∧ c ≤ '9')

/-- The most digits an integer may have. -/
def maxIntegerDigits : Nat := 4300

/-- What follows the whole part of a number, and the digits of that part: a zero, or digits that do
not start with one. -/
def wholePart? (w : Text) : Option (Text × Text) :=
  match w with
  | '0' :: rest => some (['0'], rest)
  | _ =>
      let digits := w.takeWhile isDigit
      if digits.isEmpty then none else some (digits, w.dropWhile isDigit)

/-- What follows a fraction, when there is one; a dot needs digits behind it. -/
def afterFraction? : Text → Option Text
  | '.' :: rest => if (rest.takeWhile isDigit).isEmpty then none else some (rest.dropWhile isDigit)
  | w => some w

/-- The text without the sign it may start with. -/
def unsigned : Text → Text
  | '+' :: rest => rest
  | '-' :: rest => rest
  | w => w

/-- Whether the text is an exponent or empty. -/
def isExponent : Text → Bool
  | [] => true
  | c :: rest =>
      let digits := unsigned rest
      (c == 'e' || c == 'E') && !digits.isEmpty && digits.all isDigit

/-- Whether a word is a number. -/
def isNumber (w : Text) : Bool :=
  let magnitude := if ['-'].isPrefixOf w then w.tail else w
  match wholePart? magnitude with
  | none => false
  | some (digits, []) => digits.length ≤ maxIntegerDigits
  | some (_, rest) =>
      match afterFraction? rest with
      | none => false
      | some rest => isExponent rest

/-- The names that are numbers. -/
def namedNumbers : List Text :=
  ["NaN".toList, "Infinity".toList, "-Infinity".toList]

/-- The value that a word stands for. -/
def ofWord? (w : Text) : Option Json :=
  if w = "null".toList then some .null
  else if w = "true".toList then some (.bool true)
  else if w = "false".toList then some (.bool false)
  else if namedNumbers.contains w || isNumber w then some (.number w)
  else none

/-! ## Assembling -/

/-- Why a text has no value. -/
inductive ReadError
  /-- The text is not JSON. -/
  | malformed
  /-- More arrays and objects are open at once than there is room for. -/
  | tooDeep
  deriving DecidableEq, Repr

/-- An array or object that is still open, its contents latest first.  A member is an object that
waits for the value of a key. -/
inductive Frame
  | array (items : List Json)
  | object (fields : List (Text × Json))
  | member (fields : List (Text × Json)) (key : Text)

/-- What may come next. -/
inductive Expectation
  | value
  | itemOrEnd
  | keyOrEnd
  | key
  | colon (key : Text)
  | separator
  | nothing (result : Json)

/-- The open arrays and objects, innermost first, and what may come next. -/
structure Assembly where
  frames : List Frame := []
  expectation : Expectation := .value

namespace Assembly

/-- Hands a finished value to the innermost open array or object. -/
def give (v : Json) : List Frame → Assembly
  | .array items :: frames => ⟨.array (v :: items) :: frames, .separator⟩
  | .member fields key :: frames => ⟨.object ((key, v) :: fields) :: frames, .separator⟩
  | frames => ⟨frames, .nothing v⟩

/-- Opens an array or an object, if there is room for `limit` of them. -/
def enter (limit : Nat) (frame : Frame) (next : Expectation) (frames : List Frame) :
    Except ReadError Assembly :=
  if frames.length < limit then .ok ⟨frame :: frames, next⟩ else .error .tooDeep

/-- Takes in a token where a value has to begin. -/
def beginValue (limit : Nat) (frames : List Frame) : Token → Except ReadError Assembly
  | .openArray => enter limit (.array []) .itemOrEnd frames
  | .openObject => enter limit (.object []) .keyOrEnd frames
  | .string t => .ok (give (.string t) frames)
  | .word w =>
      match ofWord? w with
      | none => .error .malformed
      | some v => .ok (give v frames)
  | _ => .error .malformed

/-- Closes the innermost array or object. -/
def close : List Frame → Token → Except ReadError Assembly
  | .array items :: frames, .closeArray => .ok (give (.array items.reverse) frames)
  | .object fields :: frames, .closeObject =>
      .ok (give (.object (mergeFields fields.reverse)) frames)
  | _, _ => .error .malformed

/-- Takes in a token, unless it may not stand there. -/
def push (limit : Nat) (a : Assembly) (t : Token) : Except ReadError Assembly :=
  match a.expectation with
  | .value => beginValue limit a.frames t
  | .itemOrEnd => if t = .closeArray then close a.frames t else beginValue limit a.frames t
  | .keyOrEnd =>
      match t with
      | .string key => .ok ⟨a.frames, .colon key⟩
      | _ => close a.frames t
  | .key =>
      match t with
      | .string key => .ok ⟨a.frames, .colon key⟩
      | _ => .error .malformed
  | .colon key =>
      match t, a.frames with
      | .colon, .object fields :: frames => .ok ⟨.member fields key :: frames, .value⟩
      | _, _ => .error .malformed
  | .separator =>
      match t, a.frames with
      | .comma, .array _ :: _ => .ok ⟨a.frames, .value⟩
      | .comma, .object _ :: _ => .ok ⟨a.frames, .key⟩
      | _, frames => close frames t
  | .nothing _ => .error .malformed

/-- Takes in several tokens. -/
def run (limit : Nat) (a : Assembly) : List Token → Except ReadError Assembly
  | [] => .ok a
  | t :: rest =>
      match a.push limit t with
      | .error e => .error e
      | .ok a => run limit a rest

end Assembly

/-- The value of a text, if it is JSON and never more than `limit` arrays and objects are open in it.
The first token that is out of place or out of room decides, even where the text is broken later. -/
def parse (limit : Nat) (t : Text) : Except ReadError Json :=
  match Assembly.run limit {} (tokens t).1 with
  | .error e => .error e
  | .ok ⟨_, .nothing v⟩ => if (tokens t).2 then .ok v else .error .malformed
  | .ok _ => .error .malformed

end Json

end IgnoreRules
