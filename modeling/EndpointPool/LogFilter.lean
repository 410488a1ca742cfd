import EndpointPool.Decimal
import EndpointPool.Text
import EndpointPool.Unicode.Alphanumeric

/-!
# Log filters

What is logged is said by directives between commas. A directive is a level, or names what it is
about and then, after an equals sign, a level: a target, a span in brackets, or both; behind the
name of a span a field may stand in braces. A directive without a level lets everything pass, and
so does one with nothing after the equals sign.

Blanks around a directive do not count as long as it says no level after an equals sign. There they
count as a part of the level, so no such directive is well formed.

## Main definitions

* `LogFilter.isDirective`, `LogFilter.isFilter`: well-formed directives and filters
* `LogFault`, `LogFilter.install`: what can go wrong with installing a filter
-/

namespace EndpointPool

namespace LogFilter

/-- The names of the levels, from none to all; a level may be given by its number as well. -/
def levels : List String := ["off", "error", "warn", "info", "debug", "trace"]

/-- The digits of a number, which may stand after a plus sign. -/
def unsigned : List Char → List Char
  | '+' :: digits => digits
  | digits => digits

/-- Whether a text is a level. -/
def isLevel (text : List Char) : Bool :=
  (Decimal.read? (unsigned text)).any (· < levels.length)
    || levels.contains (String.ofList (text.map Char.toLower))

/-- Whether a text may stand after an equals sign. -/
def isLimit (blanks : Bool) (text : List Char) : Bool := !blanks && (text.isEmpty || isLevel text)

/-- Whether a text may stand behind a span. -/
def followsSpan (blanks : Bool) : List Char → Bool
  | [] => true
  | '=' :: level => isLimit blanks level
  | _ => false

/-- Whether a text may stand behind the brace that opens a field. -/
def followsBrace (blanks : Bool) (text : List Char) : Bool :=
  match text.takeWhile (· ≠ '\x7d'), text.dropWhile (· ≠ '\x7d') with
  | _ :: _, _ :: ']' :: rest => followsSpan blanks rest
  | _, _ => false

/-- Whether a text may stand behind the bracket that opens a span. -/
def followsBracket (blanks : Bool) (text : List Char) : Bool :=
  match text.dropWhile fun c => c ≠ ']' && c ≠ '\x7b' with
  | ']' :: rest => followsSpan blanks rest
  | _ :: rest => followsBrace blanks rest
  | [] => false

/-- Whether a text may stand behind the first character of a target or a level. -/
def followsTarget (blanks : Bool) (text : List Char) : Bool :=
  match text.dropWhile fun c => c ≠ '=' && c ≠ '[' with
  | [] => true
  | '=' :: level => isLimit blanks level
  | _ :: rest => followsBracket blanks rest

/-- Whether a text between commas is a directive. -/
def isDirective (text : List Char) : Bool :=
  let inner := Text.trim Text.isBlank text
  let blanks := decide (inner ≠ text)
  match inner with
  -- blanks alone are no directive, other than nothing at all
  | [] => false
  | '[' :: rest => followsBracket blanks rest
  | c :: rest =>
    (c = '-' || c = ':' || c = '_' || Unicode.isAlphanumeric c) && followsTarget blanks rest

/-- Whether a text is a filter. Between commas there may be nothing. -/
def isFilter (text : String) : Bool :=
  (Text.pieces ',' text.toList).all fun piece => piece.isEmpty || isDirective piece

end LogFilter

/-- Why a filter is not installed. -/
inductive LogFault
  | invalidLevel (text : String)
  | alreadyInstalled
  deriving DecidableEq

/-- The wording of such a fault. -/
def LogFault.message : LogFault → String
  | invalidLevel text => "Invalid log level: " ++ text
  | alreadyInstalled => "A global tracing subscriber is already installed"

/-- Installing a filter, which can be done once. The text is looked at first. -/
def LogFilter.install (installed : Bool) (text : String) : Except LogFault Unit :=
  if !LogFilter.isFilter text then .error (.invalidLevel text)
  else if installed then .error .alreadyInstalled
  else .ok ()

end EndpointPool
