import PerlAudit.Files.Disk
import PerlAudit.Number.Binary64
import PerlAudit.Text.FileName
import PerlAudit.Text.Integer
import PerlAudit.Text.Quoted

/-!
Why a request cannot be answered at all, as opposed to a check that fails. A fault says its cause;
the wording is in one place.
-/

namespace PerlAudit

open Text Files

inductive PlanFault where
  | twice
  | late
  | negative (shown : Text)
  deriving DecidableEq, Repr

inductive SettingsFault where
  /-- The file is not a well-formed document. -/
  | malformed (file : Text)
  | notMapping (file : Text)
  | thresholdNotNumber
  /-- The threshold lies outside 0 to 100. -/
  | thresholdRange (shown : Text)
  deriving DecidableEq, Repr

/-- Why a date or a time of day does not exist. -/
inductive MomentFault where
  | year (n : Nat)
  | month
  | day
  | hour
  | minute
  | second
  | offset (hours minutes : Nat) (negative : Bool)
  deriving DecidableEq, Repr

inductive Fault where
  /-- A text does not name a file. -/
  | name (flaw : NameFlaw)
  | file (reason : Errno) (path : Text)
  /-- A file was opened, but reading it failed. -/
  | reading (reason : Errno)
  | linkLoop (path : Text)
  | homeless
  | damaged (damage : Damage)
  | plan (cause : PlanFault)
  | settings (cause : SettingsFault)
  /-- An integer has no nearest finite number. -/
  | integerTooLarge
  | integer (radix : Radix) (text : Text)
  | integerTooLong (digits : Nat)
  | integerUnwritable
  | number (text : Text)
  /-- A value of that type is not a number. -/
  | notNumber (typeName : String)
  /-- A numeral is empty. -/
  | emptyNumeral
  | notTruth (text : Text)
  | moment (cause : MomentFault)
  | notMoment
  | momentNotText
  /-- An escape names a code point that does not exist. -/
  | noCodePoint (code : Nat)
  /-- A document or links are nested too deeply, or a value of a document stands inside itself. -/
  | tooDeep
  /-- Too many collections lie in one another for a value to be shown. -/
  | tooDeepToShow
  | emptyCommand
  /-- An option that wants a path has no value. -/
  | noPath
  /-- An option that wants a number has no value. -/
  | noNumber
  deriving DecidableEq, Repr

namespace PlanFault

def message : PlanFault → Text
  | twice => "You tried to plan twice"
  | late => "A plan must be declared before any result is emitted"
  | negative shown => "Number of tests must be a positive integer, got " ++ shown

end PlanFault

namespace SettingsFault

/-- What is said of a document that cannot be read. -/
def malformedReason : String := ": not a well-formed document"

def message : SettingsFault → Text
  | malformed file => "Failed to parse " ++ file ++ malformedReason
  | notMapping file => file ++ " must contain a mapping at the root"
  | thresholdNotNumber => "coverage.threshold must be a number"
  | thresholdRange shown => "coverage threshold must be between 0 and 100, got " ++ shown

end SettingsFault

namespace MomentFault

/-- An offset from universal time in days and seconds, of which only the days may be negative. -/
def offsetText (hours minutes : Nat) (negative : Bool) : String :=
  let size : Int := hours * 3600 + minutes * 60
  let seconds := if negative then -size else size
  let days := seconds.fdiv 86400
  let rest := seconds.fmod 86400
  let parts :=
    (if days = 0 then [] else ["days=" ++ toString days]) ++
      (if rest = 0 then [] else ["seconds=" ++ toString rest])
  "datetime.timedelta(" ++ (if parts.isEmpty then "0" else ", ".intercalate parts) ++ ")"

def message : MomentFault → String
  | year n => "year " ++ toString n ++ " is out of range"
  | month => "month must be in 1..12"
  | day => "day is out of range for month"
  | hour => "hour must be in 0..23"
  | minute => "minute must be in 0..59"
  | second => "second must be in 0..59"
  | offset hours minutes negative =>
    "offset must be a timedelta strictly between -timedelta(hours=24) and " ++
      "timedelta(hours=24), not " ++ offsetText hours minutes negative

end MomentFault

namespace Fault

def ofPath : Disk.PathFault → Fault
  | .name flaw => name flaw
  | .tooDeep => tooDeep

def flawText : Flaw → String
  | .start => "invalid start byte"
  | .continuation => "invalid continuation byte"
  | .truncated => "unexpected end of data"

def damageText (d : Damage) : String :=
  let place :=
    match d.bytes with
    | [b] =>
      "byte 0x" ++ String.ofList (hexadecimal 2 b.toNat) ++ " in position " ++ toString d.position
    | bytes =>
      "bytes in position " ++ toString d.position ++ "-" ++ toString (d.position + bytes.length - 1)
  "'utf-8' codec can't decode " ++ place ++ ": " ++ flawText d.kind

def nameFlawText : NameFlaw → Text
  | .null => "embedded null byte"
  | .halves code first last =>
    let place :=
      if first = last then
        "character '" ++ String.ofList (codeEscape code) ++ "' in position " ++ toString first
      else "characters in position " ++ toString first ++ "-" ++ toString last
    "'utf-8' codec can't encode " ++ place ++ ": surrogates not allowed"

def limitText : String :=
  "Exceeds the limit (" ++ toString digitLimit ++ " digits) for integer string conversion"

def limitAdvice : String := "; use sys.set_int_max_str_digits() to increase the limit"

/-- At most two hundred characters of a quoted text. -/
def quotedStart (text : Text) : Text := (quoted text).take 200

def errnoText (reason : Errno) : String :=
  "[Errno " ++ toString reason.code ++ "] " ++ reason.text

def systemText (reason : Errno) (path : Text) : Text := errnoText reason ++ ": " ++ quoted path

def message : Fault → Text
  | name flaw => nameFlawText flaw
  | file reason path => systemText reason path
  | reading reason => errnoText reason
  | linkLoop path => "Symlink loop from " ++ quoted path
  | homeless => "Could not determine home directory."
  | damaged damage => damageText damage
  | plan cause => cause.message
  | settings cause => cause.message
  | integerTooLarge => "int too large to convert to float"
  | integer radix text =>
    "invalid literal for int() with base " ++ toString radix.base ++ ": " ++ quotedStart text
  | integerTooLong digits =>
    limitText ++ ": value has " ++ toString digits ++ " digits" ++ limitAdvice
  | integerUnwritable => limitText ++ limitAdvice
  | number text => "could not convert string to float: " ++ quoted text
  | notNumber typeName =>
    "float() argument must be a string or a real number, not '" ++ typeName ++ "'"
  | emptyNumeral => "string index out of range"
  | notTruth text => quoted text
  | moment cause => cause.message
  | notMoment => "'NoneType' object has no attribute 'groupdict'"
  | momentNotText => "expected string or bytes-like object, got 'list'"
  | noCodePoint code =>
    if code < 0x80000000 then "chr() arg not in range(0x110000)"
    else "Python int too large to convert to C int"
  | tooDeep => "maximum recursion depth exceeded"
  | tooDeepToShow => "maximum recursion depth exceeded while getting the repr of an object"
  | emptyCommand => "list index out of range"
  | noPath => "expected str, bytes or os.PathLike object, not list"
  | noNumber => "'<' not supported between instances of 'list' and 'int'"

end Fault

/-- The digits of an integer, or the fault that there are too many to write. -/
def Text.integerText (n : Int) : Except Fault Text :=
  match writeInteger? n with
  | some s => .ok s
  | none => .error .integerUnwritable

/-- The path of what a path leads to, or the fault that keeps it from being found. -/
def Files.Disk.realPath (d : Disk) (path : Text) : Except Fault Text :=
  (d.real path).mapError Fault.ofPath

end PerlAudit
