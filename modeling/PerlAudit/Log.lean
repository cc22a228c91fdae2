import PerlAudit.Fault
import PerlAudit.Files.Edit

/-!
Log records, and the handlers that write them. A logger hands its records on to the next logger
above it that is known. Which loggers may stand above it is read off its name, from the last dot on.
The code point before a dot is passed over, so a name with two dots in a row may pass its family by;
such records do not reach the family's handlers.
-/

namespace PerlAudit.Log

open Files

abbrev Level := Int

def debug : Level := 10
def info : Level := 20
def warning : Level := 30

/-- The name of a level. A level without one of its own is named by its number. -/
def levelName (level : Level) : Except Fault Text :=
  if level = 0 then .ok "NOTSET"
  else if level = debug then .ok "DEBUG"
  else if level = info then .ok "INFO"
  else if level = warning then .ok "WARNING"
  else if level = 40 then .ok "ERROR"
  else if level = 50 then .ok "CRITICAL"
  else (Text.integerText level).map ("Level " ++ ·)

def family : String := "perlstrict"

/-- The full name of a logger of the family; the family itself has no name or an empty one. -/
def loggerName (name : Option Text) : Text :=
  match Text.given name with
  | some part => family ++ "." ++ part
  | none => family

structure Record where
  level : Level
  levelName : Text
  logger : Text
  message : Text
  deriving DecidableEq, Repr

/-- The form in which a record is written. -/
inductive Form where
  /-- The message alone. -/
  | bare
  /-- The message behind the family and the level. -/
  | console
  /-- The message behind a stamp such as the time, the level and the logger. -/
  | file
  deriving DecidableEq, Repr

def Form.text (form : Form) (stamp : String) (r : Record) : Text :=
  match form with
  | bare => r.message ++ "\n"
  | console => "[" ++ family ++ "] " ++ r.levelName ++ " " ++ r.message ++ "\n"
  | file => stamp ++ r.levelName ++ " " ++ r.logger ++ ": " ++ r.message ++ "\n"

inductive Stream where
  | console
  /-- The end of the file at a place. -/
  | file (place : Location)
  deriving DecidableEq, Repr

/-- A handler writes records from its own level on. -/
structure Handler where
  level : Level
  form : Form
  stream : Stream
  deriving DecidableEq, Repr

/-- The log file that a handler writes to. -/
def Handler.place? (h : Handler) : Option Location :=
  match h.stream with
  | .console => none
  | .file place => some place

def lastResort : Handler := ⟨warning, .bare, .console⟩

/-- Records that come to no handler come to the last resort. -/
def orLastResort (handlers : List Handler) : List Handler :=
  if handlers.isEmpty then [lastResort] else handlers

/-- What the family does with its records. -/
structure Sinks where
  /-- From which level on records are taken up. At zero this is left to the loggers above. -/
  level : Level
  /-- Whether records are handed on to the loggers above. -/
  propagates : Bool
  handlers : List Handler
  /-- The log files that are open, by their places. -/
  opened : List Location
  deriving DecidableEq, Repr

namespace Sinks

def initial : Sinks := ⟨0, true, [], []⟩

def add (s : Sinks) (h : Handler) : Sinks := { s with handlers := s.handlers ++ [h] }

/-- Takes a handler off and closes its stream. The console stays open. -/
def drop (s : Sinks) (h : Handler) : Sinks :=
  { s with
    handlers := s.handlers.erase h
    opened := h.place?.elim s.opened s.opened.erase }

/-- Takes off the handlers that are there, one after the other. -/
def dropAll (s : Sinks) : Sinks := s.handlers.foldl drop s

/-- Opens a log file for a new handler. -/
def addFile (s : Sinks) (level : Level) (place : Location) : Sinks :=
  { s with opened := s.opened ++ [place] }.add ⟨level, .file, .file place⟩

/-- From which level on a logger takes up records. The loggers above the family ask for warnings. -/
def threshold (s : Sinks) (heard : Bool) : Level :=
  if heard && s.level != 0 then s.level else warning

end Sinks

/-- The names that may stand above a name, which is given from its end, the nearest first. -/
def namesAbove : Text → List Text
  | .char '.' :: last :: rest => (last :: rest).reverse :: namesAbove rest
  | _ :: rest => namesAbove rest
  | [] => []

/-- The loggers that are known, and what has been decided about them: whether a logger takes up
records of a level. A decision stands until the family's level is set. -/
structure Loggers where
  known : List Text
  decided : List ((Text × Level) × Bool)
  deriving DecidableEq, Repr

namespace Loggers

def initial : Loggers := ⟨[], []⟩

/-- The logger that a logger hands its records on to. -/
def above? (l : Loggers) (name : Text) : Option Text :=
  (namesAbove name.reverse).find? l.known.contains

/-- Whether a logger's records come to the family, in at most so many steps. -/
def reachesIn (l : Loggers) : Nat → Text → Bool
  | 0, name => name == family
  | steps + 1, name => name == family || (l.above? name).any (l.reachesIn steps)

/-- Whether a logger's records come to the family. Names above a name are shorter. -/
def reaches (l : Loggers) (name : Text) : Bool := l.reachesIn name.length name

def learn (l : Loggers) (name : Text) : Loggers :=
  if l.known.contains name then l else { l with known := name :: l.known }

def forget (l : Loggers) : Loggers := { l with decided := [] }

/-- Whether a logger takes up records of a level, unless that has been decided before. -/
def takes (l : Loggers) (threshold : Level) (logger : Text) (level : Level) : Bool :=
  match l.decided.lookup (logger, level) with
  | some verdict => verdict
  | none => decide (threshold ≤ level)

/-- Keeps the decision about records of a level. -/
def settle (l : Loggers) (threshold : Level) (logger : Text) (level : Level) : Loggers :=
  { l with decided := ((logger, level), l.takes threshold logger level) :: l.decided }

end Loggers

def levelFor (verbose : Bool) : Level := if verbose then debug else info

end PerlAudit.Log
