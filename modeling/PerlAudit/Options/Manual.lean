import PerlAudit.Options.Grammar

namespace PerlAudit.Options

def programName : Text := "perlstrict"

def helpSpec : Spec := ⟨.help, ["-h", "--help"], none, "show this help message and exit"⟩

def verboseSpec : Spec :=
  ⟨.verbose, ["-v", "--verbose"], none, "Log subprocess commands and skipped paths to stderr."⟩

def choices : List (Text × Text) := [
  ("syntax", "Run perl -c on each file or module."),
  ("strict", "Require 'use strict;' in each file or module."),
  ("warnings", "Require 'use warnings' (or a -w shebang) in each file or module."),
  ("files", "Syntax and strict checks for every perl file below the given directories."),
  ("cover", "Run test scripts under Devel::Cover and enforce a minimum total coverage.")]

def topGrammar (width : Int) : Grammar :=
  { width := width
    program := programName
    about :=
      some "Check Perl syntax, use strict, use warnings and test coverage, reporting TAP."
    options := [helpSpec, verboseSpec,
      ⟨.config, ["--config"], some "CONFIG",
        "Path to .perlstrict.yml or the directory holding it (defaults to current directory)."⟩,
      ⟨.plan, ["--plan"], some "PLAN", "Declare the expected number of results up front."⟩,
      ⟨.perl, ["--perl"], some "PERL", "Perl interpreter to run."⟩,
      ⟨.logFile, ["--log-file"], some "LOG_FILE", "Also write log records to this file."⟩]
    words := .command choices }

/-- The grammar of a command that checks single files. -/
def checkGrammar (width : Int) (command : Text) : Grammar :=
  { width := width
    program := programName ++ " " ++ command
    about := none
    options := [helpSpec, verboseSpec]
    words := .some "files" "File paths or My::Module names." }

def filesGrammar (width : Int) : Grammar :=
  { width := width
    program := programName ++ " files"
    about := none
    options := [helpSpec, verboseSpec,
      ⟨.warnings, ["--warnings"], none, "Also require use warnings in every file."⟩]
    words := .any "dirs" "Directories to search (defaults to '.')." }

def coverGrammar (width : Int) : Grammar :=
  { width := width
    program := programName ++ " cover"
    about := none
    options := [helpSpec, verboseSpec,
      ⟨.threshold, ["--threshold"], some "THRESHOLD", "Minimum total coverage percentage."⟩,
      ⟨.cover, ["--cover"], some "COVER", "Path to the cover binary."⟩]
    words := .any "dirs" "Directories holding test scripts (defaults to '.')." }

end PerlAudit.Options
