/-!
The texts that the command line prints about itself.
-/
namespace FindReplace.CommandLine

def programName : String := "jsubst"

def versionNumber : String := "1.0.0"

def versionText : String := programName ++ " version " ++ versionNumber ++ "\n"

def usageText : String :=
  "usage: jsubst [-h] [-v] [-l LIMIT] [-o output.txt] [-x]\n" ++
  "              pattern replacement [file.txt]\n"

def helpText : String :=
  usageText ++ "\n" ++
  "Find occurrences of a regex pattern in text and replace them.\n" ++
  "\n" ++
  "positional arguments:\n" ++
  "  pattern               regex pattern to find (must be non-empty)\n" ++
  "  replacement           replacement template, where `$$` is a literal dollar\n" ++
  "                        sign, `$0` is the whole match, and `$N` is the Nth\n" ++
  "                        captured group\n" ++
  "  file.txt              name of file to be read (defaults to standard input)\n" ++
  "\n" ++
  "options:\n" ++
  "  -h, --help            show this help message and exit\n" ++
  "  -v, --version         show program's version number and exit\n" ++
  "  -l LIMIT, --limit LIMIT\n" ++
  "                        maximum number of replacements (each replacement\n" ++
  "                        rewrites the first match in the result of the previous\n" ++
  "                        one)\n" ++
  "  -o output.txt, --output output.txt\n" ++
  "                        name of file to be written (defaults to standard\n" ++
  "                        output)\n" ++
  "  -x, --verbose         run in verbose mode (prints every replacement pass\n" ++
  "                        applied)\n"

/-- How a command line that cannot be made out is answered. -/
def usageError (message : String) : String :=
  usageText ++ programName ++ ": error: " ++ message ++ "\n"

end FindReplace.CommandLine
