import FindReplace.CommandLine.Options

/-!
# The verbose switch in front of a command line

A command line with `-x` in front asks for the same as without it, but verbosely, and it is refused
for the same reason if it is refused. So whoever wants to see what a run does need only write `-x`
first; anywhere else it may come between an option and its value, or between the replacement and
the file.

No step of making out the words looks at whether the run is to be verbose. The one more word costs
one more step, which there is room for, as every step takes a word.
-/
namespace FindReplace.CommandLine

def Progress.aloud (p : Progress) : Progress := { p with verbose := true }

def Request.aloud (r : Request) : Request := { r with verbose := true }

def Step.aloud : Step → Step
  | .done p => .done p.aloud
  | .more p rest => .more p.aloud rest

end FindReplace.CommandLine
