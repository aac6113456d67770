import FindReplace.Text.Integer
import FindReplace.Text.Quoted

/-!
Making out a command line. Every word is first told to be an option, the separator `--` or a plain
word; after the separator all words are plain. Options may be cut short to a part that fits only
one, and short ones may be joined with each other and with a value. Then options and plain words are
taken in the order in which they stand. The pattern takes the first plain word and the replacement
the next; the file name is taken together with the replacement, so it has to follow it at once.
-/
namespace FindReplace.CommandLine

open Text (quoted)

inductive Switch
  | help
  | version
  | limit
  | output
  | verbose
  deriving DecidableEq, Repr

namespace Switch

def all : List Switch := [.help, .version, .limit, .output, .verbose]

def short : Switch → String
  | .help => "-h"
  | .version => "-v"
  | .limit => "-l"
  | .output => "-o"
  | .verbose => "-x"

def long : Switch → String
  | .help => "--help"
  | .version => "--version"
  | .limit => "--limit"
  | .output => "--output"
  | .verbose => "--verbose"

def takesValue : Switch → Bool
  | .limit => true
  | .output => true
  | _ => false

def ofShort? (c : Char) : Option Switch := all.find? fun s => s.short.toList == ['-', c]

def ofName? (name : List Char) : Option Switch :=
  all.find? fun s => s.short.toList == name || s.long.toList == name

end Switch

/-- Why the words cannot be made out. -/
inductive UsageFault
  | ambiguous (word : String) (switches : List Switch)
  | ignoredValue (s : Switch) (value : String)
  | missingValue (s : Switch)
  | invalidLimit (value : String)
  | required (names : List String)
  | unrecognized (words : List String)
  deriving DecidableEq, Repr

namespace UsageFault

def about (s : Switch) (text : String) : String :=
  "argument " ++ s.short ++ "/" ++ s.long ++ ": " ++ text

def message : UsageFault → String
  | .ambiguous word switches =>
    "ambiguous option: " ++ word ++ " could match " ++ ", ".intercalate (switches.map Switch.long)
  | .ignoredValue s value => about s ("ignored explicit argument " ++ quoted value)
  | .missingValue s => about s "expected one argument"
  | .invalidLimit value => about .limit ("invalid int value: " ++ quoted value)
  | .required names => "the following arguments are required: " ++ ", ".intercalate names
  | .unrecognized words => "unrecognized arguments: " ++ " ".intercalate words

end UsageFault

/-- Why there is nothing to be run. -/
inductive Stop
  | help
  | version
  | fault (f : UsageFault)
  deriving DecidableEq, Repr

/-- An option word: the switch it names, whether by its long name, and a value in the same word.
`equals` if the value follows an equals sign. -/
structure OptionWord where
  switch : Switch
  isLong : Bool
  equals : Bool
  value : Option (List Char)
  deriving DecidableEq, Repr

inductive WordKind
  | plain
  | separator
  | option (o : OptionWord)
  | unknownOption
  deriving DecidableEq, Repr

namespace WordKind

def isOption : WordKind → Bool
  | .option _ => true
  | .unknownOption => true
  | _ => false

end WordKind

/-- What stands before the first equals sign, and what after it if there is one. -/
def splitEquals (w : List Char) : List Char × Option (List Char) :=
  match w.dropWhile (· != '=') with
  | [] => (w, none)
  | _ :: after => (w.takeWhile (· != '='), some after)

/-- A minus sign and digits of any script, with a point among them or not; at least one digit is
last. -/
def isNegativeNumber (w : List Char) : Bool :=
  let digit (c : Char) : Bool := Text.isDigit c.toNat
  let body := if w.getLast? = some '\n' then w.dropLast else w
  match body with
  | '-' :: rest =>
    match rest.dropWhile digit with
    | [] => !rest.isEmpty
    | '.' :: fraction => !fraction.isEmpty && fraction.all digit
    | _ => false
  | _ => false

/-- A word that begins with a hyphen and is not the name of an option. -/
def unlikeOption (w : List Char) : WordKind :=
  if isNegativeNumber w || w.contains ' ' then .plain else .unknownOption

/-- A word of two hyphens or more, that is no whole name of an option. -/
def longWord (w : List Char) : Except Stop WordKind :=
  let (name, value) := splitEquals w
  match Switch.all.filter fun s => name.isPrefixOf s.long.toList with
  | [] => .ok (unlikeOption w)
  | [s] => .ok (.option ⟨s, true, value.isSome, value⟩)
  | several => .error (.fault (.ambiguous (String.ofList w) several))

/-- A word before the separator, other than the separator. -/
def kindOf (w : List Char) : Except Stop WordKind :=
  match w with
  | '-' :: c :: rest =>
    match Switch.ofName? w with
    | some s => .ok (.option ⟨s, c == '-', false, none⟩)
    | none =>
      match splitEquals w with
      | (name, some value) =>
        match Switch.ofName? name with
        | some s => .ok (.option ⟨s, c == '-', true, some value⟩)
        | none => if c == '-' then longWord w else shortWord w c rest
      | (_, none) => if c == '-' then longWord w else shortWord w c rest
  | _ => .ok .plain
where
  shortWord (w : List Char) (c : Char) (rest : List Char) : Except Stop WordKind :=
    match Switch.ofShort? c with
    | some s => .ok (.option ⟨s, false, false, some rest⟩)
    | none => .ok (unlikeOption w)

abbrev Words := List (String × WordKind)

def kinds : List String → Except Stop Words
  | [] => .ok []
  | w :: rest =>
    if w == "--" then .ok ((w, .separator) :: rest.map fun v => (v, .plain))
    else do
      let kind ← kindOf w.toList
      let others ← kinds rest
      return (w, kind) :: others

/-- A plain word that is wanted, with separators before and after it. -/
def takeWord (ws : Words) : Option (List String × Words) :=
  let separator (x : String × WordKind) : Bool := x.2 == .separator
  match ws.dropWhile separator with
  | (w, .plain) :: rest =>
    some ((ws.takeWhile separator).map Prod.fst ++ w :: (rest.takeWhile separator).map Prod.fst,
      rest.dropWhile separator)
  | _ => none

/-- A plain word that may be there. -/
def takeOptionalWord (ws : Words) : List String × Words :=
  let separator (x : String × WordKind) : Bool := x.2 == .separator
  (takeWord ws).getD ((ws.takeWhile separator).map Prod.fst, ws.dropWhile separator)

/-- The word among those taken. The first one written like the separator is not it, so after the
separator a word `--` can be left without its meaning: then there is none. -/
def wordOf (taken : List String) : Option String := (taken.erase "--").head?

/-- A plain word, or what came to be in its place. -/
abbrev Given := Option String

/-- Which plain words are still to come: the pattern and all after it, the replacement and the file
name, or none. -/
inductive Awaiting
  | pattern
  | replacement (pattern : Given)
  | nothing (pattern replacement : Given) (file : Option String)
  deriving DecidableEq, Repr

structure Progress where
  awaiting : Awaiting
  limit : Option Int
  output : Option String
  verbose : Bool
  extras : List String
  deriving DecidableEq, Repr

def Progress.initial : Progress := ⟨.pattern, none, none, false, []⟩

/-- The replacement and, if it follows, the file name. -/
def takeReplacement (pattern : Given) (ws : Words) : Option (Awaiting × Words) :=
  match takeWord ws with
  | none => none
  | some (taken, rest) =>
    let (file, rest) := takeOptionalWord rest
    some (.nothing pattern (wordOf taken) (wordOf file), rest)

/-- As many plain words as are awaited and stand first. -/
def takePlain (a : Awaiting) (ws : Words) : Awaiting × Words :=
  match a with
  | .pattern =>
    match takeWord ws with
    | none => (a, ws)
    | some (taken, rest) =>
      (takeReplacement (wordOf taken) rest).getD (.replacement (wordOf taken), rest)
  | .replacement pattern => (takeReplacement pattern ws).getD (a, ws)
  | .nothing .. => (a, ws)

/-- A switch that takes effect, with its value if it takes one. -/
def applySwitch (p : Progress) (s : Switch) (value : String) : Except Stop Progress :=
  match s with
  | .help => .error .help
  | .version => .error .version
  | .verbose => .ok { p with verbose := true }
  | .output => .ok { p with output := some value }
  | .limit =>
    match Text.readInteger value.toList with
    | some n => .ok { p with limit := some n }
    | none => .error (.fault (.invalidLimit value))

/-- What an option word comes to: switches without a value, then one that may take a value from the
word or from the next one, then text that is no option. -/
structure Expansion where
  flags : List Switch
  last : Option (Switch × Option String)
  rest : Option String
  deriving DecidableEq, Repr

/-- Takes apart short options joined in one word: `s` with the text after it. -/
def expandJoined (flags : List Switch) (s : Switch) (equals : Bool) :
    List Char → Except Stop Expansion
  | [] =>
    if s.takesValue then .ok ⟨flags, some (s, some ""), none⟩
    else .error (.fault (.ignoredValue s ""))
  | c :: rest =>
    if s.takesValue then .ok ⟨flags, some (s, some (String.ofList (c :: rest))), none⟩
    else if equals || c == '-' then
      .error (.fault (.ignoredValue s (String.ofList (c :: rest))))
    else
      match Switch.ofShort? c with
      | none => .ok ⟨flags ++ [s], none, some (String.ofList ('-' :: c :: rest))⟩
      | some next =>
        match rest with
        | [] => .ok ⟨flags ++ [s], some (next, none), none⟩
        | '=' :: value =>
          if next.takesValue then
            .ok ⟨flags ++ [s], some (next, some (String.ofList value)), none⟩
          else .error (.fault (.ignoredValue next (String.ofList value)))
        | d :: rest => expandJoined (flags ++ [s]) next false (d :: rest)

def expandOption (o : OptionWord) : Except Stop Expansion :=
  match o.value with
  | none => .ok ⟨[], some (o.switch, none), none⟩
  | some value =>
    if o.isLong then
      if o.switch.takesValue then .ok ⟨[], some (o.switch, some (String.ofList value)), none⟩
      else .error (.fault (.ignoredValue o.switch (String.ofList value)))
    else expandJoined [] o.switch o.equals value

/-- The option that may take a value, with its value, which may be the next word, and the words that
are left. -/
def Expansion.takeValue (e : Expansion) (ws : Words) :
    Except Stop (Option (Switch × String) × Words) :=
  match e.last with
  | none => .ok (none, ws)
  | some (s, some value) => .ok (some (s, value), ws)
  | some (s, none) =>
    if s.takesValue then
      match ws with
      | (w, .plain) :: rest => .ok (some (s, w), rest)
      | _ => .error (.fault (.missingValue s))
    else .ok (some (s, ""), ws)

/-- What all options of a word come to, the last of them with its value. -/
def Progress.applyAll (p : Progress) (e : Expansion) (last : Option (Switch × String)) :
    Except Stop Progress := do
  let p ← e.flags.foldlM (fun p s => applySwitch p s "") p
  let p ← last.elim (.ok p) fun (s, value) => applySwitch p s value
  return { p with extras := p.extras ++ e.rest.toList }

/-- Takes an option word and, if it needs one, the word after it as its value. -/
def takeOption (p : Progress) (o : OptionWord) (ws : Words) : Except Stop (Progress × Words) := do
  let e ← expandOption o
  let (last, ws) ← e.takeValue ws
  let p ← p.applyAll e last
  return (p, ws)

def isOptionWord (x : String × WordKind) : Bool := x.2.isOption

/-- What a step comes to: nothing is left, or some words are. -/
inductive Step
  | done (p : Progress)
  | more (p : Progress) (rest : Words)
  deriving DecidableEq, Repr

/-- Takes an option word, or the plain words before the next one. Plain words that nothing awaits
are left over. -/
def Progress.step (p : Progress) (ws : Words) : Except Stop Step :=
  if ws.any isOptionWord then
    match ws with
    | (w, .unknownOption) :: rest => .ok (.more { p with extras := p.extras ++ [w] } rest)
    | (_, .option o) :: rest => (takeOption p o rest).map fun (p, rest) => .more p rest
    | ws =>
      let (awaiting, rest) := takePlain p.awaiting ws
      let p := { p with awaiting := awaiting }
      if rest.length < ws.length then .ok (.more p rest)
      else
        let skipped := ws.takeWhile fun x => !isOptionWord x
        .ok (.more { p with extras := p.extras ++ skipped.map Prod.fst }
          (ws.dropWhile fun x => !isOptionWord x))
  else
    let (awaiting, rest) := takePlain p.awaiting ws
    .ok (.done { p with awaiting := awaiting, extras := p.extras ++ rest.map Prod.fst })

/-- Takes the words in order. -/
def takeAll : (fuel : Nat) → Progress → Words → Except Stop Progress
  | 0, p, _ => .ok p
  | fuel + 1, p, ws =>
    match p.step ws with
    | .error stop => .error stop
    | .ok (.done p) => .ok p
    | .ok (.more p rest) => takeAll fuel p rest

/-- What is to be run. `replacement` is none if a second separator stands in its place. -/
structure Request where
  pattern : Given
  replacement : Given
  file : Option String
  limit : Option Int
  output : Option String
  verbose : Bool
  deriving DecidableEq, Repr

def Progress.request (p : Progress) : Except Stop Request :=
  match p.awaiting with
  | .pattern => .error (.fault (.required ["pattern", "replacement"]))
  | .replacement _ => .error (.fault (.required ["replacement"]))
  | .nothing pattern replacement file =>
    if p.extras.isEmpty then .ok ⟨pattern, replacement, file, p.limit, p.output, p.verbose⟩
    else .error (.fault (.unrecognized p.extras))

def readWords (words : List String) : Except Stop Request := do
  let ws ← kinds words
  let p ← takeAll (2 * ws.length + 1) .initial ws
  p.request

end FindReplace.CommandLine
