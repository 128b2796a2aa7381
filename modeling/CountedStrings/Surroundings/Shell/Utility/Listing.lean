import CountedStrings.Surroundings.Shell.Pattern
import CountedStrings.Surroundings.Shell.Utility.Calendar
import CountedStrings.Surroundings.Shell.Utility.Sorting

/-!
# Lists of names

## 1.  Names

How a name is quoted, what mark stands behind it, and what is noted in front of it.

## 2.  Layouts

Names stand one on a line, in columns that are as many as fit, or with commas between them.

## 3.  Directories

The names of a directory that are shown, in the order that is asked for.

## 4.  The utilities

`ls`, `dir` and `vdir` differ only in what they do without options.
-/

namespace CountedStrings.Shell.Utility

/-! ## 1.  Names -/

/-- How names are laid out. -/
inductive ListLayout where
  | single
  | columns
  | rows
  | commas
  | long
  deriving DecidableEq

/-- How `ls` lists. -/
structure ListWay where
  given : List Given
  layout : ListLayout
  width : Nat
  tab : Nat
  /-- What is shown behind names: nothing, marks for directories, or marks for all kinds. -/
  marks : Nat
  /-- How names are quoted. -/
  quoting : String
  sort : String
  hidden : List String
  /-- What stands behind each line. -/
  behind : String
  /-- The formats of times that are not long ago, and of others. -/
  recent : String
  older : String

/-- A name that is listed. -/
structure ListEntry where
  name : String
  id : Nat
  /-- Whether facts about it are known: they are not for a link that leads nowhere and is followed. -/
  isKnown : Bool

/-- A fact about an entry, or a question mark if none is known. -/
def ListEntry.fact (f : ListEntry) (text : String) : String := if f.isKnown then text else "?"

/-- A name in quotes with backslashes, or with backslashes alone. -/
def backslashed (quotes : Bool) (name : String) : String :=
  let cs := (shapes true name.toList).flatMap fun (c, isShapeless) =>
    if isShapeless then escapedCharacter c
    else if c = '\\' || (quotes && c = '"') || (!quotes && c = ' ') then ['\\', c]
    else [c]
  let text := String.ofList cs
  if quotes then "\"" ++ text ++ "\"" else text

/-- A name as it is shown. -/
def ListWay.shown (x : ListWay) (name : String) : String :=
  match x.quoting with
  | "c" => backslashed true name
  | "escape" => backslashed false name
  | "shell-escape" => quotedIfNeeded false name
  | "shell-escape-always" | "shell-always" => quoted name
  | "shell" =>
    if quotedIfNeeded false name = name then name
    else if name.contains '\'' then "\"" ++ name ++ "\"" else "'" ++ name ++ "'"
  | "hidden" =>
    String.ofList ((shapes true name.toList).map fun (c, isShapeless) => if isShapeless then '?' else c)
  | _ => name

/-- The mark behind a name. -/
def ListWay.mark (x : ListWay) (files : FileSystem) (id : Nat) : String :=
  match kindLetter files id with
  | 'd' => if x.marks = 0 then "" else "/"
  | 'l' => if x.marks < 2 then "" else "@"
  | 'p' => if x.marks < 2 then "" else "|"
  | '-' => if x.marks = 3 && modeOf files id &&& 0o111 ≠ 0 then "*" else ""
  | _ => ""

/-- The size of a file with a unit. -/
def sizeWithUnit (base n : Nat) : String :=
  let (text, power) := sizeInUnits true base n
  text ++ unitLetter base power

/-- The blocks of a node as they are shown. -/
def ListWay.blocks (x : ListWay) (pieces : Nat) : String :=
  if has x.given 'h' then sizeWithUnit 1024 (pieces * 4096)
  else if has x.given 'O' then sizeWithUnit 1000 (pieces * 4096)
  else
    let unit := ((valueOf x.given 'Y').bind sizeOf?).getD 1024
    toString ((pieces * 4096 + unit - 1) / max unit 1)

/-- The size of a node as it is shown. -/
def ListWay.size (x : ListWay) (n : Nat) : String :=
  if has x.given 'h' then sizeWithUnit 1024 n
  else if has x.given 'O' then sizeWithUnit 1000 n
  else toString n

/-- How many columns a text takes: a character that begins no letter takes none. -/
def columnsOf (text : String) : Nat :=
  (text.toList.filter fun c => 0x20 ≤ c.toNat && c.toNat ≠ 0x7F &&
    !(0x80 ≤ c.toNat && c.toNat < 0xC0)).length

/-- How wide the widest of some texts is. -/
def widest (texts : List String) : Nat := (texts.map String.length).foldl max 0

/-- How long ago a time may be that is shown with the time of the day. -/
def recentSpan : Int := 15778476000

/-- The time of a node as it is shown. -/
def ListWay.time (x : ListWay) (files : FileSystem) (id : Nat) : String :=
  let time := modifiedOf files id
  let isRecent := time ≤ files.clock + 3600000 && files.clock - time < recentSpan
  let format := if isRecent then x.recent else x.older
  String.ofList (inFormat (Moment.ofTime time) 3 (format.length + 1) format.toList)

/-- What stands in front of the names in a long list, column by column. -/
def ListWay.facts (x : ListWay) (files : FileSystem) (all : List ListEntry) : List (List String) :=
  let given := x.given
  let facts (show_ : Nat → String) : List String := all.map fun f => f.fact (show_ f.id)
  let columns : List (Bool × List String) :=
    (if has given 'i' then [(true, facts toString)] else []) ++
    (if has given 's' then [(true, facts fun id => x.blocks (pieces files id))] else []) ++
    (if has given 'Z' && x.layout ≠ .long then [(false, facts fun _ => "?")] else []) ++
    (if x.layout ≠ .long then []
    else
      let shown (names : List (String × Nat)) (n : Nat) : String :=
        if has given 'n' then toString n else ownerName names n
      let user := facts fun id => shown userNames (ownerOf files id).1
      [(false, all.map fun f => if f.isKnown then shownKind files f.id else "l?????????"),
        (true, facts fun id => toString (nameCount files id))] ++
      (if has given 'g' then [] else [(has given 'n', user)]) ++
      (if has given 'o' || has given 'G' then []
      else [(has given 'n', facts fun id => shown groupNames (ownerOf files id).2)]) ++
      (if has given 'W' then [(has given 'n', user)] else []) ++
      (if has given 'Z' then [(false, facts fun _ => "?")] else []) ++
      [(true, facts fun id =>
          match files.node? id with
          | some (.device d) => if d = .null then "1, 3" else if d = .zero then "1, 5" else "1, 7"
          | _ => x.size (sizeOfNode files id))])
  let laid := columns.map fun (right, texts) =>
    let width := widest texts
    texts.map (if right then atRight width else atLeft width)
  let times := all.map fun f =>
    if f.isKnown then x.time files f.id
    else atRight (columnsOf (x.time files f.id)) "?"
  let laid := if x.layout = .long then laid ++ [times] else laid
  (List.range all.length).map fun i => laid.map fun texts => texts.getD i ""

/-- What is shown of a name, with its mark and where a link leads to. -/
def ListWay.label (x : ListWay) (files : FileSystem) (f : ListEntry) : String :=
  let arrow := match x.layout, f.isKnown, targetOf? files f.id with
    | .long, true, some target => " -> " ++ x.shown target
    | _, _, _ => ""
  x.shown f.name ++ (if arrow = "" then x.mark files f.id else "") ++ arrow

/-! ## 2.  Layouts -/

/-- Blanks and tabs from one column to another. -/
def indentation (tab : Nat) : Nat → Nat → Nat → String
  | 0, _, _ => ""
  | budget + 1, column, stop =>
    if stop ≤ column then ""
    else if tab ≠ 0 && (column + 1) / tab < stop / tab then
      "\t" ++ indentation tab budget (column + (tab - column % tab)) stop
    else " " ++ indentation tab budget (column + 1) stop

/-- How wide the columns are when there are so many of them; `place` says in which column a text
stands. -/
def columnWidths (count : Nat) (place : Nat → Nat) (texts : Array String) : Array Nat :=
  (texts.toList.zipIdx).foldl (fun (widths : Array Nat) (text, i) =>
    let column := place i
    let width := columnsOf text + (if column + 1 = count then 0 else 2)
    widths.modify column (max width)) (Array.replicate count 3)

/-- Texts in columns, filled column by column or row by row. -/
def ListWay.table (x : ListWay) (byColumns : Bool) (texts : Array String) : String :=
  let n := texts.size
  let place (count i : Nat) : Nat :=
    if byColumns then i / ((n + count - 1) / count) else i % count
  let most := if x.width = 0 then n else min n (max 1 (x.width / 3))
  let fits (count : Nat) : Bool :=
    count = 1 || x.width = 0 ||
      (columnWidths count (place count) texts).foldl (· + ·) 0 < x.width
  let count := (((List.range most).reverse.map (· + 1)).find? fits).getD 1
  let widths := columnWidths count (place count) texts
  let rows := (n + count - 1) / count
  let line (r : Nat) : String :=
    let indices := (List.range count).map fun c => if byColumns then c * rows + r else r * count + c
    let present := indices.filter (· < n)
    let (text, _, _) := present.foldl (fun (state : String × Nat × Nat) i =>
      let (text, column, c) := state
      let start := (widths.toList.take c).foldl (· + ·) 0
      let gap := if c = 0 then "" else indentation x.tab (start + 1) column start
      let entry := texts[i]?.getD ""
      (text ++ gap ++ entry, start + columnsOf entry, c + 1)) ("", 0, 0)
    text ++ x.behind
  String.join ((List.range rows).map line)

/-- Texts with commas between them. -/
def ListWay.commaList (x : ListWay) (texts : List String) : String :=
  let (text, _) := texts.foldl (fun (state : String × Nat) text =>
    let (done, column) := state
    let own := columnsOf text
    if done = "" then (text, own)
    else if x.width = 0 || column + own + 2 < x.width then
      (done ++ ", " ++ text, column + 2 + own)
    else (done ++ ",\n" ++ text, own)) ("", 0)
  if texts.isEmpty then "" else text ++ x.behind

/-- Prints names. -/
def ListWay.show_ (x : ListWay) (all : List ListEntry) : Run Unit := do
  let files := (← get).files
  let facts := x.facts files all
  let texts := (all.zip facts).map fun (f, facts) => " ".intercalate (facts ++ [x.label files f])
  match x.layout with
  | .columns => if !texts.isEmpty then print (x.table true texts.toArray)
  | .rows => if !texts.isEmpty then print (x.table false texts.toArray)
  | .commas => print (x.commaList texts)
  | _ => print (String.join (texts.map (· ++ x.behind)))

/-! ## 3.  Directories -/

/-- The ending of a name, from its last point on. -/
def extensionOf (name : String) : List Char :=
  let cs := name.toList
  if cs.contains '.' then '.' :: (cs.reverse.takeWhile (· ≠ '.')).reverse else []

/-- Names in the order that is asked for. -/
def ListWay.sorted (x : ListWay) (files : FileSystem) (all : List ListEntry) : List ListEntry :=
  let byName (a b : ListEntry) : Ordering := compareTexts a.name.toList b.name.toList
  let modified (f : ListEntry) : Int := if f.isKnown then modifiedOf files f.id else 0
  let size (f : ListEntry) : Nat := if f.isKnown then sizeOfNode files f.id else 0
  let order (a b : ListEntry) : Ordering := match x.sort with
    | "time" => (compare (modified b) (modified a)).then (byName a b)
    | "size" => (compare (size b) (size a)).then (byName a b)
    | "extension" =>
      (compareTexts (extensionOf a.name) (extensionOf b.name)).then (byName a b)
    | "version" => (compareVersions a.name.toList b.name.toList).then (byName a b)
    | "width" => (compare a.name.length b.name.length).then (byName a b)
    | _ => byName a b
  let reversed := has x.given 'r'
  let sorted :=
    if x.sort = "none" then all
    else all.mergeSort fun a b => (turnedIf reversed (order a b)) ≠ .gt
  if has x.given 'J' then
    let isDirectory (f : ListEntry) : Bool := files.isDirectory f.id
    sorted.filter isDirectory ++ sorted.filter fun f => !isDirectory f
  else sorted

/-- Whether more has to be known about names than what they are. -/
def ListWay.needsFacts (x : ListWay) : Bool :=
  x.layout = .long || x.marks ≠ 0 || has x.given 's' || has x.given 'i' || has x.given 'Z' || has x.given 'R' ||
    has x.given 'J' || x.sort = "time" || x.sort = "size"

/-- The names of a directory that are listed. -/
def ListWay.names (x : ListWay) (files : FileSystem) (id : Nat) : List ListEntry :=
  let given := x.given
  let dots := lastOf given ['a', 'A', 'f']
  let parent := match files.node? id with
    | some (.directory parent _ _) => parent
    | _ => id
  let selves : List ListEntry :=
    if dots = some 'a' || dots = some 'f' then [⟨".", id, true⟩, ⟨"..", parent, true⟩] else []
  let entries := (files.entriesOf id).entries.map fun (name, child) =>
    ListEntry.mk (Bytes.toByteText name) child true
  let followed := if has given 'L' then entries.map fun f =>
      match targetOf? files f.id with
      | some _ =>
        let path := files.physicalPath id ++ "/" ++ f.name
        match files.find (Bytes.ofByteText path) with
        | .ok target => ⟨f.name, target, true⟩
        | .error _ => { f with isKnown := !x.needsFacts }
      | none => f
    else entries
  let ignored (patterns : List String) (name : String) : Bool :=
    patterns.any fun pattern =>
      Pattern.matches? (pattern.toList.map fun c => (c, false)) name.toList &&
        (!name.startsWith "." || pattern.startsWith ".")
  let always := (given.filter fun (c, _) => c = 'I').map (·.2)
  let kept := followed.filter fun f =>
    (dots.isSome || !f.name.startsWith ".") && !ignored always f.name &&
      !(has given 'B' && f.name.endsWith "~") && (dots.isSome || !ignored x.hidden f.name)
  selves ++ kept

/-- Lists a directory, and those in it if asked to, down to a depth.  The result says whether all that
is shown was known. -/
def ListWay.directory (x : ListWay) (name : String) (titled : Bool) :
    Nat → Bool → String → Nat → Run Bool
  | 0, _, _, _ => return true
  | depth + 1, first, path, id => do
    let files := (← get).files
    let found := x.names files id
    if titled then print ((if first then "" else "\n") ++ x.shown path ++ ":\n")
    for f in found do
      if !f.isKnown then
        let place := if path = "." then f.name else pathInto path f.name
        report name ("cannot access " ++ quoted place ++ ": " ++ FileError.missing.message)
    let all := x.sorted files found
    if x.layout = .long || has x.given 's' then
      let total := (all.map fun f => if f.isKnown then pieces files f.id else 0).foldl (· + ·) 0
      print ("total " ++ x.blocks total ++ x.behind)
    x.show_ all
    let mut isKnown := all.all (·.isKnown)
    if has x.given 'R' then
      for f in all do
        if files.isDirectory f.id && f.name ≠ "." && f.name ≠ ".." then
          let isKnownThere ← x.directory name titled depth false (pathInto path f.name) f.id
          isKnown := isKnown && isKnownThere
    return isKnown

/-! ## 4.  The utilities -/

/-- The options of `ls`. -/
def lsSyntax : Syntax where
  flags := "aAbBcCdDfFgGhHiklLmnNopqQrRsStuUvxXZ1"
  valued := "ITw"
  long := [⟨"all", 'a', .no⟩, ⟨"almost-all", 'A', .no⟩, ⟨"author", 'W', .no⟩, ⟨"escape", 'b', .no⟩,
    ⟨"block-size", 'Y', .yes⟩, ⟨"ignore-backups", 'B', .no⟩, ⟨"color", 'K', .maybe⟩,
    ⟨"directory", 'd', .no⟩, ⟨"dired", 'D', .no⟩, ⟨"classify", 'F', .maybe⟩,
    ⟨"file-type", 'P', .no⟩, ⟨"format", 'M', .yes⟩, ⟨"full-time", 'E', .no⟩,
    ⟨"group-directories-first", 'J', .no⟩, ⟨"no-group", 'G', .no⟩, ⟨"human-readable", 'h', .no⟩,
    ⟨"si", 'O', .no⟩, ⟨"dereference-command-line", 'H', .no⟩,
    ⟨"dereference-command-line-symlink-to-dir", '2', .no⟩, ⟨"hide", 'e', .yes⟩,
    ⟨"hyperlink", 'y', .maybe⟩, ⟨"indicator-style", 'j', .yes⟩, ⟨"inode", 'i', .no⟩,
    ⟨"ignore", 'I', .yes⟩, ⟨"kibibytes", 'k', .no⟩, ⟨"dereference", 'L', .no⟩,
    ⟨"numeric-uid-gid", 'n', .no⟩, ⟨"literal", 'N', .no⟩, ⟨"hide-control-chars", 'q', .no⟩,
    ⟨"show-control-chars", '3', .no⟩, ⟨"quote-name", 'Q', .no⟩, ⟨"quoting-style", '4', .yes⟩,
    ⟨"reverse", 'r', .no⟩, ⟨"recursive", 'R', .no⟩, ⟨"size", 's', .no⟩, ⟨"sort", '5', .yes⟩,
    ⟨"time", '6', .yes⟩, ⟨"time-style", '7', .yes⟩, ⟨"tabsize", 'T', .yes⟩, ⟨"width", 'w', .yes⟩,
    ⟨"context", 'Z', .no⟩, ⟨"zero", '0', .no⟩]
  permutes := true
  status := 2

/-- The layout that options ask for. -/
def listLayout (name : String) (given : List Given) (usual : ListLayout) : Run ListLayout := do
  match lastOf given ['l', 'C', 'x', 'm', '1', 'g', 'o', 'n', 'E', 'M', '0'] with
  | some '1' | some '0' =>
    return if given.any fun (c, _) => ['l', 'g', 'o', 'n'].contains c then .long else .single
  | some 'C' => return .columns
  | some 'x' => return .rows
  | some 'm' => return .commas
  | some 'M' => do
    let word ← wordAmong name "format" ((valueOf given 'M').getD "")
      [["verbose", "long"], ["commas"], ["horizontal", "across"], ["vertical"], ["single-column"]] 2
    return match word with
      | "verbose" => .long
      | "commas" => .commas
      | "horizontal" => .rows
      | "vertical" => .columns
      | _ => .single
  | some _ => return .long
  | none => return usual

/-- How names are quoted, as options ask. -/
def listQuoting (name : String) (given : List Given) (usual : String) : Run String := do
  match lastOf given ['b', 'N', 'Q', 'q', '4'] with
  | some 'b' => return "escape"
  | some 'Q' => return "c"
  | some 'q' => return "hidden"
  | some '4' =>
    wordAmong name "quoting-style" ((valueOf given '4').getD "") [["literal"], ["shell"],
      ["shell-always"], ["shell-escape"], ["shell-escape-always"], ["c"], ["c-maybe"], ["escape"],
      ["locale"], ["clocale"]] 2
  | some _ => return "literal"
  | none => return usual

/-- The order that options ask for. -/
def listOrder (name : String) (given : List Given) (isLong : Bool) : Run String := do
  match lastOf given ['t', 'S', 'U', 'X', 'v', 'f', '5'] with
  | some 't' => return "time"
  | some 'S' => return "size"
  | some 'X' => return "extension"
  | some 'v' => return "version"
  | some '5' =>
    wordAmong name "sort" ((valueOf given '5').getD "") [["none"], ["time"], ["size"],
      ["extension"], ["version"], ["width"]] 2
  | some _ => return "none"
  | none => return if !isLong && (has given 'c' || has given 'u') then "time" else "name"

/-- Which marks options ask for. -/
def listMarks (name : String) (given : List Given) : Run Nat := do
  match lastOf given ['F', 'P', 'p', 'j'] with
  | some 'F' =>
    return if ["never", "no", "none", "auto", "tty", "if-tty"].contains ((valueOf given 'F').getD "")
      then 0 else 3
  | some 'P' => return 2
  | some 'p' => return 1
  | some _ => do
    let word ← wordAmong name "indicator-style" ((valueOf given 'j').getD "") [["none"], ["slash"],
      ["file-type"], ["classify"]] 2
    return if word = "none" then 0 else if word = "slash" then 1 else if word = "file-type" then 2
      else 3
  | none => return 0

/-- A number that an option of `ls` gives. -/
def listNumber (name what : String) (given : Option String) (usual : Nat) : Run Nat := do
  match given with
  | none => return usual
  | some text =>
    match Number.ofDigits? text with
    | some n => return n
    | none => fail name ("invalid " ++ what ++ ": " ++ (← cited text)) 2

/-- The formats of times that a style stands for. -/
def timeFormats (name style : String) : Run (String × String) := do
  let usual := ("%b %e %H:%M", "%b %e  %Y")
  if style.startsWith "+" then
    match ((style.drop 1).toString).splitOn "\n" with
    | [format] => return (format, format)
    | [older, recent] => return (recent, older)
    | older :: recent :: _ =>
      fail name ("invalid time style format " ++ (← cited (older ++ "\n" ++ recent))) 2
    | [] => return usual
  else
    let plain := (style.splitOn "posix-").getLast?.getD ""
    let styles := [("full-iso", ("%Y-%m-%d %H:%M:%S.%N %z", "%Y-%m-%d %H:%M:%S.%N %z")),
      ("long-iso", ("%Y-%m-%d %H:%M", "%Y-%m-%d %H:%M")), ("iso", ("%m-%d %H:%M", "%Y-%m-%d ")),
      ("locale", usual)]
    let exact := styles.filter fun (word, _) => word = plain
    let close := styles.filter fun (word, _) => word.startsWith plain
    match exact, close with
    | [(_, formats)], _ | [], [(_, formats)] => return formats
    | _, _ => do
      let what := if close.isEmpty then "invalid" else "ambiguous"
      report name
        (what ++ " argument " ++ (← cited style) ++ " for " ++ (← cited "time style"))
      say ("Valid arguments are:\n  - [posix-]full-iso\n  - [posix-]long-iso\n" ++
        "  - [posix-]iso\n  - [posix-]locale\n" ++
        "  - +FORMAT (e.g., +%H:%M) for a 'date'-style format\n")
      referToHelp name 2

/-- The style of times that options ask for. -/
def timeStyle (given : List Given) : Run String := do
  match lastOf given ['E', '7'] with
  | some 'E' => return "full-iso"
  | some _ => return (valueOf given '7').getD ""
  | none => return ((← valueOf? "TIME_STYLE")).getD "locale"

/-- Checks the words of options that change nothing here. -/
def checkListWords (name : String) (given : List Given) : Run Unit := do
  if let some word := valueOf given 'K' then
    if word ≠ "" then
      discard (wordAmong name "color" word [["always", "yes", "force"], ["never", "no", "none"],
        ["auto", "tty", "if-tty"]] 2)
  if let some word := valueOf given '6' then
    discard (wordAmong name "time" word [["atime", "access", "use"], ["ctime", "status"],
      ["mtime", "modification"], ["birth", "creation"]] 2)

/-- Lists names, in a layout unless options ask for another one. -/
def listing (usual : ListLayout) (quoting : String) : Body := fun name arguments => do
  let (given, operands) ← options name lsSyntax arguments
  checkListWords name given
  let layout ← listLayout name given usual
  let style ← listQuoting name given quoting
  let order ← listOrder name given (layout = .long)
  let marks ← listMarks name given
  let columns := ((← valueOf? "COLUMNS").bind Number.ofDigits?).getD 80
  let width ← listNumber name "line width" (valueOf given 'w') columns
  let tab ← listNumber name "tab size" (valueOf given 'T') 8
  let hidden := (given.filter fun (c, _) => c = 'e').map (·.2)
  let behind := if has given '0' then "\x00" else "\n"
  let (recent, older) ← if layout = .long then timeFormats name (← timeStyle given) else pure ("", "")
  let x : ListWay :=
    ⟨given, layout, width, tab, marks, style, order, hidden, behind, recent, older⟩
  let mut status := 0
  let mut plain := []
  let mut directories := []
  for operand in (if operands.isEmpty then ["."] else operands) do
    let files := (← get).files
    let target ← nodeAt operand
    let stays := layout = .long || has given 'F' || has given 'd'
    let found ←
      if has given 'L' || has given 'H' then pure target
      else if stays then linkAt operand
      else
        match target with
        | .ok id => if files.isDirectory id then pure target else linkAt operand
        | .error _ => linkAt operand
    match found with
    | .error e =>
      report name ("cannot access " ++ quoted operand ++ ": " ++ e.message)
      status := 2
    | .ok id =>
      if files.isDirectory id && !has given 'd' then
        directories := directories ++ [ListEntry.mk operand id true]
      else plain := plain ++ [ListEntry.mk operand id true]
  let files := (← get).files
  x.show_ (x.sorted files plain)
  let titled := has given 'R' || 1 < operands.length
  let mut first := plain.isEmpty
  for f in x.sorted files directories do
    let isKnown ← x.directory name titled (files.nodes.size + 1) first f.name f.id
    if !isKnown then status := max status 1
    first := false
  finishOr 2 name status

/-- Lists names, one on a line. -/
def ls : Body := listing .single "literal"

/-- Lists names in columns, with backslashes. -/
def dir : Body := listing .columns "escape"

/-- Lists names with all that is noted, with backslashes. -/
def vdir : Body := listing .long "escape"

end CountedStrings.Shell.Utility
