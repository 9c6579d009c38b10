import CivicReport.Command.Arguments

/-!
What a command line may hold, told to people: the tasks of the program, and the options and
operands of each part, with their descriptions one below the other.
-/
namespace CivicReport.Arguments

def programName : String := "budget-query"

/-- Rows of a name and a description, which all begin in one column. -/
def aligned (rows : List (String × String)) : List String :=
  let width := (rows.map fun r => r.1.length).foldl max 0
  rows.map fun r =>
    "  " ++ r.1 ++ String.ofList (List.replicate (width - r.1.length + 2) ' ') ++ r.2

def OptionForm.heading (o : OptionForm) : String :=
  let short := match o.short with
    | some c => "-" ++ c.toString ++ ", "
    | none => "    "
  short ++ "--" ++ o.long ++ ((o.value.map fun v => " <" ++ v ++ ">").getD "")

/-- The description of an option. The value that the environment has for it is told too. -/
def OptionForm.description (remote : Option String) (o : OptionForm) : String :=
  if o.long = remoteOption.long then
    o.about ++ " [env: " ++ remoteVariable ++ "=" ++ remote.getD "" ++ "]"
  else o.about

def helpOption : OptionForm where
  long := "help"
  short := some 'h'
  about := "Print help"

def versionOption : OptionForm where
  long := "version"
  short := some 'V'
  about := "Print version"

/-- The options of a part, with those that only tell something. -/
def Form.listed (form : Form) : List OptionForm :=
  if form.task = some helpName then []
  else form.options ++ [helpOption] ++ (if form.isOutermost then [versionOption] else [])

def Form.synopsis (form : Form) : String :=
  "Usage: " ++ programName ++ ((form.task.map (" " ++ ·)).getD "") ++
    (if form.listed.isEmpty then " [COMMAND]..." else " [OPTIONS]") ++
    (if form.isOutermost then " <COMMAND>" else "") ++
    (if form.question.isSome then " <QUERY>" else "")

/-- The operands of a part. A request for help may name a task. -/
def Form.operands (form : Form) : List (String × String) :=
  if form.task = some helpName then [("[COMMAND]...", "Print help for the subcommand(s)")]
  else form.question.toList.map fun about => ("<QUERY>", about)

def listing (heading : String) (rows : List (String × String)) : List String :=
  if rows.isEmpty then [] else ["", heading ++ ":"] ++ aligned rows

def Form.usage (remote : Option String) (form : Form) : List String :=
  [form.about, "", form.synopsis] ++
  listing "Commands" (form.tasks.map fun t => (t.task.getD "", t.about)) ++
  listing "Arguments" form.operands ++
  listing "Options" (form.listed.map fun o => (o.heading, o.description remote))

/-- The help about a task, or about the program. -/
def usage (remote : Option String) (task : Option String) : List String :=
  ((task.bind formOf?).getD mainForm).usage remote

end CivicReport.Arguments
