import CivicReport.Decimal.Reading

/-!
The words of a command line. Options come before or after the name of a task, and those that every
task has may be given in both places, where the later one counts. A word that begins with a dash
is never taken for the value of an option.
-/
namespace CivicReport

/-- What the program is to do. -/
inductive Job where
  | ask (question : String) (confirmed : Bool)
  | parse (question : String)
  | sql (question : String)
  | domains
  | serve (port : Option Nat)
  deriving Repr, DecidableEq

structure Invocation where
  configPath : Option String
  asJson : Bool
  /-- The address of a service that is to answer in place of the program. -/
  remote : Option String
  job : Job
  deriving Repr, DecidableEq

/-- Why a command line does not start a job. -/
inductive Refusal where
  /-- Help is asked for, about one task or the whole program. -/
  | help (task : Option String)
  | version
  | misuse (reason : String)
  deriving Repr, DecidableEq

namespace Arguments

structure OptionForm where
  long : String
  short : Option Char := none
  /-- What its value is called, if it takes one. -/
  value : Option String := none
  about : String
  permits : String → Bool := fun _ => true

def OptionForm.takesValue (o : OptionForm) : Bool := o.value.isSome

/-- The options and operands that may stand in one part of a command line. -/
structure Form where
  /-- The task that stands before this part. -/
  task : Option String := none
  about : String
  /-- In the order in which they are listed. -/
  options : List OptionForm
  /-- What is said about the question that has to follow, if one has to. -/
  question : Option String := none
  /-- The tasks that end this part and begin the next one. -/
  tasks : List Form := []

/-- Whether this part belongs to the whole program. -/
def Form.isOutermost (form : Form) : Bool := form.task.isNone

structure Found where
  flags : List String := []
  values : List (String × String) := []
  operands : List String := []

def Found.value? (f : Found) (name : String) : Option String :=
  (f.values.find? (·.1 == name)).map (·.2)

def Found.has (f : Found) (name : String) : Bool := f.flags.contains name

def misuse {α : Type} (reason : String) : Except Refusal α := .error (.misuse reason)

def addFlag (o : OptionForm) (f : Found) : Except Refusal Found :=
  if f.has o.long then misuse ("--" ++ o.long ++ " is given twice")
  else .ok { f with flags := o.long :: f.flags }

def addValue (o : OptionForm) (value : String) (f : Found) : Except Refusal Found :=
  if (f.value? o.long).isSome then misuse ("--" ++ o.long ++ " is given twice")
  else if o.permits value then .ok { f with values := (o.long, value) :: f.values }
  else misuse ("--" ++ o.long ++ " cannot be " ++ value)

def addOperand (form : Form) (word : String) (f : Found) : Except Refusal Found :=
  if form.question.isSome && f.operands.isEmpty then .ok { f with operands := [word] }
  else misuse (word ++ " is not expected")

/-- An option by its long name, perhaps with a value behind an equals sign. The option is left
over if its value is to follow. -/
def readLong (form : Form) (word : List Char) (f : Found) :
    Except Refusal (Found × Option OptionForm) :=
  let name := String.ofList (word.takeWhile (· != '='))
  let attached := match word.dropWhile (· != '=') with
    | [] => none
    | _ :: value => some (String.ofList value)
  match form.options.find? (·.long == name), attached with
  | some o, some value =>
    if o.takesValue then (addValue o value f).map (·, none)
    else misuse ("--" ++ name ++ " takes no value")
  | some o, none =>
    if o.takesValue then .ok (f, some o) else (addFlag o f).map (·, none)
  | none, some _ => misuse ("--" ++ name ++ " is not expected")
  | none, none =>
    if name = "help" then .error (.help form.task)
    else if name = "version" ∧ form.isOutermost then .error .version
    else misuse ("--" ++ name ++ " is not expected")

/-- Options by their letters. The first one that takes a value takes what is left of the word. -/
def readLetters (form : Form) (f : Found) : List Char → Except Refusal (Found × Option OptionForm)
  | [] => .ok (f, none)
  | c :: rest =>
    match form.options.find? (·.short == some c) with
    | some o =>
      if o.takesValue then
        match rest with
        | [] => .ok (f, some o)
        | '=' :: value => (addValue o (String.ofList value) f).map (·, none)
        | value => (addValue o (String.ofList value) f).map (·, none)
      else do readLetters form (← addFlag o f) rest
    | none =>
      if c = 'h' then .error (.help form.task)
      else if c = 'V' ∧ form.isOutermost then .error .version
      else misuse ("-" ++ c.toString ++ " is not expected")

/-- Reads one part of a command line: what it holds, and what begins the next part. Behind a
double dash there are only operands. -/
def readPart (form : Form) (f : Found) (pending : Option OptionForm) (plain : Bool) :
    List String → Except Refusal (Found × List String)
  | [] =>
    match pending with
    | some o => misuse ("--" ++ o.long ++ " needs a value")
    | none => .ok (f, [])
  | word :: rest =>
    match pending, word.toList with
    | some o, '-' :: _ :: _ => misuse ("--" ++ o.long ++ " needs a value")
    | some o, _ => do readPart form (← addValue o word f) none plain rest
    | none, chars =>
      if plain then do readPart form (← addOperand form word f) none true rest
      else if form.tasks.any (·.task == some word) then .ok (f, word :: rest)
      else
        match chars with
        | ['-', '-'] => readPart form f none true rest
        | '-' :: '-' :: name => do
          let (f, pending) ← readLong form name f
          readPart form f pending false rest
        | '-' :: c :: letters => do
          let (f, pending) ← readLetters form f (c :: letters)
          readPart form f pending false rest
        | _ => do readPart form (← addOperand form word f) none false rest

/-! The forms of this program. -/

def readPort? (s : String) : Option Nat :=
  (readInt64? s.toList).bind fun n =>
    if 0 ≤ n.toInt ∧ n.toInt < 65536 then some n.toInt.toNat else none

def remoteVariable : String := "BUDGET_QUERY_REMOTE"

def configOption : OptionForm where
  long := "config"
  short := some 'c'
  value := some "CONFIG"
  about := "Path to configuration file"

def jsonOption : OptionForm where
  long := "json"
  about := "Output as JSON"

def remoteOption : OptionForm where
  long := "remote"
  short := some 'r'
  value := some "REMOTE"
  about := "Send requests to a running REST server (e.g. http://localhost:8080/api/v1)"

def yesOption : OptionForm where
  long := "yes"
  short := some 'y'
  about := "Execute low-confidence interpretations without asking"

def portOption : OptionForm where
  long := "port"
  short := some 'p'
  value := some "PORT"
  about := "HTTP port. If not specified, uses config file value"
  permits s := (readPort? s).isSome

def logOption : OptionForm where
  long := "json-logs"
  about := "Enable JSON logging format"

def askForm : Form where
  task := some "ask"
  about := "Answer a question end to end"
  options := [configOption, yesOption, jsonOption, remoteOption]
  question := some "The question, e.g. \"כמה פרויקטים פעילים יש\""

def parseForm : Form where
  task := some "parse"
  about := "Print the structured intent for a question"
  options := [configOption, jsonOption, remoteOption]
  question := some "The question"

def sqlForm : Form where
  task := some "sql"
  about := "Print the SQL and parameters a question compiles to"
  options := [configOption, jsonOption, remoteOption]
  question := some "The question"

def domainsForm : Form where
  task := some "domains"
  about := "List report domains"
  options := [configOption, jsonOption, remoteOption]

def serveForm : Form where
  task := some "serve"
  about := "Run the REST server"
  options := [configOption, portOption, jsonOption, logOption, remoteOption]

def helpName : String := "help"

/-- The form of a request for help, whose parts are not options. -/
def helpForm : Form where
  task := some helpName
  about := "Print this message or the help of the given subcommand(s)"
  options := []

def mainForm : Form where
  about := "Natural-language report engine for municipal budget data"
  options := [configOption, jsonOption, remoteOption]
  tasks := [askForm, parseForm, sqlForm, domainsForm, serveForm, helpForm]

def formOf? (task : String) : Option Form := mainForm.tasks.find? (·.task == some task)

/-- The job of a name, with what stands behind it. -/
def job (name : String) (f : Found) : Except Refusal Job :=
  if name = "domains" then .ok .domains
  else if name = "serve" then .ok (.serve ((f.value? "port").bind readPort?))
  else match f.operands with
    | question :: _ =>
      if name = "ask" then .ok (.ask question (f.has "yes"))
      else if name = "parse" then .ok (.parse question)
      else .ok (.sql question)
    | [] => misuse "a question is needed"

/-- Help can be asked for about the program or about one task. -/
def helpAbout : List String → Refusal
  | [] => .help none
  | [name] => if (formOf? name).isSome then .help (some name) else .misuse (name ++ " is not expected")
  | _ => .misuse "there is one name too many"

/-- Reads a command line. An address that is not given may come from the environment. -/
def read (remote : Option String) (words : List String) : Except Refusal Invocation := do
  let (before, rest) ← readPart mainForm {} none false words
  match rest with
  | [] => misuse "a task is needed"
  | name :: rest =>
    if name = helpName then .error (helpAbout rest)
    else
      let (f, _) ← readPart ((formOf? name).getD mainForm) {} none false rest
      pure {
        configPath := (f.value? "config").or (before.value? "config")
        asJson := f.has "json" || before.has "json"
        remote := (f.value? "remote").or ((before.value? "remote").or remote)
        job := ← job name f }

end Arguments

end CivicReport
