import ContractDrill.Number.Layout
import ContractDrill.Screen.Report
import ContractDrill.Session.Record
import ContractDrill.Settings.Basic

/-!
# Reports of a session

What a session shows: where it begins, each step with the command it runs and what the node
printed, each look at the schedule while it waits, and how it ends.
-/

namespace ContractDrill

namespace Report

/-- The text as markup that shows it as it is. -/
def literally (s : String) : String :=
  String.ofList (Markup.escape s.toList)

/-! ### Steps -/

/-- Where a session begins. -/
def banner (settings : Settings) : Report :=
  [blank,
    .panel none ⟨1, 4⟩ (.text .running
      ("[bold cyan]CronCat Deployment & Exercise Harness[/bold cyan]\n" ++
        "[dim]instantiate → register agent → create tasks → proxy_call ×2[/dim]\n\n" ++
        s!"[dim]Node     :[/dim] [white]{settings.node}[/white]\n" ++
        s!"[dim]Chain ID :[/dim] [white]{settings.chainId}[/white]\n" ++
        s!"[dim]Code ID  :[/dim] [white]{settings.codeId}[/white]"))]

/-- The beginning of a step. -/
def stepStart (name description : String) : Report :=
  [blank,
    .rule s!"[cyan]{String.ofList (upperCase name.toList)}[/cyan]",
    line s!"  [white]{description}[/white]"]

/-- The command that a step runs. -/
def nodeCall (argv : List String) : Report :=
  let command := literally (" ".intercalate argv)
  [line s!"  [blue]→[/blue] [dim]{command}[/dim]"]

/-- The address that a step found. -/
def contractResolved (address : String) : Report :=
  [line s!"  [bold green]✓ Contract address[/bold green]  [white]{address}[/white]"]

/-- The end of a step. -/
def stepDone (name : String) : Report :=
  [line s!"  [bold green]✓ {name}[/bold green]"]

/-! ### Waits -/

/-- The beginning of a wait. -/
def waitStart (description : String) : Report :=
  [line s!"  [yellow]… {description}[/yellow]"]

/-- A look at the schedule. -/
def pollStatus (due slotted height : Int) (elapsed : Binary64) : Report :=
  [line (s!"  [dim yellow]↳ {due}/{slotted} slotted task(s) due at height {height} " ++
    s!"after {elapsed.fixed1}s[/dim yellow]")]

/-! ### Ends -/

/-- The text, cut after `size` characters. -/
def cutAfter (size : Nat) (s : String) : String :=
  if size < s.length then String.ofList (s.toList.take size ++ ['…']) else s

/-- The exit code of a step. -/
def exitMark (exitCode : Int) : String :=
  if exitCode = 0 then "[bold green]0[/bold green]" else s!"[bold red]{exitCode}[/bold red]"

/-- The row of a step in the summary. -/
def summaryRow (number : Nat) (step : StepRecord) : List String :=
  [toString number, step.name, exitMark step.exitCode,
    cutAfter 60 (" ".intercalate ((step.argv.drop 1).take 3))]

/-- The log of a session as a table. -/
def summaryTable (log : List StepRecord) : Table where
  columns :=
    [⟨"#", .center, some 4⟩, ⟨"Step", .left, some 16⟩, ⟨"Exit", .center, some 6⟩,
      ⟨"Command", .left, none⟩]
  rows := log.zipIdx.map fun (step, index) => summaryRow (index + 1) step

/-- What a session has run. -/
def summary (log : List StepRecord) : Report :=
  [blank, .panel (some " EXECUTION SUMMARY ".toList) ⟨0, 1⟩ (summaryTable log).block]

/-- The end of a session that came through. -/
def completed (contract : String) : Report :=
  [blank,
    .panel (some "  DONE  ".toList) ⟨1, 2⟩ (.text .running
      (s!"[white]All steps completed against[/white] [bold white]{contract}[/bold white]")),
    blank]

/-- The end of a session that failed, with what the node printed last. -/
def halt (reason : String) (details : List String) : Report :=
  [blank,
    .panel (some "  HALT  ".toList) ⟨0, 2⟩
      (.text .running s!"[bold white]{literally reason}[/bold white]")] ++
    details.flatMap echo ++ [blank]

end Report

end ContractDrill
