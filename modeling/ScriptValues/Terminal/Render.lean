import ScriptValues.Fault.Report
import ScriptValues.Terminal.Wrap

/-! Reports laid out for a terminal.

Nothing about values depends on the layout: the modules of this directory take a report and answer with
text, and only a program that shows reports uses them. -/

namespace ScriptValues.Terminal

structure Palette where
  alarm : String → String
  advice : String → String

namespace Palette

def plain : Palette := ⟨id, id⟩

def color : Palette where
  alarm mark := "\x1b[31m" ++ mark ++ "\x1b[0m"
  advice mark := "\x1b[36m" ++ mark ++ "\x1b[0m"

end Palette

/-- The columns of a report that are left for a message beside its marks. -/
def messageWidth : Nat := 194

def messageLines (message : String) : List String :=
  (message.toList.splitOnP (· == '\n')).flatMap fun line =>
    (wrapped messageWidth line).map String.ofList

def markedLines (palette : Palette) : List String → List String
  | [] => []
  | first :: rest =>
      ("  " ++ palette.alarm "×" ++ " " ++ first) ::
        rest.map fun line => "  " ++ palette.alarm "│" ++ " " ++ line

def reportLines (palette : Palette) (report : Report) : List String :=
  (report.code?.elim [] fun code => [palette.alarm code, ""]) ++
    markedLines palette (messageLines report.message) ++
    (report.help?.map fun help => palette.advice "  help: " ++ help).toList

def render (palette : Palette) (report : Report) : String :=
  String.join (reportLines palette report |>.map (· ++ "\n"))

end ScriptValues.Terminal
