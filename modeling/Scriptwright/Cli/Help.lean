import Scriptwright.Console.View
/-!
# Help

The texts that the program prints about itself, for a terminal of eighty columns.
-/
namespace Scriptwright
namespace Cli

def lines (ls : List String) : Text := ls.flatMap fun l => l.toList ++ ['\n']

def programName : Text := "scriptcuro".toList

def mainUsage : Text := lines ["usage: scriptcuro [-h] [-v] Command ..."]

def mainHelp : Text :=
  mainUsage ++ lines
    ["",
     "ScriptCuro - Legacy Shell/Perl to Python & PySpark Converter",
     "",
     "positional arguments:",
     "  Command",
     "    convert      Convert legacy scripts",
     "    scan         Report convertibility without writing",
     "",
     "options:",
     "  -h, --help     show this help message and exit",
     "  -v, --version  show program's version number and exit"]

def convertUsage : Text := lines
  ["usage: scriptcuro convert [-h] [--to \x7bpython,pyspark\x7d]",
   "                          [--source \x7bauto,bash,perl,mixed\x7d]",
   "                          [--ext EXT [EXT ...]] [--format \x7btable,yaml,json\x7d]",
   "                          [--config CONFIG] [--output OUTPUT] [--dry-run]",
   "                          [--diff]",
   "                          path"]

def scanUsage : Text := lines
  ["usage: scriptcuro scan [-h] [--to \x7bpython,pyspark\x7d]",
   "                       [--source \x7bauto,bash,perl,mixed\x7d] [--ext EXT [EXT ...]]",
   "                       [--format \x7btable,yaml,json\x7d] [--config CONFIG]",
   "                       path"]

/-- What both commands take. -/
def sharedHelp : Text := lines
  ["",
   "positional arguments:",
   "  path                  Script file, directory, or '-' for stdin",
   "",
   "options:",
   "  -h, --help            show this help message and exit",
   "  --to \x7bpython,pyspark\x7d",
   "                        Target dialect (default: python)",
   "  --source \x7bauto,bash,perl,mixed\x7d",
   "                        Source language hint",
   "  --ext EXT [EXT ...]   Script extensions to pick up in directories",
   "  --format \x7btable,yaml,json\x7d",
   "                        Report output format",
   "  --config CONFIG       YAML settings file"]

def convertHelp : Text :=
  convertUsage ++ sharedHelp ++ lines
    ["  --output OUTPUT       Directory for converted files (default: beside source)",
     "  --dry-run             Print results without writing",
     "  --diff                Display side-by-side comparison"]

def scanHelp : Text := scanUsage ++ sharedHelp

end Cli
end Scriptwright
