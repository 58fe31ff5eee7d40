import RecursiveFactorial.CommandLine.Arguments

/-!
# Help texts
-/
namespace RecursiveFactorial.CommandLine

def versionText : String := "fatorial-cli 0.1.0\n"

def Command.about : Command → String
  | .run => "Print n! (default n = 10)"
  | .ask => "Read n from stdin and print n!"
  | .repl => "Factorial REPL"
  | .source => "Emit the program as C"

def helpAbout : String := "Print this message or the help of the given subcommand(s)"

/-- The column after the longest option. -/
def optionColumn : Nat := 25

/-- A text with blanks after it up to a column. -/
def padded (column : Nat) (s : String) : String :=
  s ++ String.ofList (List.replicate (column - s.length) ' ')

/-- A line of an options section; those without a letter stand where the long name stands. -/
def optionLine (names about : String) : String :=
  padded optionColumn ("  " ++ names) ++ about ++ "\n"

def Opt.line : Opt → String
  | .setting .config =>
    optionLine "    --config <CONFIG>" "JSON config file; without it the built-in defaults apply"
  | .setting .value => optionLine "    --value <VALUE>" ""
  | .setting .out => optionLine "    --out <OUT>" ""
  | .flag .wrapping =>
    optionLine "    --wrapping" "Wrap on overflow like a C int instead of failing"
  | .flag .help => optionLine "-h, --help" "Print help"
  | .flag .version => optionLine "-V, --version" "Print version"

def optionsSection (level : Level) : String :=
  "Options:\n" ++ String.join ((longOptions level).map fun o => o.2.line)

def commandLine (name about : String) : String :=
  padded 8 ("  " ++ name) ++ about ++ "\n"

def helpText : Topic → String
  | .program =>
    "Recursive factorial\n\nUsage: fatorial [OPTIONS] [COMMAND]\n\nCommands:\n" ++
      String.join (Command.all.map fun c => commandLine c.name c.about) ++
      commandLine helpWord helpAbout ++ "\n" ++ optionsSection none
  | .command c =>
    c.about ++ "\n\nUsage: fatorial " ++ c.name ++ " [OPTIONS]\n\n" ++ optionsSection (some c)
  | .help =>
    helpAbout ++ "\n\nUsage: fatorial help [COMMAND]...\n\n" ++
      "Arguments:\n  [COMMAND]...  Print help for the subcommand(s)\n"

end RecursiveFactorial.CommandLine
