/-!
# Help texts

What the program shows of itself: its version, and how it and each of its commands are used.
-/

namespace Downstream.Cli

/-- The name that the program is called by. -/
def programName : String := "ocp-scaffold"

/-- The name and the version of the program. -/
def versionLine : String := programName ++ " 0.1.0\n"

namespace Help

/-- What the program does. -/
def programAbout : String :=
  "Point freshly scaffolded operator projects at OpenShift downstream images"

/-- What the command `init` does. -/
def initAbout : String :=
  "Rewrite a freshly initialized project and record the plugin marker"

/-- What the command `substitutions` does. -/
def substitutionsAbout : String :=
  "List the built-in image and version substitutions"

/-- What the command `help` does. -/
def helpAbout : String :=
  "Print this message or the help of the given subcommand(s)"

/-- The help of the program. -/
def program : String :=
  programAbout ++ "\n\nUsage: ocp-scaffold [OPTIONS] <COMMAND>\n\nCommands:\n" ++
  "  init           " ++ initAbout ++ "\n" ++
  "  substitutions  " ++ substitutionsAbout ++ "\n" ++
  "  help           " ++ helpAbout ++ "\n" ++
  "\nOptions:\n" ++
  "      --debug    Enable debug logging\n" ++
  "  -h, --help     Print help\n" ++
  "  -V, --version  Print version\n"

/-- The help of the command `init`. -/
def init : String :=
  initAbout ++ "\n\nUsage: ocp-scaffold init [OPTIONS]\n\nOptions:\n" ++
  "      --project-dir <DIR>  Root of the generated project [default: .]\n" ++
  "      --debug              Enable debug logging\n" ++
  "  -h, --help               Print help\n"

/-- The help of the command `substitutions`. -/
def substitutions : String :=
  substitutionsAbout ++ "\n\nUsage: ocp-scaffold substitutions [OPTIONS]\n\nOptions:\n" ++
  "      --debug  Enable debug logging\n" ++
  "  -h, --help   Print help\n"

/-- The help of the command `help`. -/
def help : String :=
  helpAbout ++ "\n\nUsage: ocp-scaffold help [COMMAND]...\n\nArguments:\n" ++
  "  [COMMAND]...  Print help for the subcommand(s)\n"

end Help

end Downstream.Cli
