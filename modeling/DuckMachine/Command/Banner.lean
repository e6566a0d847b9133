/-
  Fixed texts of the command line.
-/

namespace DuckMachine.Banner

/-- The version of the program. -/
def version : String := "0.1.0"

/-- The answer to a question for the version. -/
def versionLine : String := "duck " ++ version ++ "\n"

/-- The duck. -/
def logo : String :=
  "\n       __\n   ___( o)>\n   \\ <_. )\n    `---'   "

/-- A welcome to those who give no arguments. -/
def welcome : String :=
  "\nWelcome to duck, the Duck Machine assembler and simulator.\n"
    ++ "Please use `-h` or `--help` to access the usage instructions and documentation.\n"

/-- What is shown without any arguments. -/
def text : String := "\n~ duck v" ++ version ++ " ~\n" ++ logo ++ "\n" ++ welcome ++ "\n"

/-- A summary of the commands. -/
def help : String :=
  "Duck is an assembler and simulator for the Duck Machine.\n\n"
    ++ "Usage: duck [PATH] [COMMAND]\n\n"
    ++ "Commands:\n"
    ++ "  assemble [SOURCE] [OBJECT] [-e LIMIT]      write object code\n"
    ++ "  run NAME [-t] [-m] [-s] [-f ADDR] [-e LIMIT]  run a program until it halts\n"
    ++ "  check NAME [-e LIMIT]                      look for errors only\n"
    ++ "  watch NAME                                 check again after every change\n\n"
    ++ "Options:\n"
    ++ "  -h, --help     Print help\n"
    ++ "  -V, --version  Print version\n"

end DuckMachine.Banner
