import CommandDocs.CommandLine.Options

/-!
# Usage

The text about the arguments of the program.
-/

namespace CommandDocs.Usage

/-- The arguments of all commands. -/
def lines : List Text :=
  ["usage: " ++ Text.ofString "lsfdocs generate --baseline FILE --docs DIRECTORY --output FILE",
    "               [--suffix SUFFIX] [--placeholder-prefix TEXT] [--log FILE] [--verbose]",
    "       lsfdocs show NAME --data FILE [--baseline FILE] [--verbose]",
    "       lsfdocs complete [PREFIX] --data FILE [--baseline FILE] [--verbose]",
    "",
    "A path may begin with ~ for the home directory or @ for the program directory."]

end CommandDocs.Usage
