import LineMachine.Text.Basic

/-! The fixed texts of the command: its version and terms of use, its usage, and the configuration
file that it starts with. -/

namespace LineMachine.Cli

/-- Every line is ended. -/
def textOf (lines : List String) : Text := lines.flatMap fun line => utf8 line ++ [Text.newline]

def version : Text := utf8 "dev"

/-- The version and the terms of use. -/
def license : Text :=
  utf8 "ppl, the PPL interpreter version " ++ version ++ textOf [
    "",
    "",
    "MIT License",
    "",
    "Copyright (c) 2025 Jeffrey R. Day",
    "",
    "Permission is hereby granted, free of charge, to any person",
    "obtaining a copy of this software and associated documentation",
    "files (the \"Software\"), to deal in the Software without",
    "restriction, including without limitation the rights to use,",
    "copy, modify, merge, publish, distribute, sublicense, and/or",
    "sell copies of the Software, and to permit persons to whom the",
    "Software is furnished to do so, subject to the following",
    "conditions:",
    "",
    "The above copyright notice and this permission notice",
    "(including the next paragraph) shall be included in all copies",
    "or substantial portions of the Software.",
    "",
    "THE SOFTWARE IS PROVIDED \"AS IS\", WITHOUT WARRANTY OF ANY KIND,",
    "EXPRESS OR IMPLIED, INCLUDING BUT NOT LIMITED TO THE WARRANTIES",
    "OF MERCHANTABILITY, FITNESS FOR A PARTICULAR PURPOSE AND",
    "NONINFRINGEMENT. IN NO EVENT SHALL THE AUTHORS OR COPYRIGHT",
    "HOLDERS BE LIABLE FOR ANY CLAIM, DAMAGES OR OTHER LIABILITY,",
    "WHETHER IN AN ACTION OF CONTRACT, TORT OR OTHERWISE, ARISING",
    "FROM, OUT OF OR IN CONNECTION WITH THE SOFTWARE OR THE USE OR",
    "OTHER DEALINGS IN THE SOFTWARE."]

def usage : Text :=
  textOf [
    "Usage: ppl [options] program.ppl",
    "       ppl -i [options]",
    "",
    "Run a PPL program.",
    "",
    "Options:",
    "  --license           View license and exit",
    "  -d, -debug          Enable debug output",
    "  -trace              Log every executed line",
    "  -i                  Interactive session (reads stdin line by line when piped)",
    "  -watch              Re-run the program whenever the file changes",
    "  -config FILE        Config file (default ~/.ppl/config.yaml)",
    "  -color MODE         Colored error output: auto, always, never",
    "",
    "Examples:",
    "  ppl examples/countdown.ppl",
    "  ppl -trace examples/lists.ppl",
    "  ppl -watch work.ppl"]

/-- The content of a configuration file that is made because there was none. -/
def initialConfiguration : Text :=
  textOf [
    "# PPL CLI configuration",
    "# This file is automatically created on first run",
    "",
    "# Show debug logging on stderr (same as -debug)",
    "debug: false",
    "",
    "# Log every executed line (same as -trace)",
    "trace: false",
    "",
    "# Restrict debug logging to these categories; empty means all.",
    "# Categories: parse, command, variable, argument, io, math, list, type, flow, system",
    "log_categories: []",
    "",
    "# Colored error output: \"auto\", \"always\" or \"never\"",
    "color: auto",
    "",
    "# REPL history file; empty uses ~/.ppl/history",
    "history_file: \"\""]

end LineMachine.Cli
