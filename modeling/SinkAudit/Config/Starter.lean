/-!
# The starter file

A configuration file that spells out the defaults, for a user to begin with.
-/

namespace SinkAudit

/-- The name of the configuration file. -/
def configFileName : String := ".sinkscan.toml"

/-- A configuration file with all defaults. -/
def starterText : String :=
  "# sinkscan configuration\n" ++
  "\n" ++
  "[scan]\n" ++
  "# File extensions to scan.\n" ++
  "extensions = [\"js\", \"ts\", \"jsx\", \"tsx\"]\n" ++
  "# Trimmed lines longer than this are treated as minified and skipped.\n" ++
  "max_line_length = 500\n" ++
  "# Lines of context captured before and after each match.\n" ++
  "context_lines = 5\n" ++
  "# Honor .gitignore and skip hidden files.\n" ++
  "respect_gitignore = false\n" ++
  "# Rule IDs to leave out of the scan.\n" ++
  "# disabled_rules = [\"INSECURE_API\"]\n" ++
  "\n" ++
  "[cache]\n" ++
  "enabled = true\n" ++
  "path = \".sinkscan-cache.jsonl\"\n" ++
  "\n" ++
  "[classifier]\n" ++
  "model = \"gpt-4o-mini\"\n" ++
  "endpoint = \"https://api.openai.com/v1/chat/completions\"\n" ++
  "timeout_secs = 60\n" ++
  "max_retries = 2\n" ++
  "initial_backoff_ms = 500\n" ++
  "workers = 4\n"

end SinkAudit
