import ProcessLaunch.CommandLine.Terminal

/-!
# Help texts

The texts are written for a terminal: the names of options are in bold.
-/

namespace ProcessLaunch.CommandLine

def programName : String := "direct-debit-workflow"

def versionLine : String := s!"{programName} 0.1.0"

def usageLines : List String :=
  [inBold "Usage:" ++ " " ++ inBold programName ++ " [OPTIONS]", "", inBold "Options:"]

def environmentText (indent : String) (resources : Option String) : String :=
  "[env: WORKFLOW_RESOURCES=" ++ (resources.getD "").replace "\n" ("\n" ++ indent) ++ "]"

def resourcesText : String :=
  "Directory holding the properties file and the BPMN resources. A relative path, including the " ++
    "default, is resolved against the current working directory"

def shortIndent : String := "                                   "

def shortHelp (resources : Option String) : String :=
  let environment := environmentText shortIndent resources
  "\n".intercalate (usageLines ++
    ["      " ++ inBold "--resources" ++ " <RESOURCES>      " ++ resourcesText ++
        s!" {environment} [default: resources]",
      "      " ++ inBold "--config-file" ++ " <CONFIG_FILE>  " ++
        "Properties file name, relative to the resource directory " ++
        "[default: application.properties]",
      "      " ++ inBold "--engine" ++ " <ENGINE>            " ++
        "Process engine backend [default: in-memory] [possible values: in-memory, rest]",
      "      " ++ inBold "--print-config" ++ "               " ++
        "Print the loaded configuration with passwords masked",
      "  " ++ inBold "-h" ++ ", " ++ inBold "--help" ++ "                       " ++
        "Print help (see more with '--help')",
      "  " ++ inBold "-V" ++ ", " ++ inBold "--version" ++ "                    " ++
        "Print version"])

def longIndent : String := "          "

def longHelp (resources : Option String) : String :=
  let environment := environmentText longIndent resources
  let line (text : String) : String := longIndent ++ text
  "\n".intercalate (usageLines ++
    ["      " ++ inBold "--resources" ++ " <RESOURCES>",
      line resourcesText,
      line "",
      line environment,
      line "[default: resources]",
      "",
      "      " ++ inBold "--config-file" ++ " <CONFIG_FILE>",
      line "Properties file name, relative to the resource directory",
      line "",
      line "[default: application.properties]",
      "",
      "      " ++ inBold "--engine" ++ " <ENGINE>",
      line "Process engine backend",
      "",
      line "Possible values:",
      line ("- " ++ inBold "in-memory" ++
        ": Standalone engine kept in memory for the duration of the run"),
      line ("- " ++ inBold "rest" ++ ":      Remote engine reached through its REST API"),
      line "",
      line "[default: in-memory]",
      "",
      "      " ++ inBold "--print-config",
      line "Print the loaded configuration with passwords masked",
      "",
      "  " ++ inBold "-h" ++ ", " ++ inBold "--help",
      line "Print help (see a summary with '-h')",
      "",
      "  " ++ inBold "-V" ++ ", " ++ inBold "--version",
      line "Print version"])

end ProcessLaunch.CommandLine
