import GlowSyntax.Parse.Parser

namespace GlowSyntax

inductive Command
  | tokens (file : String) (raw : Bool)
  | parse (file rule : String) (options : MatchOptions) (json : Bool)
  | grammar
  deriving DecidableEq, Repr

inductive Topic
  | program
  | tokens
  | parse
  | grammar
  | help
  deriving DecidableEq, Repr

inductive Request
  | run (command : Command) (verbose quiet : Bool)
  | version
  | help (topic : Topic)
  | misuse
  deriving DecidableEq, Repr

structure Outcome where
  status : UInt8
  output : String
  errors : String
  deriving DecidableEq, Repr

def versionText : String := "glow 0.1.0\n"

def optionLines (rows : List (String × String)) : String :=
  let width := (rows.map (·.1.length)).foldl max 0
  String.join (rows.map fun r => "  " ++ r.1.pushn ' ' (width - r.1.length) ++ "  " ++ r.2 ++ "\n")

def commonOptions : List (String × String) := [
  ("-v, --verbose", "Enable verbose output. / 启用详细输出。"),
  ("-q, --quiet", "Suppress output. / 抑制输出。"),
  ("-h, --help", "Print help")]

def commandAbout : Topic → String
  | .program => "Glow - tokenize and parse Glow source files"
  | .tokens => "Print the tokens of a file. / 打印文件的 token。"
  | .parse => "Parse a file and print the match tree. / 解析文件并打印匹配树。"
  | .grammar => "Show the built-in grammar. / 显示内置语法。"
  | .help => "Print this message or the help of the given subcommand(s)"

def helpText (t : Topic) : String :=
  commandAbout t ++ "\n\n" ++ match t with
  | .program =>
    "Usage: glow [OPTIONS] <COMMAND>\n\nCommands:\n"
      ++ optionLines [("tokens", commandAbout .tokens), ("parse", commandAbout .parse),
        ("grammar", commandAbout .grammar), ("help", commandAbout .help)]
      ++ "\nOptions:\n" ++ optionLines (commonOptions ++ [("-V, --version", "Print version")])
  | .tokens =>
    "Usage: glow tokens [OPTIONS] <FILE>\n\nArguments:\n"
      ++ optionLines [("<FILE>", "The file to tokenize. / 要进行词法分析的文件。")]
      ++ "\nOptions:\n" ++ optionLines
        (("    --raw", "Include whitespace, line breaks and comments. / 包含空白、换行和注释。") :: commonOptions)
  | .parse =>
    "Usage: glow parse [OPTIONS] <FILE>\n\nArguments:\n"
      ++ optionLines [("<FILE>", "The file to parse. / 要解析的文件。")]
      ++ "\nOptions:\n" ++ optionLines ([
        ("-r, --rule <RULE>", "Start rule. / 起始规则。 [default: program]"),
        ("    --max-recursion <MAX_RECURSION>",
          "Maximum rule attempts nested without consuming a token. / 不消耗 token 时规则尝试的最大嵌套数。 [default: 256]"),
        ("    --allow-trailing", "Accept input left over after the start rule. / 接受起始规则之后剩余的输入。"),
        ("    --json", "Print the match tree as JSON. / 以 JSON 格式打印匹配树。")] ++ commonOptions)
  | .grammar =>
    "Usage: glow grammar [OPTIONS]\n\nOptions:\n" ++ optionLines commonOptions
  | .help =>
    "Usage: glow help [COMMAND]...\n\nArguments:\n"
      ++ optionLines [("[COMMAND]...", "Print help for the subcommand(s)")]

end GlowSyntax
