/-!
# What the command line says about itself
-/

namespace SenderPolicy.CommandLine

/-- The name of the program. -/
def programName : String := "spfcheck-cli"

/-- The version of the program. -/
def programVersion : String := "0.1.0"

/-- What is shown to somebody who asks for help. -/
def helpText : String := String.join
  ["Resolve SPF records into authorized networks\n",
    "\n",
    "Usage: spfcheck-cli [OPTIONS] [DOMAINS]...\n",
    "\n",
    "Arguments:\n",
    "  [DOMAINS]...  domaines à résoudre\n",
    "\n",
    "Options:\n",
    "      --stdin                     lit des domaines depuis stdin (un par ligne)\n",
    "      --out <OUT>                 write report to file (format choisi par --format)\n",
    "      --format <FORMAT>           format: human|json|ndjson|csv [default: human]\n",
    "      --max-depth <MAX_DEPTH>     profondeur maximale include/redirect [default: 10]\n",
    "      --nameserver <NAMESERVERS>  serveur DNS à interroger (répétable, IP)\n",
    "      --timeout-ms <TIMEOUT_MS>   timeout par requête DNS (ms) [default: 5000]\n",
    "      --attempts <ATTEMPTS>       nombre de tentatives par requête DNS [default: 2]\n",
    "      --abort-on-error            une erreur DNS interrompt toute la résolution du domaine\n",
    "      --explain                   récupère le texte pointé par exp=\n",
    "  -h, --help                      Print help\n",
    "  -V, --version                   Print version\n"]

/-- What is shown to somebody who asks for the version. -/
def versionText : String := programName ++ " " ++ programVersion ++ "\n"

end SenderPolicy.CommandLine
