import ModalConsole.Command.Table

/-!
# The commands of the shell

Model of `builtin_commands`: the table of the shell, with a name for each handler.
-/

namespace ModalConsole

/-- A command of the shell. -/
inductive Builtin where
  | help
  | iptv
  | metamask
  | echo
  | clear
  | grub
  | grubrescue
  | root
  | blankspaces
  | number46
  | number92
  | number93
  | game
  | productman
  | logout
  | whoami
  | su
  | website
  | infofetch
  | knowledge
  | shutdown
  | reboot
  | vga
  | dots
  | remove
  deriving DecidableEq, Repr

namespace Builtin

/-- A command that everybody may run, listed on a page of the help. -/
def listed (name : String) (action : Builtin) (page : Nat) (usage summary : String) :
    CommandSpec Builtin :=
  { name := name, helpPage := some page, usage := usage, summary := summary, action := action }

/-- The commands of the shell, in the order of the help. -/
def specs : List (CommandSpec Builtin) :=
  [{ listed "help" help 1 "<page>" "Shows the Commands" with aliases := ["cmds"] },
    listed "iptv" iptv 1 "" "i need IPTV",
    listed "metamask" metamask 1 "" "Metamask wallet got hacked",
    listed "echo" echo 1 "<text>" "Print the same thing you sent in the second argument",
    { listed "clear" clear 1 "" "Clears the terminal" with aliases := ["minireboot"] },
    listed "grub" grub 1 "[--noclearafter]" "Displays the fake Welcome to GRUB! screen",
    listed "grubrescue" grubrescue 1 "" "Displays the fake grub rescue screen (interactive)",
    listed "root" root 1 "" "R00t",
    listed "blankspaces" blankspaces 1 ""
      "The Amount of Blankspaces commands you have used on this current session",
    listed "46" number46 1 "" "The Number 46",
    listed "92" number92 1 "" "The Number 92",
    listed "93" number93 1 "" "The Number 93",
    listed "game1" game 1 "" "Game 1",
    listed "productman" productman 1 "[--deactivate]"
      "A wizard for activating your current Lebirun Session",
    { listed "logout" logout 1 "" "Logs out the user" with aliases := ["logoff"] },
    listed "whoami" whoami 1 "" "Sends the username of current logged in user",
    listed "su" su 1 "<root|user|prv>"
      ("Switches to another user without having to fully logout "
        ++ "(use su prv to go back to the previous user)"),
    listed "website" website 1 "" "Outputs the lebirun website link",
    listed "infofetch" infofetch 1 "" "Outputs some of the OS Info",
    { listed "knowledge" knowledge 2 "<command>" "Get info about a specific command" with
      aliases := ["man"] },
    { listed "shutdown" shutdown 2 "" "Shuts down the computer" with
      aliases := ["poweroff"], privilege := .root },
    { listed "reboot" reboot 2 "" "Shuts down the computer, and then starts it again." with
      aliases := ["restart"], privilege := .root },
    listed "vga" vga 2 "" "Display GUI",
    { name := "unknown1", action := dots },
    { name := "rm", action := remove }]

/-- The table of the shell. -/
def table : CommandTable Builtin := .ofList specs

end Builtin

end ModalConsole
