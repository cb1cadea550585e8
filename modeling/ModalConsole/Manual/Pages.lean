import ModalConsole.Manual.Pager

/-!
# The pages of the manual

Model of `builtin_pages`.
-/

namespace ModalConsole

/-- The manual that comes with the console, in page order. -/
def manualPages : List Page :=
  [⟨["help", "cmds"],
      ["About the Help / Cmds command", "",
        "Nothing much to explain, Help / Cmds command shows just the list of commands."]⟩,
    ⟨["clear", "minireboot"],
      ["About the Clear / Minireboot Command", "",
        "Clear (aka Minireboot) is a command which just simply clears your console history, "
          ++ "so nobody can see what commands you typed before."]⟩,
    ⟨["grub"],
      ["The GRUB Command", "", "This command was inspired by the Welcome to GRUB! text in Debian.",
        "", "This command has arguments:",
        "--noclearafter keeps the Welcome to GRUB! text on screen "
          ++ "until you run Clear (aka Minireboot)."]⟩,
    ⟨["grubrescue"],
      ["GRUBRescue", "", "This command enters a fake GRUB Rescue environment.", "",
        "You can exit the grubrescue environment by typing exit."]⟩,
    ⟨["game1"],
      ["About Game1", "",
        "An idle game: press Enter to earn coins, spend them in the shop on upgrades.",
        "Use data save / data load to keep your progress between runs."]⟩,
    ⟨["productman"],
      ["Productman - The Activator for Lebirun", "",
        "Productman asks for a product key and activates Lebirun when the key is valid.", "",
        "Productman has the following arguments:",
        "--deactivate, which removes the current Product Key assigned.",
        "There is also a secret argument which instantly activates Lebirun."]⟩,
    ⟨["su"],
      ["The SU Command", "",
        "Switches the user in the current terminal without fully logging out.", "",
        "su root asks for the root password, su user switches right away,",
        "su prv goes back to the previous user."]⟩]

end ModalConsole
